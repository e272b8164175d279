import CloudDesk.Billing.Report
import CloudDesk.Budget.Policy
import CloudDesk.Http.Basic
import CloudDesk.Infrastructure.Info
import CloudDesk.Infrastructure.Template
import CloudDesk.Schedule.Runner

namespace CloudDesk

structure Notebook where
  owner : String
  provider : Provider
  instanceName : String
  template : String
  application : String
  shape : String
  edgeNodeName : String
  requestedAt : Instant
  deriving DecidableEq

def Notebook.toJson (n : Notebook) : Json :=
  .object [("owner", .string n.owner), ("provider", Wire.encode n.provider),
    ("instance_name", .string n.instanceName), ("template", .string n.template),
    ("application", .string n.application), ("shape", .string n.shape),
    ("edge_node_name", .string n.edgeNodeName), ("requested_at", Wire.encode n.requestedAt)]

def RunStats.toJson (s : RunStats) : Json :=
  .object [("failures", .ofNat s.failures), ("runs", .ofNat s.runs), ("skipped", .ofNat s.skipped)]

inductive Answer
  | greeting
  | report (report : Report Float)
  | sync (job : String) (started : Bool) (stats : RunStats)
  | budget (policy : Policy)
  | keyStatus (owner : String) (status : KeyStatus)
  | newKey (record : KeyRecord)
  | key (record : KeyRecord)
  | info (info : SharedInfo)
  | notebook (notebook : Notebook)
  | templates (cloud : Cloud)

namespace Answer

open Http

def status : Answer → Nat
  | .newKey _ => 201
  | .notebook _ | .sync _ true _ => 202
  | _ => 200

def viewPolicy (p : Policy) : Json :=
  .object (p.toFields ++ [("remaining", .ofFloat p.remaining), ("exhausted", .bool p.isExhausted)])

def viewSync (job : String) (started : Bool) (stats : RunStats) : Json :=
  let outcome := if started then TriggerAnswer.started else TriggerAnswer.skipped
  .object [("job", .string job), ("outcome", .string outcome.name), ("stats", stats.toJson)]

def viewTemplates (c : Cloud) : Json :=
  .object [("provider", Wire.encode c.provider), ("exploratory", Wire.encode c.exploratory),
    ("computational", Wire.encode c.computational)]

def body : Answer → Body
  | .greeting => .text "Self-Service Billing API"
  | .report r => .json r.toJson
  | .sync job started stats => .json (viewSync job started stats)
  | .budget p => .json (viewPolicy p)
  | .keyStatus owner s => .json (.object [("owner", .string owner), ("status", Wire.encode s)])
  | .newKey r | .key r => .json (Wire.encode r)
  | .info i => .json (Wire.encode i)
  | .notebook n => .json n.toJson
  | .templates cloud => .json (viewTemplates cloud)

def reply (a : Answer) : Reply := ⟨a.status, a.body⟩

end Answer

end CloudDesk
