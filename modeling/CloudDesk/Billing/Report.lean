import CloudDesk.Billing.Snapshot
import CloudDesk.Json.Wire
import CloudDesk.Taxonomy.Category

namespace CloudDesk

structure ReportLine (α : Type) where
  owner : String
  resourceType : String
  amount : α
  deriving DecidableEq

structure Report (α : Type) where
  currency : String
  syncedAt : Option Instant
  total : α
  lines : List (ReportLine α)
  deriving DecidableEq

namespace Snapshot

variable {α : Type} [Zero α] [Add α]

/-- The stored kinds that a list of names selects; no names select all kinds. -/
def selects (categories : List String) (kind : String) : Bool :=
  categories.isEmpty || (Taxonomy.expand categories).contains kind

def byCategory (categories : List String) (kinds : Table α) : Table α :=
  (kinds.entries.filter fun e => selects categories e.1).foldl
    (fun t e => accumulate t (Taxonomy.typeName e.1) e.2) Table.empty

def ownerLines (categories : List String) (e : String × Table α) : List (ReportLine α) :=
  (byCategory categories e.2).entries.map fun l => ⟨e.1, l.1, l.2⟩

def passes (owner : Option String) (name : String) : Bool :=
  match owner with
  | none => true
  | some o => o == name

def lines (s : Snapshot α) (owner : Option String) (categories : List String) : List (ReportLine α) :=
  (s.owners.entries.filter fun e => passes owner e.1).flatMap (ownerLines categories)

def report (s : Snapshot α) (owner : Option String) (categories : List String) : Report α :=
  let lines := s.lines owner categories
  ⟨s.currency, s.syncedAt, CloudDesk.total (lines.map ReportLine.amount), lines⟩

end Snapshot

def ReportLine.toJson (l : ReportLine Float) : Json :=
  .object [("owner", .string l.owner), ("resource_type", .string l.resourceType),
    ("amount", .ofFloat l.amount)]

def Report.toJson (r : Report Float) : Json :=
  .object [("currency", .string r.currency), ("synced_at", Wire.encode r.syncedAt),
    ("total", .ofFloat r.total), ("lines", .array (r.lines.map ReportLine.toJson))]

end CloudDesk
