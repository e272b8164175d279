import CloudDesk.Billing.Job
import CloudDesk.Desk.Answer
import CloudDesk.Desk.Failure
import CloudDesk.Registry

namespace CloudDesk

structure Desk where
  bundle : Bundle
  books : Sync.Books Store
  keys : KeyRing
  defaultCeiling : Option Float
  schedule : Option Schedule

namespace Desk

structure Outcome where
  answer : Except Failure Answer
  desk : Desk
  events : List AuditEvent

def store (d : Desk) : Store := d.books.store

def snapshot (d : Desk) : Snapshot Float := d.books.snapshot

def withStore (d : Desk) (store : Store) : Desk := { d with books := { d.books with store } }

def settings (d : Desk) : Settings := d.bundle.settings

def cloud (d : Desk) : Cloud := d.bundle.cloud

def unchanged (d : Desk) (answer : Except Failure Answer) : Outcome := ⟨answer, d, []⟩

/-- Calls that change something may not name the platform as their owner. -/
def checkOwner (owner : String) : Except Failure Unit :=
  if owner = platformOwner then .error .reservedOwner else .ok ()

def onboard (d : Desk) (owner : String) : Except StoreError Unit × Desk :=
  match d.defaultCeiling with
  | none => (.ok (), d)
  | some ceiling =>
    let (result, store) := BudgetStore.ensureOwner d.store owner ceiling
    (result.map fun _ => (), d.withStore store)

def getBudget (d : Desk) (owner : String) : Outcome :=
  d.unchanged <|
    match BudgetStore.get d.store owner with
    | .error e => .error (.store e)
    | .ok none => .error (.noPolicy owner)
    | .ok (some p) => .ok (.budget p)

def setBudget (d : Desk) (owner : String) (ceiling : Float) : Outcome :=
  match checkOwner owner with
  | .error e => d.unchanged (.error e)
  | .ok () =>
    let (result, store) := BudgetStore.setCeiling d.store owner ceiling
    ⟨(result.mapError .store).map .budget, d.withStore store, []⟩

def ofRing (d : Desk) (answer : KeyRecord → Answer) (r : Except KeyError KeyRecord × KeyRing) : Outcome :=
  ⟨(r.1.mapError .key).map answer, { d with keys := r.2 }, []⟩

def binding (d : Desk) (owner : String) : KeyBinding := d.cloud.keyBinding d.settings owner

def uploadKey (d : Desk) (now : Instant) (owner text : String) : Outcome :=
  match checkOwner owner with
  | .error e => d.unchanged (.error e)
  | .ok () =>
    match d.onboard owner with
    | (.error e, d) => d.unchanged (.error (.store e))
    | (.ok (), d) => d.ofRing .newKey (d.keys.register owner text (d.binding owner) now)

def replaceKey (d : Desk) (now : Instant) (owner text : String) : Outcome :=
  match checkOwner owner with
  | .error e => d.unchanged (.error e)
  | .ok () => d.ofRing .key (d.keys.replace owner text (d.binding owner) now)

def confirmKey (d : Desk) (now : Instant) (owner : String) (succeeded : Bool) : Outcome :=
  match checkOwner owner with
  | .error e => d.unchanged (.error e)
  | .ok () => d.ofRing .key (d.keys.confirm owner succeeded now)

def notebookOperation : String := "create_exploratory"

/-- Names of notebooks: up to 32 lower-case letters, digits and hyphens, without a hyphen in front.
-/
def isNotebookName (name : String) : Bool :=
  match name.toList with
  | [] => false
  | c :: rest => isLetterOrDigit c && rest.all (fun c => isLetterOrDigit c || c == '-') && rest.length ≤ 31
where
  isLetterOrDigit (c : Char) : Bool := c.isLower || c.isDigit

def instanceName (d : Desk) (owner name : String) : String :=
  d.settings.baseName ++ "-" ++ userName owner ++ "-nb-" ++ name

def chooseTemplate (d : Desk) (application shape : String) : Except Failure Template :=
  match d.cloud.findExploratory application with
  | none => .error (.unknownApplication application)
  | some template =>
    if template.supports shape then .ok template else .error (.shapeNotOffered shape template.name)

def prepareNotebook (d : Desk) (now : Instant) (owner : String) (r : NotebookRequest) :
    Except Failure Notebook :=
  if !isNotebookName r.name then .error (.invalidName r.name)
  else if d.keys.status owner ≠ .active then .error (.keyNotActive owner (d.keys.status owner))
  else
    (d.chooseTemplate r.application r.shape).map fun template =>
      { owner
        provider := d.bundle.provider
        instanceName := d.instanceName owner r.name
        template := template.name
        application := template.application
        shape := r.shape
        edgeNodeName := (d.cloud.sharedInfo d.settings owner).edgeNodeName
        requestedAt := now }

def guardNotebook (d : Desk) (stamp : Stamp) (owner : String) (r : NotebookRequest) : Outcome :=
  let outcome := Gate.guard (BudgetStore.get d.store) stamp owner notebookOperation
    (fun d => (d.prepareNotebook stamp.now owner r, d)) d
  ⟨(outcome.answer.mapError .ofGuard).map .notebook, outcome.state, outcome.events⟩

def createNotebook (d : Desk) (stamp : Stamp) (owner : String) (r : NotebookRequest) : Outcome :=
  match checkOwner owner with
  | .error e => d.unchanged (.error e)
  | .ok () =>
    match d.onboard owner with
    | (.error e, d) => d.unchanged (.error (.store e))
    | (.ok (), d) => d.guardNotebook stamp owner r

/-- Triggers a run of the sync. A run that is started begins after the answer. -/
def triggerSync (d : Desk) : Outcome :=
  match d.schedule with
  | none => d.unchanged (.error .syncNotScheduled)
  | some schedule =>
    let (outcome, schedule) := schedule.trigger
    let stats := schedule.runner.stats
    let answer := match outcome with
      | .started => .ok (.sync Sync.jobName true stats)
      | .skipped => .ok (.sync Sync.jobName false stats)
      | .stopped => .error .syncStopped
    ⟨answer, { d with schedule := some schedule }, []⟩

def perform (stamp : Stamp) (d : Desk) : Call → Outcome
  | .root => d.unchanged (.ok .greeting)
  | .report owner categories => d.unchanged (.ok (.report (d.snapshot.report owner categories)))
  | .sync => d.triggerSync
  | .getBudget owner => d.getBudget owner
  | .setBudget owner ceiling => d.setBudget owner ceiling
  | .keyStatus owner => d.unchanged (.ok (.keyStatus owner (d.keys.status owner)))
  | .uploadKey owner text => d.uploadKey stamp.now owner text
  | .replaceKey owner text => d.replaceKey stamp.now owner text
  | .confirmKey owner succeeded => d.confirmKey stamp.now owner succeeded
  | .sharedInfo owner => d.unchanged (.ok (.info (d.cloud.sharedInfo d.settings owner)))
  | .createNotebook owner request => d.createNotebook stamp owner request
  | .templates => d.unchanged (.ok (.templates d.cloud))

end Desk

end CloudDesk
