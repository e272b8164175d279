import CloudDesk.Desk.Serving

namespace CloudDesk

open Http

structure Operation where
  spend : Option (Float × Instant)
  result : Except String Json

inductive AuditTrail
  | log
  | channel (isOpen : Bool)
  deriving DecidableEq

namespace AuditTrail

def keeps : AuditTrail → Bool
  | .log => true
  | .channel isOpen => isOpen

def close : AuditTrail → AuditTrail
  | .log => .log
  | .channel _ => .channel false

end AuditTrail

inductive GuardMode
  | plain
  | named (name : String)

def GuardMode.name : GuardMode → String
  | .plain => Gate.defaultName
  | .named name => name

abbrev CostTable := Table (Except FetchError (List CostRecord))

def CostTable.source (t : CostTable) : CostSource := fun owner => (t.get? owner).getD (.ok [])

namespace Rehearsal

inductive Step
  | http (request : Request)
  | get (owner : String)
  | list
  | setCeiling (owner : String) (ceiling : Float)
  | ensureOwner (owner : String) (ceiling : Float)
  | replaceAccrued (owner : String) (accrued : Float) (time : Instant)
  | replaceAll (updates : List (String × Float)) (time : Instant)
  | onboard (owner : String)
  | guard (owner : String) (mode : GuardMode) (operation : Operation)
  | keyStatus (owner : String)
  | uploadKey (owner text : String)
  | replaceKey (owner text : String)
  | confirmKey (owner : String) (succeeded : Bool)
  | costs (owner : String) (answer : Except FetchError (List CostRecord))
  | hold
  | release
  | sync
  | run
  | snapshot
  | replaceSnapshot (snapshot : Snapshot Float)
  | report (owner : Option String) (categories : List String)
  | dropEvents
  | advance (time : Nat)
  | trigger
  | stop

inductive Result
  | done
  | reply (reply : Reply)
  | policy (p : Except StoreError (Option Policy))
  | policies (ps : Except StoreError (List Policy))
  | changed (p : Except StoreError Policy)
  | added (b : Except StoreError Bool)
  | previous (x : Except StoreError (Option Float))
  | count (n : Except StoreError Nat)
  | onboarded (r : Except StoreError Unit)
  | guarded (answer : Except (GuardError String) Json) (calls : Nat)
  | status (s : KeyStatus)
  | key (r : Except KeyError KeyRecord)
  | synced (r : Except SyncError SyncSummary)
  | ran (r : Except SyncError SyncSummary)
  | snapshot (s : Snapshot Float)
  | report (r : Report Float)
  | triggered (answer : TriggerAnswer)
  | stopping

end Rehearsal

/-- The desk with a table of costs for its billing source, on a simulated clock. -/
structure Rehearsal where
  desk : Desk
  costs : CostTable
  held : Bool
  waiting : Option Sync.Progress
  asked : List String
  events : List AuditEvent
  trail : AuditTrail
  stopAsked : Bool

namespace Rehearsal

def currency (r : Rehearsal) : String := r.desk.settings.currency

def syncWork (r : Rehearsal) : SyncWork := ⟨r.desk.books, r.costs.source, r.held, r.waiting, r.asked⟩

def withSyncWork (r : Rehearsal) (d : SyncWork) : Rehearsal :=
  { r with desk := { r.desk with books := d.books }, waiting := d.waiting, asked := d.asked }

def onSchedule (r : Rehearsal) (f : Schedule → SyncWork → Schedule × SyncWork) : Rehearsal :=
  match r.desk.schedule with
  | none => r
  | some schedule =>
    let (schedule, work) := f schedule r.syncWork
    let r := r.withSyncWork work
    { r with desk := { r.desk with schedule := some schedule } }

def settle (now : Instant) (r : Rehearsal) : Rehearsal :=
  r.onSchedule fun s d => s.settle (Sync.job r.currency now) d

def start (now : Instant) (trail : AuditTrail) (desk : Desk) : Rehearsal :=
  settle now ⟨desk, Table.empty, false, none, [], [], trail, false⟩

def record (r : Rehearsal) (events : List AuditEvent) : Rehearsal :=
  if r.trail.keeps then { r with events := r.events ++ events } else r

def onStore {α : Type} (r : Rehearsal) (f : Store → Except StoreError α × Store) :
    Except StoreError α × Rehearsal :=
  let (result, store) := f r.desk.store
  (result, { r with desk := r.desk.withStore store })

def onKeys (r : Rehearsal) (f : KeyRing → Except KeyError KeyRecord × KeyRing) : Result × Rehearsal :=
  let (result, keys) := f r.desk.keys
  (.key result, { r with desk := { r.desk with keys } })

def runOperation (owner : String) (o : Operation) (state : Nat × Store) :
    Except String Json × (Nat × Store) :=
  match o.spend with
  | none => (o.result, (state.1 + 1, state.2))
  | some (amount, time) =>
    match BudgetStore.replaceAccrued state.2 owner amount time with
    | (.error e, store) => (.error e.message, (state.1 + 1, store))
    | (.ok _, store) => (o.result, (state.1 + 1, store))

def guard (stamp : Stamp) (r : Rehearsal) (owner : String) (mode : GuardMode) (o : Operation) :
    Result × Rehearsal :=
  let outcome := Gate.guard (BudgetStore.get r.desk.store) stamp owner mode.name
    (runOperation owner o) (0, r.desk.store)
  let r := { r with desk := r.desk.withStore outcome.state.2 }
  (.guarded outcome.answer outcome.state.1, r.record outcome.events)

def sync (now : Instant) (r : Rehearsal) : Except SyncError SyncSummary × Rehearsal :=
  let (result, d) := r.syncWork.sync r.currency now
  (result, r.withSyncWork d)

def act (stamp : Stamp) (r : Rehearsal) : Step → Result × Rehearsal
  | .http request =>
    let (reply, desk, events) := r.desk.handle stamp request
    (.reply reply, { r with desk }.record events)
  | .get owner => (.policy (BudgetStore.get r.desk.store owner), r)
  | .list => (.policies (BudgetStore.list r.desk.store), r)
  | .setCeiling owner ceiling =>
    let (result, r) := r.onStore (BudgetStore.setCeiling · owner ceiling)
    (.changed result, r)
  | .ensureOwner owner ceiling =>
    let (result, r) := r.onStore (BudgetStore.ensureOwner · owner ceiling)
    (.added result, r)
  | .replaceAccrued owner accrued time =>
    let (result, r) := r.onStore (BudgetStore.replaceAccrued · owner accrued time)
    (.previous result, r)
  | .replaceAll updates time =>
    let (result, r) := r.onStore (BudgetStore.replaceAll · updates time)
    (.count result, r)
  | .onboard owner =>
    let (result, desk) := r.desk.onboard owner
    (.onboarded result, { r with desk })
  | .guard owner mode operation => guard stamp r owner mode operation
  | .keyStatus owner => (.status (r.desk.keys.status owner), r)
  | .uploadKey owner text => r.onKeys (·.register owner text (r.desk.binding owner) stamp.now)
  | .replaceKey owner text => r.onKeys (·.replace owner text (r.desk.binding owner) stamp.now)
  | .confirmKey owner succeeded => r.onKeys (·.confirm owner succeeded stamp.now)
  | .costs owner answer => (.done, { r with costs := r.costs.put owner answer })
  | .hold => (.done, { r with held := true })
  | .release =>
    let r := { r with held := false }
    (.done, r.onSchedule fun s d => s.resume (Sync.job r.currency stamp.now) d)
  | .sync =>
    let (result, r) := r.sync stamp.now
    (.synced result, r)
  | .run =>
    let (result, r) := r.sync stamp.now
    (.ran result, r)
  | .snapshot => (.snapshot r.desk.snapshot, r)
  | .replaceSnapshot snapshot =>
    (.done, { r with desk := { r.desk with books := { r.desk.books with snapshot } } })
  | .report owner categories => (.report (r.desk.snapshot.report owner categories), r)
  | .dropEvents => (.done, { r with trail := r.trail.close })
  | .advance time => (.done, r.onSchedule fun s d => (s.advance time, d))
  | .trigger =>
    match r.desk.schedule with
    | none => (.triggered .stopped, r)
    | some schedule =>
      let (answer, schedule) := schedule.trigger
      (.triggered answer, { r with desk := { r.desk with schedule := some schedule } })
  | .stop => (.stopping, { (r.onSchedule fun s d => (s.stop, d)) with stopAsked := true })

/-- What can be seen after a step: its result, what was recorded and asked for since the step
before, and the rehearsal as it is then. -/
structure View where
  result : Result
  events : List AuditEvent
  asked : List String
  after : Rehearsal

def perform (stamp : Stamp) (r : Rehearsal) (step : Step) : View :=
  let (result, acted) := r.act stamp step
  let after := acted.settle stamp.now
  ⟨result, after.events, after.asked, { after with events := [], asked := [] }⟩

def performAll (stamp : Stamp) (r : Rehearsal) : List Step → List View × Rehearsal
  | [] => ([], r)
  | step :: rest =>
    let v := r.perform stamp step
    let (more, last) := performAll stamp v.after rest
    (v :: more, last)

def stopFinished (r : Rehearsal) : Option Bool :=
  if r.stopAsked then r.desk.schedule.map fun s => s.runner.isQuiet else none

end Rehearsal

end CloudDesk
