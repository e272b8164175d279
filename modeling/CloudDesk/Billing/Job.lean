import CloudDesk.Billing.Sync
import CloudDesk.Budget.Database
import CloudDesk.Schedule.Basic

namespace CloudDesk

abbrev CostSource := String → Except FetchError (List CostRecord)

/-- What a sync works on: the books, the source of costs, whether fetches are held, the run that
waits for an answer, and the owners whose costs were asked for. -/
structure SyncWork where
  books : Sync.Books Store
  source : CostSource
  held : Bool
  waiting : Option Sync.Progress
  asked : List String

namespace SyncWork

/-- The owners whose costs are asked for: all up to the first failure. -/
def askedOf (source : CostSource) : List String → List String
  | [] => []
  | owner :: rest =>
    match source owner with
    | .ok _ => owner :: askedOf source rest
    | .error _ => [owner]

def commit (currency : String) (now : Instant) (fetched : Sync.Fetched) (d : SyncWork) :
    Option Bool × SyncWork :=
  let (result, books) := Sync.commit currency now fetched d.books
  (some result.isOk, { d with books, waiting := none })

def ask (currency : String) (now : Instant) (p : Sync.Progress) (d : SyncWork) :
    Option Bool × SyncWork :=
  match d.held, p.pending with
  | true, owner :: _ => (none, { d with waiting := some p, asked := d.asked ++ [owner] })
  | _, pending =>
    let d := { d with waiting := none, asked := d.asked ++ askedOf d.source pending }
    match Sync.fetchAll d.source pending with
    | .error _ => (some false, d)
    | .ok fetched => d.commit currency now (p.fetched ++ fetched)

def begin (currency : String) (now : Instant) (d : SyncWork) : Option Bool × SyncWork :=
  match Sync.start d.books.store with
  | .error _ => (some false, d)
  | .ok p => d.ask currency now p

def resume (currency : String) (now : Instant) (d : SyncWork) : Option Bool × SyncWork :=
  match d.waiting with
  | none => (none, d)
  | some p =>
    match Sync.answer p (d.source (p.pending.headD "")) with
    | .error _ => (some false, { d with waiting := none })
    | .ok p => d.ask currency now p

def sync (currency : String) (now : Instant) (d : SyncWork) : Except SyncError SyncSummary × SyncWork :=
  let asked := match Sync.start d.books.store with
    | .error _ => []
    | .ok p => askedOf d.source p.pending
  let (result, books) := Sync.run currency now d.source d.books
  (result, { d with books, asked := d.asked ++ asked })

end SyncWork

namespace Sync

def jobName : String := "billing-sync"

def job (currency : String) (now : Instant) : Job SyncWork where
  name := jobName
  begin := SyncWork.begin currency now
  resume := SyncWork.resume currency now

end Sync

end CloudDesk
