import CloudDesk.Billing.Record
import CloudDesk.Billing.Snapshot
import CloudDesk.Budget.Store

namespace CloudDesk

open Text

inductive SyncError
  | store (cause : StoreError)
  | fetch (owner : String) (cause : FetchError)
  | invalidTotal (owner : String) (value : Float)
  deriving DecidableEq

def SyncError.message : SyncError → String
  | .store cause => s!"budget store failed: {cause.message}"
  | .fetch owner cause => s!"billing fetch for `{owner}` failed: {cause.message}"
  | .invalidTotal owner value =>
    s!"accrued spend for `{owner}` is not a finite amount: {Decimal.plain value}"

structure SyncSummary where
  owners : Nat
  records : Nat
  skipped : Nat
  total : Float
  deriving DecidableEq

namespace Sync

abbrev Fetched := List (String × List CostRecord)

/-- A sync under way: the owners still to be asked about and the answers so far. -/
structure Progress where
  pending : List String
  fetched : Fetched
  deriving DecidableEq

def listed (ps : List Policy) : List String :=
  (ps.filter fun p => !p.isPlatform).map Policy.owner

def start {σ : Type} [BudgetStore σ] (store : σ) : Except SyncError Progress :=
  match BudgetStore.list store with
  | .error e => .error (.store e)
  | .ok ps => .ok ⟨listed ps, []⟩

def answer (p : Progress) (reply : Except FetchError (List CostRecord)) : Except SyncError Progress :=
  match p.pending with
  | [] => .ok p
  | owner :: rest =>
    match reply with
    | .error e => .error (.fetch owner e)
    | .ok records => .ok ⟨rest, p.fetched ++ [(owner, records)]⟩

def fetchAll (source : String → Except FetchError (List CostRecord)) :
    List String → Except SyncError Fetched
  | [] => .ok []
  | owner :: rest =>
    match source owner with
    | .error e => .error (.fetch owner e)
    | .ok records => (fetchAll source rest).map ((owner, records) :: ·)

def counts (currency : String) (r : CostRecord) : Bool := sameIgnoringCase r.currency currency

def entriesOf (currency : String) (f : String × List CostRecord) : List (Snapshot.Entry Float) :=
  .owner f.1 :: (f.2.filter (counts currency)).map fun r => .amount f.1 r.kind r.amount

def snapshotOf (currency : String) (now : Instant) (fetched : Fetched) : Snapshot Float :=
  (Snapshot.empty currency (some now)).enterAll (fetched.flatMap (entriesOf currency))

def finiteTotal (owner : String) (value : Float) : Except SyncError Float :=
  if value.isFinite then .ok value else .error (.invalidTotal owner value)

def ownerTotals (s : Snapshot Float) : List String → Except SyncError (List (String × Float))
  | [] => .ok []
  | owner :: rest => do
    let value ← finiteTotal owner (s.ownerTotal owner)
    let more ← ownerTotals s rest
    .ok ((owner, value) :: more)

/-- What a sync writes: the store of the policies and the latest snapshot. -/
structure Books (σ : Type) where
  store : σ
  snapshot : Snapshot Float
  deriving DecidableEq

/-- The updates of a batch and the total of the platform, if all totals are finite. -/
def batch (s : Snapshot Float) (owners : List String) :
    Except SyncError (List (String × Float) × Float) := do
  let updates ← ownerTotals s owners
  let total ← finiteTotal platformOwner s.total
  .ok (updates ++ [(platformOwner, total)], total)

def summaryOf (currency : String) (fetched : Fetched) (total : Float) : SyncSummary :=
  let records := fetched.flatMap (·.2)
  let counted := records.filter (counts currency)
  ⟨fetched.length, counted.length, records.length - counted.length, total⟩

def commit {σ : Type} [BudgetStore σ] (currency : String) (now : Instant) (fetched : Fetched)
    (books : Books σ) : Except SyncError SyncSummary × Books σ :=
  let snapshot := snapshotOf currency now fetched
  match batch snapshot (fetched.map (·.1)) with
  | .error e => (.error e, books)
  | .ok (updates, total) =>
    match BudgetStore.replaceAll books.store updates now with
    | (.error e, store) => (.error (.store e), { books with store })
    | (.ok _, store) => (.ok (summaryOf currency fetched total), ⟨store, snapshot⟩)

def run {σ : Type} [BudgetStore σ] (currency : String) (now : Instant)
    (source : String → Except FetchError (List CostRecord)) (books : Books σ) :
    Except SyncError SyncSummary × Books σ :=
  match start books.store with
  | .error e => (.error e, books)
  | .ok progress =>
    match fetchAll source progress.pending with
    | .error e => (.error e, books)
    | .ok fetched => commit currency now fetched books

end Sync

end CloudDesk
