import CloudDesk.Budget.Policy

namespace CloudDesk

inductive StoreError
  | invalid (cause : BudgetError)
  | database (cause : String)
  deriving DecidableEq

def StoreError.message : StoreError → String
  | .invalid cause => cause.message
  | .database cause => cause

class BudgetStore (σ : Type) where
  get : σ → String → Except StoreError (Option Policy)
  list : σ → Except StoreError (List Policy)
  setCeiling : σ → String → Float → Except StoreError Policy × σ
  ensureOwner : σ → String → Float → Except StoreError Bool × σ
  replaceAccrued : σ → String → Float → Instant → Except StoreError (Option Float) × σ
  replaceAll : σ → List (String × Float) → Instant → Except StoreError Nat × σ

abbrev Policies := Table Policy

namespace Policies

def ofPolicies (ps : List Policy) : Policies := Table.ofList (ps.map fun p => (p.owner, p))

def checkCeiling (owner : String) (ceiling : Float) : Except BudgetError Unit := do
  checkOwner owner
  checkAmount .ceiling ceiling

def setCeiling (t : Policies) (owner : String) (ceiling : Float) :
    Except BudgetError Policy × Policies :=
  match checkCeiling owner ceiling with
  | .error e => (.error e, t)
  | .ok () =>
    let p : Policy := match t.get? owner with
      | some p => { p with ceiling }
      | none => ⟨owner, ceiling, 0.0, none⟩
    (.ok p, t.put owner p)

/-- Adds a policy for an owner who has none, and tells whether it did. For an owner who has one the
ceiling is not looked at. -/
def ensureOwner (t : Policies) (owner : String) (ceiling : Float) :
    Except BudgetError Bool × Policies :=
  match t.get? owner with
  | some _ => (.ok false, t)
  | none =>
    match Policy.create owner ceiling with
    | .error e => (.error e, t)
    | .ok p => (.ok true, t.put owner p)

def write (t : Policies) (owner : String) (accrued : Float) (time : Instant) : Policies :=
  t.modify owner fun p => { p with accrued, refreshedAt := some time }

def replaceAccrued (t : Policies) (owner : String) (accrued : Float) (time : Instant) :
    Except BudgetError (Option Float) × Policies :=
  match checkAmount .accrued accrued with
  | .error e => (.error e, t)
  | .ok () => (.ok ((t.get? owner).map Policy.accrued), t.write owner accrued time)

def checkUpdates : List (String × Float) → Except BudgetError Unit
  | [] => .ok ()
  | (_, accrued) :: rest => do
    checkAmount .accrued accrued
    checkUpdates rest

def writeAll (time : Instant) : List (String × Float) → Policies → Nat × Policies
  | [], t => (0, t)
  | (owner, accrued) :: rest, t =>
    let (count, after) := writeAll time rest (t.write owner accrued time)
    ((if t.contains owner then 1 else 0) + count, after)

/-- Replaces the spending of several owners as one unit: all amounts are checked before any is
written. -/
def replaceAll (t : Policies) (updates : List (String × Float)) (time : Instant) :
    Except BudgetError Nat × Policies :=
  match checkUpdates updates with
  | .error e => (.error e, t)
  | .ok () =>
    let (count, after) := writeAll time updates t
    (.ok count, after)

def refused {α σ : Type} (wrap : Policies → σ) (r : Except BudgetError α × Policies) :
    Except StoreError α × σ :=
  (r.1.mapError .invalid, wrap r.2)

instance : BudgetStore Policies where
  get t owner := .ok (t.get? owner)
  list t := .ok t.values
  setCeiling t owner ceiling := refused id (t.setCeiling owner ceiling)
  ensureOwner t owner ceiling := refused id (t.ensureOwner owner ceiling)
  replaceAccrued t owner accrued time := refused id (t.replaceAccrued owner accrued time)
  replaceAll t updates time := refused id (t.replaceAll updates time)

end Policies

end CloudDesk
