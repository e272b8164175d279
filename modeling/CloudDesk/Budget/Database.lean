import CloudDesk.Budget.Store

namespace CloudDesk

inductive Statement
  | selectPolicy (owner : String)
  | selectPolicies
  | upsertCeiling (owner : String) (ceiling : Float)
  | insertPolicy (owner : String) (ceiling : Float)
  | begin
  | lockAccrued (owner : String)
  | updateAccrued (owner : String) (accrued : Float) (time : Instant)
  | rollback
  | commit

def Statement.Answer : Statement → Type
  | .selectPolicy _ => Option Policy
  | .selectPolicies => List Policy
  | .upsertCeiling _ _ => Policy
  | .insertPolicy _ _ => Nat
  | .lockAccrued _ => Option Float
  | .updateAccrued _ _ _ => Nat
  | .begin | .rollback | .commit => Unit

/-- A pool of connections. It answers a statement in the light of those that were sent before, or
fails with a message of its own. -/
structure Database where
  answer : List Statement → (s : Statement) → Except String s.Answer
  sent : List Statement

abbrev Session := ExceptT String (StateM Database)

namespace Database

def closed : Database := ⟨fun _ _ => .error "attempted to acquire a connection on a closed pool", []⟩

def send (s : Statement) : Session s.Answer :=
  fun d => (d.answer d.sent s, { d with sent := d.sent ++ [s] })

def ensureOwner (owner : String) (ceiling : Float) : Session Bool := do
  let inserted : Nat ← send (.insertPolicy owner ceiling)
  return inserted == 1

def replaceAccrued (owner : String) (accrued : Float) (time : Instant) : Session (Option Float) := do
  send .begin
  let earlier : Option Float ← send (.lockAccrued owner)
  match earlier with
  | none =>
    send .rollback
    return none
  | some earlier =>
    let _ ← send (.updateAccrued owner accrued time)
    send .commit
    return some earlier

def updateAll (time : Instant) : List (String × Float) → Session Nat
  | [] => return 0
  | (owner, accrued) :: rest => do
    let updated : Nat ← send (.updateAccrued owner accrued time)
    return updated + (← updateAll time rest)

def replaceAll (updates : List (String × Float)) (time : Instant) : Session Nat := do
  send .begin
  let updated ← updateAll time updates
  send .commit
  return updated

def call {α : Type} (d : Database) (check : Except BudgetError Unit) (session : Session α) :
    Except StoreError α × Database :=
  match check with
  | .error e => (.error (.invalid e), d)
  | .ok () =>
    let (result, d) := session.run d
    (result.mapError .database, d)

def read (d : Database) (s : Statement) : Except StoreError s.Answer :=
  (d.answer d.sent s).mapError .database

instance : BudgetStore Database where
  get d owner := d.read (.selectPolicy owner)
  list d := d.read .selectPolicies
  setCeiling d owner ceiling :=
    d.call (Policies.checkCeiling owner ceiling) (send (.upsertCeiling owner ceiling))
  ensureOwner d owner ceiling :=
    d.call (Policies.checkCeiling owner ceiling) (ensureOwner owner ceiling)
  replaceAccrued d owner accrued time :=
    d.call (checkAmount .accrued accrued) (replaceAccrued owner accrued time)
  replaceAll d updates time := d.call (Policies.checkUpdates updates) (replaceAll updates time)

end Database

inductive Store
  | memory (policies : Policies)
  | database (database : Database)

namespace Store

open BudgetStore

def back {α σ : Type} (wrap : σ → Store) (r : Except StoreError α × σ) : Except StoreError α × Store :=
  (r.1, wrap r.2)

instance : BudgetStore Store where
  get
    | .memory t, owner => get t owner
    | .database d, owner => get d owner
  list
    | .memory t => list t
    | .database d => list d
  setCeiling
    | .memory t, owner, ceiling => back .memory (setCeiling t owner ceiling)
    | .database d, owner, ceiling => back .database (setCeiling d owner ceiling)
  ensureOwner
    | .memory t, owner, ceiling => back .memory (ensureOwner t owner ceiling)
    | .database d, owner, ceiling => back .database (ensureOwner d owner ceiling)
  replaceAccrued
    | .memory t, owner, accrued, time => back .memory (replaceAccrued t owner accrued time)
    | .database d, owner, accrued, time => back .database (replaceAccrued d owner accrued time)
  replaceAll
    | .memory t, updates, time => back .memory (replaceAll t updates time)
    | .database d, updates, time => back .database (replaceAll d updates time)

end Store

end CloudDesk
