import CloudDesk.Budget.Audit
import CloudDesk.Budget.Store

namespace CloudDesk

structure Exceeded where
  owner : String
  scope : BudgetScope
  ceiling : Float
  accrued : Float
  deriving DecidableEq

namespace Exceeded

def message (e : Exceeded) : String :=
  let accrued := Decimal.plain e.accrued
  let ceiling := Decimal.plain e.ceiling
  s!"{e.scope.name} budget exhausted for `{e.owner}`: accrued {accrued} of {ceiling}"

def ofPolicy (owner : String) (scope : BudgetScope) (p : Policy) : Exceeded :=
  ⟨owner, scope, p.ceiling, p.accrued⟩

def event (e : Exceeded) (operation : String) (stamp : Stamp) : AuditEvent where
  id := stamp.id
  owner := e.owner
  kind := AuditKind.ofScope e.scope
  operation
  payload := .object [("accrued", .ofFloat e.accrued), ("ceiling", .ofFloat e.ceiling),
    ("scope", .string e.scope.name)]
  occurredAt := stamp.now

end Exceeded

inductive GuardError (ε : Type)
  | exceeded (cause : Exceeded)
  | store (cause : StoreError)
  | operation (cause : ε)

def GuardError.message {ε : Type} (ofOperation : ε → String) : GuardError ε → String
  | .exceeded cause => cause.message
  | .store cause => s!"budget lookup failed: {cause.message}"
  | .operation cause => ofOperation cause

namespace Gate

/-- The budget that stands in the way of an owner, if any. That of the platform is looked up first,
and that of the owner only if the platform's is not exhausted. -/
def exhausted (lookup : String → Except StoreError (Option Policy)) (owner : String) :
    Except StoreError (Option Exceeded) := do
  match (← lookup platformOwner).filter Policy.isExhausted with
  | some p => .ok (some (.ofPolicy owner .platform p))
  | none =>
    if owner = platformOwner then .ok none
    else
      let p ← lookup owner
      .ok ((p.filter Policy.isExhausted).map (.ofPolicy owner .owner))

structure Outcome (σ ε α : Type) where
  answer : Except (GuardError ε) α
  state : σ
  events : List AuditEvent

def guard {σ ε α : Type} (lookup : String → Except StoreError (Option Policy)) (stamp : Stamp)
    (owner name : String) (operation : σ → Except ε α × σ) (state : σ) : Outcome σ ε α :=
  match exhausted lookup owner with
  | .error e => ⟨.error (.store e), state, []⟩
  | .ok (some e) => ⟨.error (.exceeded e), state, [e.event name stamp]⟩
  | .ok none =>
    let (answer, state) := operation state
    ⟨answer.mapError .operation, state, []⟩

def defaultName : String := "operation"

end Gate

end CloudDesk
