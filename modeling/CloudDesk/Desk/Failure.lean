import CloudDesk.Budget.Gate
import CloudDesk.Desk.Call
import CloudDesk.Infrastructure.Template
import CloudDesk.Key.Ring

namespace CloudDesk

inductive Failure
  | exceeded (cause : Exceeded)
  | store (cause : StoreError)
  | key (cause : KeyError)
  | noPolicy (owner : String)
  | reservedOwner
  | invalidName (name : String)
  | keyNotActive (owner : String) (status : KeyStatus)
  | unknownApplication (application : String)
  | shapeNotOffered (shape template : String)
  | syncNotScheduled
  | syncStopped
  deriving DecidableEq

namespace Failure

inductive Category
  | budgetExceeded
  | invalidBudget
  | storage
  | invalidKey
  | keyExists
  | keyNotFound
  | keyState
  | notFound
  | badRequest
  | conflict
  deriving DecidableEq

def Category.name : Category → String
  | .budgetExceeded => "budget_exceeded"
  | .invalidBudget => "invalid_budget"
  | .storage => "storage"
  | .invalidKey => "invalid_key"
  | .keyExists => "key_exists"
  | .keyNotFound => "key_not_found"
  | .keyState => "key_state"
  | .notFound => "not_found"
  | .badRequest => "bad_request"
  | .conflict => "conflict"

def Category.status : Category → Nat
  | .budgetExceeded => 402
  | .invalidBudget | .invalidKey | .badRequest => 400
  | .storage => 500
  | .keyExists | .keyState | .conflict => 409
  | .keyNotFound | .notFound => 404

def category : Failure → Category
  | .exceeded _ => .budgetExceeded
  | .store (.invalid _) => .invalidBudget
  | .store (.database _) => .storage
  | .key (.invalidFormat _) => .invalidKey
  | .key (.alreadyExists _) => .keyExists
  | .key (.notFound _) => .keyNotFound
  | .key (.invalidState _ _) => .keyState
  | .noPolicy _ => .notFound
  | .reservedOwner | .invalidName _ | .unknownApplication _ | .shapeNotOffered _ _ => .badRequest
  | .keyNotActive _ _ | .syncNotScheduled | .syncStopped => .conflict

def status (f : Failure) : Nat := f.category.status

def message : Failure → String
  | .exceeded cause => cause.message
  | .store cause => s!"budget store error: {cause.message}"
  | .key cause => cause.message
  | .noPolicy owner => s!"not found: no budget policy for `{owner}`"
  | .reservedOwner => s!"bad request: `{platformOwner}` is reserved for the platform budget"
  | .invalidName name => s!"bad request: invalid notebook name `{name}`"
  | .keyNotActive owner status =>
    s!"conflict: user key for `{owner}` is {status.name}, an active key is required"
  | .unknownApplication application => s!"bad request: unknown application `{application}`"
  | .shapeNotOffered shape template =>
    s!"bad request: shape `{shape}` is not offered for {template}"
  | .syncNotScheduled => "conflict: billing sync is not scheduled"
  | .syncStopped => "conflict: billing sync has been stopped"

def reply (f : Failure) : Http.Reply :=
  ⟨f.status, .json (.object [("error", .string f.category.name), ("message", .string f.message)])⟩

def ofGuard : GuardError Failure → Failure
  | .exceeded cause => .exceeded cause
  | .store cause => .store cause
  | .operation cause => cause

end Failure

end CloudDesk
