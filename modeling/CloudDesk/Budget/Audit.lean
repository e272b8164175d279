import CloudDesk.Json.Wire
import CloudDesk.Uuid

namespace CloudDesk

inductive BudgetScope
  | owner
  | platform
  deriving DecidableEq

namespace BudgetScope

def all : List BudgetScope := [.owner, .platform]

def name : BudgetScope → String
  | .owner => "owner"
  | .platform => "platform"

end BudgetScope

inductive AuditKind
  | ownerLimitReached
  | platformLimitReached
  deriving DecidableEq

namespace AuditKind

def all : List AuditKind := [.ownerLimitReached, .platformLimitReached]

def name : AuditKind → String
  | .ownerLimitReached => "owner_limit_reached"
  | .platformLimitReached => "platform_limit_reached"

instance : Wire AuditKind := Json.ofNames all name

def ofScope : BudgetScope → AuditKind
  | .owner => .ownerLimitReached
  | .platform => .platformLimitReached

end AuditKind

structure AuditEvent where
  id : Uuid
  owner : String
  kind : AuditKind
  operation : String
  payload : Json
  occurredAt : Instant

namespace AuditEvent

instance : Wire AuditEvent where
  encode e := .object [("id", Wire.encode e.id), ("owner", Wire.encode e.owner),
    ("event_type", Wire.encode e.kind), ("operation", Wire.encode e.operation),
    ("payload", Wire.encode e.payload), ("occurred_at", Wire.encode e.occurredAt)]
  decode j := do
    let fs ← j.fields [Json.field Uuid "id", Json.field String "owner",
      Json.field AuditKind "event_type", Json.field String "operation", Json.field Json "payload",
      Json.field Instant "occurred_at"]
    .ok ⟨← Json.need fs "id", ← Json.need fs "owner", ← Json.need fs "event_type",
      ← Json.need fs "operation", ← Json.need fs "payload", ← Json.need fs "occurred_at"⟩

end AuditEvent

/-- What the service takes from outside to mark what it does: the time and a fresh identifier. -/
structure Stamp where
  now : Instant
  id : Uuid

end CloudDesk
