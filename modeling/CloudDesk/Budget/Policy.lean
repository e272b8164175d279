import CloudDesk.Decimal.Writing
import CloudDesk.Json.Wire

namespace CloudDesk

open Text

def platformOwner : String := "__platform__"

inductive AmountField
  | ceiling
  | accrued
  deriving DecidableEq

def AmountField.name : AmountField → String
  | .ceiling => "ceiling"
  | .accrued => "accrued"

inductive BudgetError
  | invalidAmount (field : AmountField) (value : Float)
  | emptyOwner
  deriving DecidableEq

def BudgetError.message : BudgetError → String
  | .invalidAmount field value =>
    s!"{field.name} must be a non-negative number, got {Decimal.plain value}"
  | .emptyOwner => "owner must not be empty"

def isAmount (x : Float) : Bool := x.isFinite && 0.0 ≤ x

def checkAmount (field : AmountField) (x : Float) : Except BudgetError Unit :=
  if isAmount x then .ok () else .error (.invalidAmount field x)

def checkOwner (owner : String) : Except BudgetError Unit :=
  if isAllBlank owner then .error .emptyOwner else .ok ()

structure Policy where
  owner : String
  ceiling : Float
  accrued : Float
  refreshedAt : Option Instant
  deriving DecidableEq

namespace Policy

def create (owner : String) (ceiling : Float) : Except BudgetError Policy := do
  checkOwner owner
  checkAmount .ceiling ceiling
  .ok ⟨owner, ceiling, 0.0, none⟩

def withAccrued (p : Policy) (accrued : Float) : Except BudgetError Policy := do
  checkAmount .accrued accrued
  .ok { p with accrued }

def isPlatform (p : Policy) : Bool := p.owner == platformOwner

def isExhausted (p : Policy) : Bool := p.ceiling ≤ p.accrued

def remaining (p : Policy) : Float :=
  let left := p.ceiling - p.accrued
  if 0.0 < left then left else 0.0

def toFields (p : Policy) : List (String × Json) :=
  [("owner", Wire.encode p.owner), ("ceiling", Wire.encode p.ceiling),
    ("accrued", Wire.encode p.accrued), ("refreshed_at", Wire.encode p.refreshedAt)]

def ofFields (fs : List (String × Json)) : Except Json.Refusal Policy := do
  .ok ⟨← Json.need fs "owner", ← Json.need fs "ceiling", ← Json.need fs "accrued",
    ← Json.want fs "refreshed_at"⟩

instance : Wire Policy where
  encode p := .object p.toFields
  decode j := do
    let fs ← j.fields [Json.field String "owner", Json.field Float "ceiling",
      Json.field Float "accrued", Json.field (Option Instant) "refreshed_at"]
    ofFields fs

end Policy

end CloudDesk
