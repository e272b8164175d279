namespace CloudDesk

/-- What can be wrong with a text: a number or string that has no value but an end, so that it can
be passed over; a field name without a value; or a place where nothing further can be read. -/
inductive Json.Fault
  | value
  | name
  | stop
  deriving DecidableEq

/-- Objects keep their fields in the order of the text, repeated names included, and a fault stands
where the text goes wrong, so that a reader meets what comes first. -/
inductive Json
  | null
  | bool (b : Bool)
  | int (n : Int)
  | float (x : Float)
  | string (s : String)
  | array (items : List Json)
  | object (fields : List (String × Json))
  | fault (f : Json.Fault)

namespace Json

instance : Inhabited Json := ⟨.null⟩

/-- JSON has no numbers for infinities and NaN, so they are null. -/
def ofFloat (x : Float) : Json := if x.isFinite then .float x else .null

def ofNat (n : Nat) : Json := .int n

def optional {α : Type} (f : α → Json) : Option α → Json
  | none => .null
  | some x => f x

mutual

def isComplete : Json → Bool
  | .fault .stop => false
  | .array items => itemsComplete items
  | .object fields => fieldsComplete fields
  | _ => true

def itemsComplete : List Json → Bool
  | [] => true
  | j :: rest => isComplete j && itemsComplete rest

def fieldsComplete : List (String × Json) → Bool
  | [] => true
  | (_, j) :: rest => isComplete j && fieldsComplete rest

end

end Json

end CloudDesk
