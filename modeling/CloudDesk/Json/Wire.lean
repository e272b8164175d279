import CloudDesk.Calendar.Instant
import CloudDesk.Json.Reading
import CloudDesk.Table

namespace CloudDesk

inductive Json.Refusal
  | mismatch
  | malformed
  deriving DecidableEq

/-- Types with a JSON form. A record is an object of its fields in any order, or an array of them in
their own order; unknown fields are passed over, and a missing or repeated one is refused. -/
class Wire (α : Type) where
  encode : α → Json
  decode : Json → Except Json.Refusal α

namespace Json

def refuse {α : Type} : Json → Except Refusal α
  | .fault _ => .error .malformed
  | _ => .error .mismatch

instance : Wire String where
  encode := .string
  decode
    | .string s => .ok s
    | j => j.refuse

instance : Wire Bool where
  encode := .bool
  decode
    | .bool b => .ok b
    | j => j.refuse

instance : Wire Float where
  encode := ofFloat
  decode
    | .float x => .ok x
    | .int n => .ok (Float.ofInt n)
    | j => j.refuse

instance : Wire Instant where
  encode t := .string t.write
  decode
    | .string s =>
      match Instant.read? s with
      | some t => .ok t
      | none => .error .mismatch
    | j => j.refuse

instance {α : Type} [Wire α] : Wire (Option α) where
  encode := optional Wire.encode
  decode
    | .null => .ok none
    | j => (Wire.decode j).map some

instance {α : Type} [Wire α] : Wire (List α) where
  encode xs := .array (xs.map Wire.encode)
  decode
    | .array items => items.mapM Wire.decode
    | j => j.refuse

/-- A type of finitely many named values. A name may also be the only field of an object, with null
in it. -/
@[reducible]
def ofNames {α : Type} (all : List α) (name : α → String) : Wire α where
  encode x := .string (name x)
  decode
    | .string s => find s
    | .object [(s, .null)] => find s
    | j => j.refuse
where
  find (s : String) : Except Refusal α :=
    match all.find? fun x => name x == s with
    | some x => .ok x
    | none => .error .mismatch

structure Field where
  name : String
  check : Json → Except Refusal Unit

def field (α : Type) [Wire α] (name : String) : Field :=
  ⟨name, fun j => (Wire.decode (α := α) j).map fun _ => ()⟩

def skip (j : Json) : Except Refusal Unit :=
  if j.isComplete then .ok () else .error .malformed

/-- The wanted fields of an object in the order of the text, each checked when it is met. -/
def pick (wanted : List Field) (seen : List String) :
    List (String × Json) → Except Refusal (List (String × Json))
  | [] => .ok []
  | (_, .fault .name) :: _ => .error .malformed
  | (name, value) :: rest =>
    match wanted.find? fun f => f.name == name with
    | none => do
      skip value
      pick wanted seen rest
    | some f =>
      if seen.contains name then .error .mismatch
      else do
        f.check value
        let more ← pick wanted (name :: seen) rest
        .ok ((name, value) :: more)

def align : List Field → List Json → Except Refusal (List (String × Json))
  | [], [] => .ok []
  | [], _ :: _ => .error .malformed
  | _ :: _, [] => .error .mismatch
  | f :: fs, value :: rest => do
    f.check value
    let more ← align fs rest
    .ok ((f.name, value) :: more)

def fields (wanted : List Field) : Json → Except Refusal (List (String × Json))
  | .object fields => pick wanted [] fields
  | .array items => align wanted items
  | j => j.refuse

def need {α : Type} [Wire α] (fields : List (String × Json)) (name : String) : Except Refusal α :=
  match fields.lookup name with
  | some value => Wire.decode value
  | none => .error .mismatch

def want {α : Type} [Wire α] (fields : List (String × Json)) (name : String) :
    Except Refusal (Option α) :=
  match fields.lookup name with
  | some value => Wire.decode value
  | none => .ok none

def maxDepth : Nat := 126

/-- An object whose first field has this name stands for the value of the JSON text in the field. -/
def textName : String := "$serde_json::private::RawValue"

def holdsText : List (String × Json) → Bool
  | (name, _) :: _ => name == textName
  | [] => false

section

variable (ofText : String → Except Refusal Json)

def textValue : List (String × Json) → Except Refusal Json
  | [] => .error .mismatch
  | (_, .string s) :: rest =>
    match ofText s with
    | .error _ => .error .mismatch
    | .ok j => if rest.isEmpty then .ok j else .error .malformed
  | (_, j) :: _ => j.refuse

mutual

/-- The value of a JSON tree: objects are listed by name, the last of repeated fields counts, and
no value is nested deeper than the given depth. -/
def value (depth : Nat) : Json → Except Refusal Json
  | .null => .ok .null
  | .bool b => .ok (.bool b)
  | .int n => .ok (.int n)
  | .float x => .ok (.float x)
  | .string s => .ok (.string s)
  | .array items =>
    if depth = 0 then .error .malformed else (itemValues (depth - 1) items).map .array
  | .object fields =>
    if depth = 0 then .error .malformed
    else if holdsText fields then textValue ofText fields
    else (fieldValues (depth - 1) fields).map fun fs => .object (Table.ofList fs).entries
  | .fault _ => .error .malformed

def itemValues (depth : Nat) : List Json → Except Refusal (List Json)
  | [] => .ok []
  | j :: rest => do
    let x ← value depth j
    let xs ← itemValues depth rest
    .ok (x :: xs)

def fieldValues (depth : Nat) : List (String × Json) → Except Refusal (List (String × Json))
  | [] => .ok []
  | (name, j) :: rest => do
    let x ← value depth j
    let xs ← fieldValues depth rest
    .ok ((name, x) :: xs)

end

end

/-- The value of a text. A text within it is shorter, so the steps need not be more than characters.
-/
def valueOfText : Nat → String → Except Refusal Json
  | 0, _ => .error .malformed
  | steps + 1, s => value (valueOfText steps) (maxDepth + 1) (read s)

instance : Wire Json where
  encode j := j
  decode := value (fun s => valueOfText s.length s) maxDepth

end Json

end CloudDesk
