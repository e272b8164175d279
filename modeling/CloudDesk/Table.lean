namespace CloudDesk

structure Table (α : Type) where
  entries : List (String × α)
  deriving DecidableEq

namespace Table

variable {α β : Type}

def find? (name : String) : List (String × α) → Option α
  | [] => none
  | (k, x) :: rest => if name = k then some x else find? name rest

/-- Puts a value in front of the first greater name, in place of one of the same name. -/
def place (name : String) (value : α) : List (String × α) → List (String × α)
  | [] => [(name, value)]
  | (k, x) :: rest =>
    if name < k then (name, value) :: (k, x) :: rest
    else if name = k then (name, value) :: rest
    else (k, x) :: place name value rest

def empty : Table α := ⟨[]⟩

instance : Inhabited (Table α) := ⟨empty⟩

def get? (t : Table α) (name : String) : Option α := find? name t.entries

def contains (t : Table α) (name : String) : Bool := (t.get? name).isSome

def put (t : Table α) (name : String) (value : α) : Table α := ⟨place name value t.entries⟩

def modify (t : Table α) (name : String) (f : α → α) : Table α :=
  match t.get? name with
  | none => t
  | some x => t.put name (f x)

def names (t : Table α) : List String := t.entries.map (·.1)

def values (t : Table α) : List α := t.entries.map (·.2)

def ofList (entries : List (String × α)) : Table α :=
  entries.foldl (fun t e => t.put e.1 e.2) empty

def Sorted (t : Table α) : Prop := t.entries.Pairwise fun a b => a.1 < b.1

end Table

end CloudDesk
