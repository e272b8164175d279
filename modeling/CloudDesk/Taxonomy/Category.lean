import CloudDesk.Taxonomy.Kind

namespace CloudDesk

inductive Category
  | cluster
  | notebook
  | edgeNode
  | bucket
  | container
  | ssn
  deriving DecidableEq

namespace Category

def all : List Category := [.cluster, .notebook, .edgeNode, .bucket, .container, .ssn]

def name : Category → String
  | .cluster => "Cluster"
  | .notebook => "Notebook"
  | .edgeNode => "Edge Node"
  | .bucket => "Bucket"
  | .container => "Container"
  | .ssn => "SSN"

instance : Wire Category := Json.ofNames all name

def ofName? (name : String) : Option Category := all.find? fun c => c.name == name

end Category

theorem Kind.index_lt (k : Kind) : k.index < all.length := by cases k <;> decide

/-- One entry for each kind. Whether they stand where they should is for `inconsistency?` to say. -/
structure CategoryTable where
  entries : List (Kind × Category)
  complete : entries.length = Kind.all.length

namespace CategoryTable

def category (t : CategoryTable) (k : Kind) : Category :=
  (t.entries.get ⟨k.index, t.complete ▸ k.index_lt⟩).2

def insertByScope (entry : Kind × Category) : List (Kind × Category) → List (Kind × Category)
  | [] => [entry]
  | e :: rest =>
    if entry.1.scope.rank ≤ e.1.scope.rank then entry :: e :: rest else e :: insertByScope entry rest

/-- Stable: entries of one scope stay in their order. -/
def sortByScope : List (Kind × Category) → List (Kind × Category)
  | [] => []
  | e :: rest => insertByScope e (sortByScope rest)

def enter (inverse : Category → List Kind) (entry : Kind × Category) : Category → List Kind :=
  fun c => if c = entry.2 then inverse c ++ [entry.1] else inverse c

def inverse (t : CategoryTable) : Category → List Kind := (sortByScope t.entries).foldl enter fun _ => []

end CategoryTable

namespace Taxonomy

def table : CategoryTable where
  entries :=
    [(.ssn, .ssn), (.ssnBucket, .bucket), (.ssnContainer, .container),
      (.collaborationBucket, .bucket), (.collaborationContainer, .container), (.edge, .edgeNode),
      (.edgeBucket, .bucket), (.edgeContainer, .container), (.exploratory, .notebook),
      (.computational, .cluster)]
  complete := rfl

end Taxonomy

def Kind.category (k : Kind) : Category := Taxonomy.table.category k

def Category.kinds (c : Category) : List Kind := Taxonomy.table.inverse c

namespace Taxonomy

def typeName (text : String) : String :=
  match Kind.parse? text with
  | some k => k.category.name
  | none => text

def expandName (name : String) : List String :=
  match Category.ofName? name with
  | some c => c.kinds.map Kind.name
  | none => [name]

def expand (names : List String) : List String := names.flatMap expandName

inductive Inconsistency
  | misplacedKind (kind : Kind)
  | emptyCategory (category : Category)
  | brokenInverse (kind : Kind) (category : Category)
  deriving DecidableEq

def Inconsistency.message : Inconsistency → String
  | .misplacedKind kind => s!"resource kind `{kind.name}` is out of place in the category table"
  | .emptyCategory category => s!"display category `{category.name}` has no resource kinds"
  | .brokenInverse kind category =>
    s!"resource kind `{kind.name}` does not round-trip through category `{category.name}`"

end Taxonomy

namespace CategoryTable

open Taxonomy

def misfit? (t : CategoryTable) (entry : Kind × Category) (place : Kind × Nat) : Option Inconsistency :=
  if entry.1 ≠ place.1 ∨ place.1.index ≠ place.2 then some (.misplacedKind place.1)
  else if (t.inverse entry.2).contains place.1 then none
  else some (.brokenInverse place.1 entry.2)

/-- The first inconsistency, if any: entry by entry, then category by category. -/
def inconsistency? (t : CategoryTable) : Option Inconsistency :=
  match (t.entries.zip Kind.all.zipIdx).findSome? fun (entry, place) => t.misfit? entry place with
  | some e => some e
  | none => (Category.all.find? fun c => (t.inverse c).isEmpty).map .emptyCategory

end CategoryTable

end CloudDesk
