import CloudDesk.Taxonomy.Category
import CloudDesk.Text.Basic

namespace CloudDesk.Taxonomy

open Text

/-- The lower case of a character as far as a comparison with ASCII names can tell. Beyond ASCII
only the Kelvin sign and the dotted capital I have an ASCII letter in their lower case; any other
character differs from every ASCII letter, and so does its lower case, which is a single character.
-/
def loweredChar (c : Char) : List Char :=
  if c = '\u212a' then ['k']
  else if c = '\u0130' then ['i', '\u0307']
  else [c.toLower]

def lowered (s : String) : List Char := s.toList.flatMap loweredChar

def distanceTo (name : String) (c : Category) : Nat := distance (lowered name) (lowered c.name)

def maxDistance : Nat := 2

/-- The category with the least distance, the first of several. -/
def nearest? (name : String) : List Category → Option Category
  | [] => none
  | c :: rest =>
    match nearest? name rest with
    | some d => if distanceTo name d < distanceTo name c then some d else some c
    | none => some c

def closest? (name : String) : Option Category :=
  nearest? name (Category.all.filter fun c => distanceTo name c ≤ maxDistance)

def suggestions (names : List String) : List (String × Category) :=
  names.filterMap fun name =>
    match Category.ofName? name with
    | some _ => none
    | none => (closest? name).map fun c => (name, c)

section

variable {m : Type → Type} [Monad m] (announce : String → Category → m Unit)

/-- A name that is no category is announced with the category that it is close to, and stands for
itself. -/
def expandStep (kinds : List String) (name : String) : m (List String) :=
  match Category.ofName? name with
  | some c => pure (kinds ++ c.kinds.map Kind.name)
  | none => do
    if let some c := closest? name then
      announce name c
    pure (kinds ++ [name])

def expandAnnouncing (names : List String) : m (List String) :=
  names.foldlM (expandStep announce) []

end

end CloudDesk.Taxonomy
