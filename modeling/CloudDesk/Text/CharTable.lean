import CloudDesk.Text.Basic

namespace CloudDesk.Text

structure CharRange where
  first : Nat
  last : Nat
  values : List Nat
  deriving DecidableEq

namespace CharRange

def contains (r : CharRange) (c : Char) : Bool := r.first ≤ c.toNat && c.toNat ≤ r.last

def offset (r : CharRange) (c : Char) : Nat := c.toNat - r.first

def hexadecimal (cs : List Char) : Nat := cs.foldl (fun n c => 16 * n + (hexValue? c).getD 0) 0

def between? (place : List Char) (values : List Nat) : Option CharRange :=
  match splitAt '-' place with
  | [only] => some ⟨hexadecimal only, hexadecimal only, values⟩
  | [first, last] => some ⟨hexadecimal first, hexadecimal last, values⟩
  | _ => none

def read? (entry : List Char) : Option CharRange :=
  match splitAt '=' entry with
  | [place] => between? place []
  | [place, values] => between? place ((splitAt '.' values).map hexadecimal)
  | _ => none

end CharRange

abbrev CharTable := List CharRange

namespace CharTable

def read (text : String) : CharTable := (words text).filterMap CharRange.read?

def range? (t : CharTable) (c : Char) : Option CharRange := t.find? fun r => r.contains c

def holds (t : CharTable) (c : Char) : Bool := t.any fun r => r.contains c

end CharTable

end CloudDesk.Text
