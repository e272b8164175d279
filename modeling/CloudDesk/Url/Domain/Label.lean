import CloudDesk.Url.Domain.Composition
import CloudDesk.Url.Domain.Direction
import CloudDesk.Url.Domain.Joining
import CloudDesk.Url.Percent
import CloudDesk.Url.Punycode

namespace CloudDesk.Url.Domain

open Text

def isForbiddenInHost (c : Char) : Bool :=
  ['\x00', ' ', '#', '/', ':', '<', '>', '?', '@', '[', '\\', ']', '^', '|'].contains c

def isForbidden (c : Char) : Bool :=
  isForbiddenInHost c || c.toNat < 0x20 || c == '\x7f' || c == '%'

def isAscii (cs : List Char) : Bool := cs.all fun c => c.toNat < 0x80

def encodedMark : List Char := ['x', 'n', '-', '-']

/-- The longest label that is encoded, and the longest encoding that is read. -/
def maxLabel : Nat := 1000

def maxEncoding : Nat := 2000

/-- The label that was encoded. It was mapped and composed, and not in ASCII to begin with. -/
def decoded? (digits : List Char) : Option (List Char) :=
  if maxEncoding < digits.length then none
  else
    (Punycode.decode? digits).filter fun label =>
      !isAscii label && Punycode.encode label == digits && label.all isUnmapped && compose label == label

def label? (cs : List Char) : Option (List Char) :=
  if encodedMark.isPrefixOf cs then
    if isAscii cs then decoded? (cs.drop encodedMark.length) else none
  else some cs

def isSound (label : List Char) : Bool :=
  (label.head?.all fun c => !isMark c) && joinersStand [] label && !label.any isForbidden

def encoded? (label : List Char) : Option (List Char) :=
  if isAscii label then some label
  else if maxLabel < label.length then none
  else some (encodedMark ++ Punycode.encode label)

def labels? (cs : List Char) : Option (List (List Char)) := do
  let mapped ← cs.mapM map?
  (splitAt '.' (compose mapped.flatten)).mapM label?

def read? (cs : List Char) : Option (List Char) := do
  let labels ← labels? cs
  if labels.all isSound && areOrdered labels then
    let encoded ← labels.mapM encoded?
    some (List.intercalate ['.'] encoded)
  else none

end CloudDesk.Url.Domain
