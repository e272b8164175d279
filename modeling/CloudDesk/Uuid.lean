import CloudDesk.Json.Wire
import CloudDesk.Text.Basic

namespace CloudDesk

open Text

structure Uuid where
  bytes : List UInt8
  deriving DecidableEq

namespace Uuid

def readBytes : List Char → Option (List UInt8)
  | [] => some []
  | [_] => none
  | a :: b :: rest =>
    match hexValue? a, hexValue? b, readBytes rest with
    | some x, some y, some more => some (UInt8.ofNat (16 * x + y) :: more)
    | _, _, _ => none

def groups : List Nat := [8, 4, 4, 4, 12]

def unhyphened : List Nat → List Char → Option (List Char)
  | [], cs => if cs.isEmpty then some [] else none
  | [n], cs => if cs.length = n then some cs else none
  | n :: more, cs =>
    match cs.drop n with
    | '-' :: rest => (unhyphened more rest).map (cs.take n ++ ·)
    | _ => none

def urn : String := "urn:uuid:"

def read? (s : String) : Option Uuid :=
  let cs := s.toList
  let plain :=
    if cs.length = 32 then some cs
    else if cs.length = 36 then unhyphened groups cs
    else if cs.length = 38 && cs.head? == some '\x7b' && cs.getLast? == some '\x7d' then
      unhyphened groups ((cs.drop 1).take 36)
    else if cs.length = 45 && sameIgnoringCase (String.ofList (cs.take 9)) urn then unhyphened groups (cs.drop 9)
    else none
  plain.bind fun ds => (readBytes ds).map Uuid.mk

def hyphened : List Nat → List Char → List Char
  | [], cs => cs
  | [_], cs => cs
  | n :: more, cs => cs.take n ++ '-' :: hyphened more (cs.drop n)

def write (u : Uuid) : String := String.ofList (hyphened groups (u.bytes.flatMap hexByte))

instance : Wire Uuid where
  encode u := .string u.write
  decode
    | .string s =>
      match read? s with
      | some u => .ok u
      | none => .error .mismatch
    | j => j.refuse

end Uuid

end CloudDesk
