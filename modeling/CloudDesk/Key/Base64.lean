import CloudDesk.Text.Basic

namespace CloudDesk.Base64

def digit (v : Nat) : Char :=
  if v < 26 then Char.ofNat (65 + v)
  else if v < 52 then Char.ofNat (71 + v)
  else if v < 62 then Char.ofNat (v - 4)
  else if v = 62 then '+'
  else '/'

def value? (c : Char) : Option Nat :=
  let n := c.toNat
  if 65 ≤ n && n ≤ 90 then some (n - 65)
  else if 97 ≤ n && n ≤ 122 then some (n - 71)
  else if 48 ≤ n && n ≤ 57 then some (n + 4)
  else if c = '+' then some 62
  else if c = '/' then some 63
  else none

def isDigit (c : Char) : Bool := (value? c).isSome

def encodeUnpadded : List UInt8 → List Char
  | [] => []
  | [a] =>
    let n := a.toNat
    [digit (n / 4), digit (n % 4 * 16)]
  | [a, b] =>
    let n := a.toNat * 256 + b.toNat
    [digit (n / 1024), digit (n / 16 % 64), digit (n % 16 * 4)]
  | a :: b :: c :: rest =>
    let n := a.toNat * 65536 + b.toNat * 256 + c.toNat
    digit (n / 262144) :: digit (n / 4096 % 64) :: digit (n / 64 % 64) :: digit (n % 64) ::
      encodeUnpadded rest

def padding (count : Nat) : List Char := List.replicate ((4 - count % 4) % 4) '='

def encode (bytes : List UInt8) : List Char :=
  let ds := encodeUnpadded bytes
  ds ++ padding ds.length

inductive Error
  | invalidByte (byte offset : Nat)
  | invalidLength
  | invalidLastSymbol (byte offset : Nat)
  | invalidPadding
  deriving DecidableEq

def Error.message : Error → String
  | .invalidByte byte offset => s!"Invalid byte {byte}, offset {offset}."
  | .invalidLength => "Encoded text cannot have a 6-bit remainder."
  | .invalidLastSymbol byte offset => s!"Invalid last symbol {byte}, offset {offset}."
  | .invalidPadding => "Invalid padding"

/-- The bytes of the values of digits. Bits that do not fill a byte are dropped. -/
def bytes : List Nat → List UInt8
  | a :: b :: c :: d :: rest =>
    let n := a * 262144 + b * 4096 + c * 64 + d
    UInt8.ofNat (n / 65536) :: UInt8.ofNat (n / 256) :: UInt8.ofNat n :: bytes rest
  | [a, b, c] =>
    let n := a * 4096 + b * 64 + c
    [UInt8.ofNat (n / 1024), UInt8.ofNat (n / 4)]
  | [a, b] => [UInt8.ofNat ((a * 64 + b) / 16)]
  | _ => []

def spareBits (count last : Nat) : Nat :=
  if count % 4 = 2 then last % 16 else if count % 4 = 3 then last % 4 else 0

def decode (core : List Char) (pads : Nat) : Except Error (List UInt8) :=
  let count := core.length
  let last := core.getLast?.getD 'A'
  if (count + pads) % 4 = 1 then .error .invalidLength
  else if pads != 0 && count % 4 < 2 then .error (.invalidByte 61 count)
  else if (count + pads) % 4 != 0 then .error .invalidPadding
  else if spareBits count ((value? last).getD 0) != 0 then
    .error (.invalidLastSymbol last.toNat (count - 1))
  else .ok (bytes (core.filterMap value?))

end CloudDesk.Base64
