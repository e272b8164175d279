namespace CloudDesk.Text

def utf8Char (c : Char) : List UInt8 :=
  let n := c.toNat
  if n < 0x80 then [UInt8.ofNat n]
  else if n < 0x800 then [UInt8.ofNat (0xC0 + n / 64), UInt8.ofNat (0x80 + n % 64)]
  else if n < 0x10000 then
    [UInt8.ofNat (0xE0 + n / 4096), UInt8.ofNat (0x80 + n / 64 % 64), UInt8.ofNat (0x80 + n % 64)]
  else
    [UInt8.ofNat (0xF0 + n / 262144), UInt8.ofNat (0x80 + n / 4096 % 64),
      UInt8.ofNat (0x80 + n / 64 % 64), UInt8.ofNat (0x80 + n % 64)]

def utf8 (s : String) : List UInt8 := s.toList.flatMap utf8Char

/-- How many bytes follow a leading byte, with the least and greatest second byte. -/
def leading? (b : Nat) : Option (Nat × Nat × Nat) :=
  if 0xC2 ≤ b && b ≤ 0xDF then some (1, 0x80, 0xBF)
  else if b = 0xE0 then some (2, 0xA0, 0xBF)
  else if b = 0xED then some (2, 0x80, 0x9F)
  else if 0xE1 ≤ b && b ≤ 0xEF then some (2, 0x80, 0xBF)
  else if b = 0xF0 then some (3, 0x90, 0xBF)
  else if 0xF1 ≤ b && b ≤ 0xF3 then some (3, 0x80, 0xBF)
  else if b = 0xF4 then some (3, 0x80, 0x8F)
  else none

/-- A character of several bytes that is being read: the bytes to come, the bounds of the next one,
and the value of those before. -/
structure Partial where
  left : Nat
  least : Nat
  greatest : Nat
  value : Nat

def decodeFrom : Option Partial → List UInt8 → List (Option Char)
  | none, [] => []
  | some _, [] => [none]
  | none, b :: rest => beginWith b.toNat fun p => decodeFrom p rest
  | some p, b :: rest =>
    let n := b.toNat
    if p.least ≤ n && n ≤ p.greatest then
      let value := p.value * 64 + n % 64
      if p.left ≤ 1 then some (Char.ofNat value) :: decodeFrom none rest
      else decodeFrom (some ⟨p.left - 1, 0x80, 0xBF, value⟩) rest
    else none :: beginWith n fun p => decodeFrom p rest
where
  beginWith (n : Nat) (go : Option Partial → List (Option Char)) : List (Option Char) :=
    if n < 0x80 then some (Char.ofNat n) :: go none
    else
      match leading? n with
      | some (left, least, greatest) => go (some ⟨left, least, greatest, n % Nat.pow 2 (6 - left)⟩)
      | none => none :: go none

def replacement : Char := '\ufffd'

/-- The text of bytes, with a replacement for each longest run that could have begun a character. -/
def decodeLossy (bytes : List UInt8) : String :=
  String.ofList ((decodeFrom none bytes).map fun c => c.getD replacement)

def decodeStrict? (bytes : List UInt8) : Option String :=
  ((decodeFrom none bytes).mapM id).map String.ofList

/-- Where bytes stop being UTF-8: how many are before, and how many then belong to no character.
There is no such number when the bytes end within a character. -/
structure Utf8Fault where
  index : Nat
  length : Option Nat
  deriving DecidableEq

def Utf8Fault.message (f : Utf8Fault) : String :=
  match f.length with
  | some n => s!"invalid utf-8 sequence of {n} bytes from index {f.index}"
  | none => s!"incomplete utf-8 byte sequence from index {f.index}"

def faultFrom (index : Nat) : Option (Partial × Nat) → List UInt8 → Option Utf8Fault
  | none, [] => none
  | some _, [] => some ⟨index, none⟩
  | none, b :: rest =>
    if b.toNat < 0x80 then faultFrom (index + 1) none rest
    else
      match leading? b.toNat with
      | some (left, least, greatest) => faultFrom index (some (⟨left, least, greatest, 0⟩, 1)) rest
      | none => some ⟨index, some 1⟩
  | some (p, n), b :: rest =>
    if p.least ≤ b.toNat && b.toNat ≤ p.greatest then
      if p.left ≤ 1 then faultFrom (index + n + 1) none rest
      else faultFrom index (some (⟨p.left - 1, 0x80, 0xBF, 0⟩, n + 1)) rest
    else some ⟨index, some n⟩

def utf8Fault? (bytes : List UInt8) : Option Utf8Fault := faultFrom 0 none bytes

end CloudDesk.Text
