import CloudDesk.Text.Basic

namespace CloudDesk.Decimal

open Text

/-- The number nearest to m * 10 ^ e. Beyond the range of the exponent the result is known without
computing the power. -/
def nearest (negative : Bool) (m : Nat) (e : Int) : Float :=
  let size := e + (digits m).length
  let magnitude : Float :=
    if m = 0 || size < -400 then 0.0
    else if 400 < size then 1.0 / 0.0
    else if 0 ≤ e then Float.ofScientific m false e.toNat
    else Float.ofScientific m true (-e).toNat
  if negative then -magnitude else magnitude

structure Parts where
  negative : Bool
  whole : List Char
  fraction : List Char
  exponent : Int

def Parts.nearest (p : Parts) : Float :=
  Decimal.nearest p.negative (ofDigits (p.whole ++ p.fraction)) (p.exponent - p.fraction.length)

def signed : List Char → Bool × List Char
  | '-' :: rest => (true, rest)
  | '+' :: rest => (false, rest)
  | cs => (false, cs)

def exponent? (cs : List Char) : Option Int :=
  let (negative, ds) := signed cs
  if ds.isEmpty || !ds.all isDigit then none
  else some (if negative then -(ofDigits ds : Int) else ofDigits ds)

def unsigned? (negative : Bool) (cs : List Char) : Option Parts :=
  let whole := cs.takeWhile isDigit
  let rest := cs.dropWhile isDigit
  let (fraction, rest) :=
    match rest with
    | '.' :: more => (more.takeWhile isDigit, more.dropWhile isDigit)
    | _ => ([], rest)
  if whole.isEmpty && fraction.isEmpty then none
  else
    match rest with
    | [] => some ⟨negative, whole, fraction, 0⟩
    | c :: more =>
      if c == 'e' || c == 'E' then (exponent? more).map fun e => ⟨negative, whole, fraction, e⟩
      else none

def read? (s : String) : Option Float :=
  let (negative, cs) := signed s.toList
  let word := lower (String.ofList cs)
  if word == "inf" || word == "infinity" then some (if negative then -(1.0 / 0.0) else 1.0 / 0.0)
  else if word == "nan" then some (0.0 / 0.0)
  else (unsigned? negative cs).map Parts.nearest

inductive NaturalFault
  | empty
  | digit
  | size
  deriving DecidableEq

def NaturalFault.message : NaturalFault → String
  | .empty => "cannot parse integer from empty string"
  | .digit => "invalid digit found in string"
  | .size => "number too large to fit in target type"

def naturalFrom (bound : Nat) : Nat → List Char → Except NaturalFault Nat
  | n, [] => .ok n
  | n, c :: rest =>
    match digitValue? c with
    | none => .error .digit
    | some d => if 10 * n + d < bound then naturalFrom bound (10 * n + d) rest else .error .size

def natural (bound : Nat) (s : String) : Except NaturalFault Nat :=
  match s.toList with
  | [] => .error .empty
  | ['+'] => .error .digit
  | '+' :: rest => naturalFrom bound 0 rest
  | cs => naturalFrom bound 0 cs

def natural? (bound : Nat) (s : String) : Option Nat := (natural bound s).toOption

def appendDigits : Nat → List Char → Nat × List Char
  | n, [] => (n, [])
  | n, c :: rest =>
    let m := 10 * n + (digitValue? c).getD 0
    if m < Nat.pow 2 64 then appendDigits m rest else (n, c :: rest)

/-- The digits that count, as an integer, and the power of ten that goes with it. The digits left
over of a whole part raise the power. Those of a fraction are dropped. -/
def Parts.leading (p : Parts) : Nat × Int :=
  let (n, beyond) := appendDigits 0 p.whole
  let (n, dropped) := appendDigits n p.fraction
  (n, p.exponent + beyond.length + dropped.length - p.fraction.length)

def powerOfTen (e : Nat) : Float := Float.ofScientific 1 false e

/-- A number up to 2 ^ 64 scaled by a power of ten. The greatest power of ten is that of 308, and no
number is left after a division by it and by more than it. -/
def scale (x : Float) (e : Int) : Float :=
  if x == 0.0 || e < -616 then 0.0
  else if e < -308 then x / powerOfTen 308 / powerOfTen (-e - 308).toNat
  else if e < 0 then x / powerOfTen (-e).toNat
  else if e ≤ 308 then x * powerOfTen e.toNat
  else 1.0 / 0.0

/-- The number as the reader of JSON computes it. The integer and the scaling both round, so that
the result may miss the nearest number by a little. -/
def Parts.scaled (p : Parts) : Float :=
  let (n, e) := p.leading
  let magnitude := scale (UInt64.ofNat n).toFloat e
  if p.negative then -magnitude else magnitude

end CloudDesk.Decimal
