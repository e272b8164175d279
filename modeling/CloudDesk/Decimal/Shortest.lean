namespace CloudDesk.Decimal

structure Binary where
  significand : Nat
  exponent : Int
  deriving DecidableEq

structure Scaled where
  coefficient : Nat
  exponent : Int
  deriving DecidableEq

/-- Which of two equally near neighbours is taken: the one with an even last digit, or the greater.
-/
inductive Tie
  | toEven
  | up
  deriving DecidableEq

def Binary.ofBits (bits : Nat) : Binary :=
  let fraction : Nat := bits % Nat.pow 2 52
  let raised : Nat := bits / Nat.pow 2 52 % Nat.pow 2 11
  if raised = 0 then ⟨fraction, -1074⟩ else ⟨Nat.pow 2 52 + fraction, (raised : Int) - 1075⟩

/-- An interval of rationals low / unit to high / unit around value / unit. -/
structure Interval where
  low : Nat
  value : Nat
  high : Nat
  unit : Nat
  closed : Bool

/-- The rationals that are nearer to the number than to its neighbours. Below a power of two the
neighbour is half as far. -/
def Binary.interval (b : Binary) : Interval :=
  let m := 4 * b.significand
  let below := if b.significand = Nat.pow 2 52 && b.exponent != -1074 then 1 else 2
  let q := b.exponent - 2
  let scale := Nat.pow 2 q.toNat
  ⟨(m - below) * scale, m * scale, (m + 2) * scale, Nat.pow 2 (-q).toNat, b.significand % 2 == 0⟩

def Interval.inTens (i : Interval) (e : Int) : Interval :=
  let up := Nat.pow 10 (-e).toNat
  ⟨i.low * up, i.value * up, i.high * up, i.unit * Nat.pow 10 e.toNat, i.closed⟩

def Interval.contains (i : Interval) (c : Nat) : Bool :=
  let x := c * i.unit
  if i.closed then i.low ≤ x && x ≤ i.high else i.low < x && x < i.high

def Tie.choose (tie : Tie) (c : Nat) : Nat :=
  if tie = .toEven && c % 2 = 0 then c else c + 1

def Interval.nearest? (tie : Tie) (i : Interval) : Option Nat :=
  let c := i.value / i.unit
  let rest := i.value % i.unit
  match i.contains c, i.contains (c + 1) with
  | false, false => none
  | true, false => some c
  | false, true => some (c + 1)
  | true, true =>
    if 2 * rest < i.unit then some c
    else if i.unit < 2 * rest then some (c + 1)
    else some (tie.choose c)

def search (tie : Tie) (i : Interval) : Nat → Int → Scaled
  | 0, e => ⟨i.value / i.unit, e⟩
  | steps + 1, e =>
    match (i.inTens e).nearest? tie with
    | some c => ⟨c, e⟩
    | none => search tie i steps (e - 1)

def Binary.ceiling (b : Binary) : Int :=
  (b.exponent + (Nat.log2 b.significand : Int) + 1) * 30103 / 100000 + 2

/-- The decimals that read back as m * 2 ^ q fill the interval half way to its two neighbours, with
the ends when m is even. One of the form c * 10 ^ e has the fewer digits the greater e is, so the
greatest e with such a decimal in the interval is sought, and of these decimals the nearest is
taken. -/
def Binary.shortest (tie : Tie) (b : Binary) : Scaled := search tie b.interval 40 b.ceiling

def shortest (tie : Tie) (x : Float) : Scaled :=
  let b := Binary.ofBits x.toBits.toNat
  if b.significand = 0 then ⟨0, 0⟩ else b.shortest tie

end CloudDesk.Decimal
