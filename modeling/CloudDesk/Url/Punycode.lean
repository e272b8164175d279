import CloudDesk.Text.Basic

namespace CloudDesk.Punycode

def base : Nat := 36
def tmin : Nat := 1
def tmax : Nat := 26

def digit (d : Nat) : Char := Char.ofNat (if d < 26 then 97 + d else 22 + d)

def value? (c : Char) : Option Nat :=
  let n := c.toNat
  if 97 ≤ n && n ≤ 122 then some (n - 97)
  else if 65 ≤ n && n ≤ 90 then some (n - 65)
  else if 48 ≤ n && n ≤ 57 then some (n - 22)
  else none

/-- Halves a distance by thirty-five until it is small, and counts the steps in bases. -/
def scaleDown : Nat → Nat → Nat → Nat × Nat
  | 0, k, delta => (k, delta)
  | steps + 1, k, delta =>
    if (base - tmin) * tmax / 2 < delta then scaleDown steps (k + base) (delta / (base - tmin))
    else (k, delta)

def adapt (delta count : Nat) (first : Bool) : Nat :=
  let delta := if first then delta / 700 else delta / 2
  let (k, delta) := scaleDown 40 0 (delta + delta / count)
  k + (base - tmin + 1) * delta / (delta + 38)

def threshold (k bias : Nat) : Nat :=
  if k ≤ bias then tmin else if bias + tmax ≤ k then tmax else k - bias

def distanceDigits (bias : Nat) : Nat → Nat → Nat → List Char
  | 0, _, _ => []
  | steps + 1, k, q =>
    let t := threshold k bias
    if q < t then [digit q]
    else digit (t + (q - t) % (base - t)) :: distanceDigits bias steps (k + base) ((q - t) / (base - t))

structure Encoder where
  delta : Nat
  bias : Nat
  done : Nat

def passOver (n basics : Nat) : Encoder → List Nat → List Char × Encoder
  | s, [] => ([], s)
  | s, c :: rest =>
    if c < n then passOver n basics { s with delta := s.delta + 1 } rest
    else if c = n then
      let out := distanceDigits s.bias 40 base s.delta
      let (more, s) :=
        passOver n basics ⟨0, adapt s.delta (s.done + 1) (s.done == basics), s.done + 1⟩ rest
      (out ++ more, s)
    else passOver n basics s rest

def encodeFrom (label : List Nat) (basics : Nat) : Nat → Nat → Encoder → List Char
  | 0, _, _ => []
  | steps + 1, n, s =>
    match (label.filter (n ≤ ·)).min? with
    | none => []
    | some m =>
      let (out, s) := passOver m basics { s with delta := s.delta + (m - n) * (s.done + 1) } label
      out ++ encodeFrom label basics steps (m + 1) { s with delta := s.delta + 1 }

def encode (label : List Char) : List Char :=
  let basic := label.filter fun c => c.toNat < 128
  let codes := label.map Char.toNat
  let front := if basic.isEmpty then [] else basic ++ ['-']
  front ++ encodeFrom codes basic.length (codes.length + 1) 128 ⟨0, 72, basic.length⟩

/-- Reads the digits of one distance, and gives it added to `i`. -/
def readDistance (bias : Nat) : Nat → Nat → Nat → List Char → Option (Nat × List Char)
  | _, _, _, [] => none
  | i, w, k, c :: rest =>
    match value? c with
    | none => none
    | some d =>
      let t := threshold k bias
      let i := i + d * w
      if d < t then some (i, rest) else readDistance bias i (w * (base - t)) (k + base) rest

def decodeFrom : Nat → Nat → Nat → Nat → List Nat → List Char → Option (List Nat)
  | 0, _, _, _, _, _ => none
  | _ + 1, _, _, _, out, [] => some out
  | steps + 1, n, i, bias, out, cs => do
    let (next, rest) ← readDistance bias i 1 base cs
    let count := out.length + 1
    let n := n + next / count
    let place := next % count
    if n < 0x110000 && !(0xD800 ≤ n && n < 0xE000) then
      decodeFrom steps n (place + 1) (adapt (next - i) count (i == 0)) (out.take place ++ n :: out.drop place) rest
    else none

def splitHyphen (cs : List Char) : List Char × List Char :=
  let after := (cs.reverse.takeWhile (· != '-')).reverse
  (cs.take (cs.length - after.length - 1), after)

def decode? (cs : List Char) : Option (List Char) :=
  let (basic, digits) := if cs.contains '-' then splitHyphen cs else ([], cs)
  (decodeFrom (digits.length + 1) 128 0 72 (basic.map Char.toNat) digits).map (·.map Char.ofNat)

end CloudDesk.Punycode
