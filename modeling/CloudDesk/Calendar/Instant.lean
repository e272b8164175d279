import CloudDesk.Calendar.Date

namespace CloudDesk

open Text

/-- A leap second belongs to the second before it, with a billion nanoseconds or more. -/
structure Instant where
  seconds : Int
  nanos : Nat
  deriving DecidableEq

namespace Instant

def billion : Nat := 1000000000

def ofDate (d : Date) : Instant := ⟨d.toDays * 86400, 0⟩

/-- Three, six or nine digits after a point, the fewest that are exact, and nothing for zero. -/
def writeFraction (nanos : Nat) : List Char :=
  if nanos = 0 then []
  else if nanos % 1000000 = 0 then '.' :: padded 3 (nanos / 1000000)
  else if nanos % 1000 = 0 then '.' :: padded 6 (nanos / 1000)
  else '.' :: padded 9 nanos

def write (t : Instant) : String :=
  let clock := (t.seconds % 86400).toNat
  let leap := t.nanos / billion
  String.ofList <| (Date.ofDays (t.seconds / 86400)).write ++ 'T' :: padded 2 (clock / 3600) ++
    ':' :: padded 2 (clock / 60 % 60) ++ ':' :: padded 2 (clock % 60 + leap) ++
    writeFraction (t.nanos % billion) ++ ['Z']

/-- Nanoseconds after a point: nine digits count and any further ones are passed over. -/
def readFraction : List Char → Option (Nat × List Char)
  | '.' :: rest =>
    let ds := rest.takeWhile isDigit
    if ds.isEmpty then none
    else some (ofDigits (ds.take 9) * Nat.pow 10 (9 - ds.length), rest.dropWhile isDigit)
  | cs => some (0, cs)

/-- The seconds that local time is ahead of UTC: a zone name, or a sign, two digits of hours and two
of minutes. Colons and white space may stand between hours and minutes. -/
def readOffset (cs : List Char) : Option (Int × List Char) :=
  match cs with
  | 'Z' :: rest | 'z' :: rest => some (0, rest)
  | sign :: rest =>
    if lower3 cs then some (0, cs.drop 3)
    else if sign = '+' then part 1 rest
    else if sign = '-' || sign = '\u2212' then part (-1) rest
    else none
  | [] => none
where
  lower3 (cs : List Char) : Bool := (cs.take 3).map Char.toLower == ['u', 't', 'c']
  part (sign : Int) (cs : List Char) : Option (Int × List Char) := do
    let (hours, cs) ← twoDigits cs
    let (minutes, cs) ← twoDigits (cs.dropWhile fun c => c == ':' || isBlank c)
    let offset : Nat := hours * 3600 + minutes * 60
    if minutes < 60 && offset < 86400 then some (sign * offset, cs) else none
  twoDigits : List Char → Option (Nat × List Char)
    | a :: b :: rest =>
      match digitValue? a, digitValue? b with
      | some x, some y => some (10 * x + y, rest)
      | _, _ => none
    | _ => none

def inRange (t : Instant) : Bool := (Date.ofDays (t.seconds / 86400)).isValid

def read? (s : String) : Option Instant := do
  let (date, cs) ← Date.readStart s.toList
  let cs ← match cs with
    | c :: rest => if c == 'T' || c == 't' || c == ' ' then some rest else none
    | [] => none
  let (hour, cs) ← Date.readField 2 cs
  let cs ← Date.readMark ':' cs
  let (minute, cs) ← Date.readField 2 cs
  let cs ← Date.readMark ':' cs
  let (second, cs) ← Date.readField 2 cs
  let (fraction, cs) ← readFraction cs
  let (offset, cs) ← readOffset (trimStart cs)
  if hour < 24 && minute < 60 && second ≤ 60 && cs.all isBlank then
    let leap := second / 60
    let clock : Nat := hour * 3600 + minute * 60 + (second - leap)
    let t : Instant := ⟨date.toDays * 86400 + clock - offset, leap * billion + fraction⟩
    if t.inRange then some t else none
  else none

end Instant

end CloudDesk
