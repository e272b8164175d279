import CloudDesk.Decimal.Reading
import CloudDesk.Json.Basic
import CloudDesk.Text.Utf8

namespace CloudDesk.Json

open Text

def isSpace (c : Char) : Bool := c == ' ' || c == '\n' || c == '\t' || c == '\r'

def skipSpace (cs : List Char) : List Char := cs.dropWhile isSpace

/-- Where in a string the reader stands: between characters, after a backslash, or within the four
hexadecimal digits of an escape, with the count of those to come and the value so far. -/
inductive StringPlace
  | between
  | escape
  | unit (left value : Nat)

/-- The part of a string read so far: its characters in reverse, the first half of a surrogate pair
that waits for the second, and whether all halves met their partners. -/
structure StringSoFar where
  chars : List Char
  half : Option Nat
  sound : Bool

namespace StringSoFar

def push (s : StringSoFar) (c : Char) : StringSoFar :=
  ⟨c :: s.chars, none, s.sound && s.half.isNone⟩

def pushUnit (s : StringSoFar) (u : Nat) : StringSoFar :=
  if 0xDC00 ≤ u && u < 0xE000 then
    match s.half with
    | some h => ⟨Char.ofNat (0x10000 + (h - 0xD800) * 0x400 + (u - 0xDC00)) :: s.chars, none, s.sound⟩
    | none => ⟨s.chars, none, false⟩
  else if 0xD800 ≤ u && u < 0xDC00 then ⟨s.chars, some u, s.sound && s.half.isNone⟩
  else s.push (Char.ofNat u)

/-- The finished string, a fault when half of a surrogate pair stands alone. -/
def text? (s : StringSoFar) : Option String :=
  if s.sound && s.half.isNone then some (String.ofList s.chars.reverse) else none

end StringSoFar

def simpleEscape? : Char → Option Char
  | '\x22' => some '\x22'
  | '\\' => some '\\'
  | '/' => some '/'
  | 'b' => some '\x08'
  | 'f' => some '\x0c'
  | 'n' => some '\n'
  | 'r' => some '\r'
  | 't' => some '\t'
  | _ => none

def readString : StringPlace → StringSoFar → List Char → Option (StringSoFar × List Char)
  | _, _, [] => none
  | .between, s, c :: rest =>
    if c == '\x22' then some (s, rest)
    else if c == '\\' then readString .escape s rest
    else if c.toNat < 0x20 then none
    else readString .between (s.push c) rest
  | .escape, s, c :: rest =>
    if c == 'u' then readString (.unit 4 0) s rest
    else
      match simpleEscape? c with
      | some d => readString .between (s.push d) rest
      | none => none
  | .unit left value, s, c :: rest =>
    match hexValue? c with
    | none => none
    | some d =>
      if left ≤ 1 then readString .between (s.pushUnit (16 * value + d)) rest
      else readString (.unit (left - 1) (16 * value + d)) s rest

def readFraction : List Char → Option (List Char × List Char)
  | '.' :: rest =>
    let ds := rest.takeWhile isDigit
    if ds.isEmpty then none else some (ds, rest.dropWhile isDigit)
  | cs => some ([], cs)

def readExponent : List Char → Option (Option Int × List Char)
  | [] => some (none, [])
  | c :: rest =>
    if c == 'e' || c == 'E' then
      let (negative, cs) := Decimal.signed rest
      let ds := cs.takeWhile isDigit
      if ds.isEmpty then none
      else some (some (if negative then -(ofDigits ds : Int) else ofDigits ds), cs.dropWhile isDigit)
    else some (none, c :: rest)

/-- A whole number without point and exponent is an integer if 64 bits hold it. Any other number is
a binary number, and a fault if that is infinite. -/
def numberValue (measure : Decimal.Parts → Float) (p : Decimal.Parts) (isWhole : Bool) : Json :=
  let n := ofDigits p.whole
  if isWhole && !p.negative && n < Nat.pow 2 64 then .int n
  else if isWhole && p.negative && n != 0 && n ≤ Nat.pow 2 63 then .int (-(n : Int))
  else if (measure p).isFinite then .float (measure p) else .fault .value

def readNumber (measure : Decimal.Parts → Float) (cs : List Char) : Option (Json × List Char) := do
  let (negative, cs) := match cs with
    | '-' :: rest => (true, rest)
    | cs => (false, cs)
  let whole := cs.takeWhile isDigit
  if whole.isEmpty || (whole.head? == some '0' && whole.length != 1) then none
  else
    let (fraction, rest) ← readFraction (cs.dropWhile isDigit)
    let (exponent, rest) ← readExponent rest
    let isWhole := fraction.isEmpty && exponent.isNone
    some (numberValue measure ⟨negative, whole, fraction, exponent.getD 0⟩ isWhole, rest)

def readWord (word : List Char) (value : Json) (cs : List Char) : Json × Option (List Char) :=
  if word.isPrefixOf cs then (value, some (cs.drop word.length)) else (.fault .stop, none)

section

variable (measure : Decimal.Parts → Float)

mutual

/-- Reads a value. The steps bound the count of values and fields read. -/
def readValue : Nat → List Char → Json × Option (List Char)
  | 0, _ => (.fault .stop, none)
  | steps + 1, cs =>
    match skipSpace cs with
    | [] => (.fault .stop, none)
    | c :: rest =>
      if c == '\x22' then
        match readString .between ⟨[], none, true⟩ rest with
        | none => (.fault .stop, none)
        | some (s, rest) =>
          match s.text? with
          | some t => (.string t, some rest)
          | none => (.fault .value, some rest)
      else if c == '[' then
        match skipSpace rest with
        | ']' :: rest => (.array [], some rest)
        | rest =>
          let (items, rest) := readItems steps rest
          (.array items, rest)
      else if c == '\x7b' then
        match skipSpace rest with
        | '\x7d' :: rest => (.object [], some rest)
        | rest =>
          let (fields, rest) := readFields steps rest
          (.object fields, rest)
      else if c == 't' then readWord ['t', 'r', 'u', 'e'] (.bool true) (c :: rest)
      else if c == 'f' then readWord ['f', 'a', 'l', 's', 'e'] (.bool false) (c :: rest)
      else if c == 'n' then readWord ['n', 'u', 'l', 'l'] .null (c :: rest)
      else
        match readNumber measure (c :: rest) with
        | some (value, rest) => (value, some rest)
        | none => (.fault .stop, none)

def readItems : Nat → List Char → List Json × Option (List Char)
  | 0, _ => ([.fault .stop], none)
  | steps + 1, cs =>
    match readValue steps cs with
    | (value, none) => ([value], none)
    | (value, some rest) =>
      match skipSpace rest with
      | ']' :: rest => ([value], some rest)
      | ',' :: rest =>
        let (items, rest) := readItems steps rest
        (value :: items, rest)
      | _ => ([value, .fault .stop], none)

def readFields : Nat → List Char → List (String × Json) × Option (List Char)
  | 0, _ => ([("", .fault .stop)], none)
  | steps + 1, cs =>
    match skipSpace cs with
    | '\x22' :: rest =>
      match readString .between ⟨[], none, true⟩ rest with
      | none => ([("", .fault .stop)], none)
      | some (s, rest) =>
        match skipSpace rest with
        | ':' :: rest =>
          let (value, rest) := readValue steps rest
          let field := match s.text? with
            | some name => (name, value)
            | none => ("", if value.isComplete then .fault .name else .fault .stop)
          match rest with
          | none => ([field], none)
          | some rest =>
            match skipSpace rest with
            | '\x7d' :: rest => ([field], some rest)
            | ',' :: rest =>
              let (fields, rest) := readFields steps rest
              (field :: fields, rest)
            | _ => ([field, ("", .fault .stop)], none)
        | _ => ([((s.text?).getD "", .fault .stop)], none)
    | _ => ([("", .fault .stop)], none)

end

def readStart (s : String) : Json × Option (List Char) :=
  let cs := s.toList
  readValue measure (2 * cs.length + 2) cs

def readWith (s : String) : Json :=
  match readStart measure s with
  | (value, some rest) => if (skipSpace rest).isEmpty then value else .fault .stop
  | (value, none) => value

end

def read (s : String) : Json := readWith Decimal.Parts.scaled s

/-- What stands for bytes that are no character: a string that holds them has no value, so that it
can be passed over like one with half of a surrogate pair, and outside of strings nothing can be
read. -/
def noCharacter : List Char := ['\ufffd', '\\', 'u', 'd', 'c', '0', '0']

def textOf (bytes : List UInt8) : String :=
  String.ofList ((decodeFrom none bytes).flatMap fun
    | some c => [c]
    | none => noCharacter)

def readBytes (bytes : List UInt8) : Json := read (textOf bytes)

end CloudDesk.Json
