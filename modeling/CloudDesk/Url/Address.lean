import CloudDesk.Text.Basic
import CloudDesk.Url.Percent

namespace CloudDesk.Url

open Text

def number? (base : Nat) (ds : List Char) : Option Nat :=
  ds.foldl (fun n c => n.bind fun n =>
    (hexValue? c).bind fun d => if d < base then some (n * base + d) else none) (some 0)

/-- A part of an IPv4 address: hexadecimal after 0x, octal after 0, else decimal. -/
def ipv4Part? : List Char → Option Nat
  | [] => none
  | '0' :: 'x' :: ds => number? 16 ds
  | '0' :: 'X' :: ds => number? 16 ds
  | '0' :: d :: ds => number? 8 (d :: ds)
  | ds => number? 10 ds

def ipv4Parts (cs : List Char) : List (List Char) :=
  let parts := splitAt '.' cs
  if 1 < parts.length && parts.getLast? == some [] then parts.dropLast else parts

/-- A domain whose last part is a number can only be an IPv4 address. -/
def endsInNumber (cs : List Char) : Bool :=
  match (ipv4Parts cs).getLast? with
  | none | some [] => false
  | some part => part.all isDigit || (ipv4Part? part).isSome

/-- Up to four parts. The last one fills all bytes that are left, any other is a single byte. -/
def ipv4? (cs : List Char) : Option Nat := do
  let parts := ipv4Parts cs
  if 4 < parts.length then none
  else
    let numbers ← parts.mapM ipv4Part?
    let last ← numbers.getLast?
    let front := numbers.dropLast
    if front.all (· < 256) && last < Nat.pow 256 (4 - front.length) then
      some (front.foldl (fun n d => n * 256 + d) 0 * Nat.pow 256 (4 - front.length) + last)
    else none

def writeIpv4 (n : Nat) : List Char :=
  digits (n / 16777216 % 256) ++ '.' :: digits (n / 65536 % 256) ++ '.' :: digits (n / 256 % 256) ++
    '.' :: digits (n % 256)

def octet? (ds : List Char) : Option Nat :=
  if ds.isEmpty || 3 < ds.length || (1 < ds.length && ds.head? == some '0') then none
  else (number? 10 ds).filter (· < 256)

def dotted? (cs : List Char) : Option (List Nat) :=
  let parts := splitAt '.' cs
  if parts.length = 4 then parts.mapM octet? else none

def group? (ds : List Char) : Option Nat :=
  if ds.isEmpty || 4 < ds.length then none else number? 16 ds

/-- The groups of a text with colons between; the last may be an IPv4 address. No text, no groups.
-/
def groups? (lastDotted : Bool) (cs : List Char) : Option (List Nat) :=
  if cs.isEmpty then some [] else go (splitAt ':' cs)
where
  go : List (List Char) → Option (List Nat)
    | [] => some []
    | [part] =>
      if lastDotted && part.contains '.' then
        match dotted? part with
        | some [a, b, c, d] => some [a * 256 + b, c * 256 + d]
        | _ => none
      else (group? part).map fun g => [g]
    | part :: rest =>
      match group? part, go rest with
      | some g, some gs => some (g :: gs)
      | _, _ => none

def splitColons : List Char → Option (List Char × List Char)
  | ':' :: ':' :: rest => some ([], rest)
  | c :: rest => (splitColons rest).map fun (before, after) => (c :: before, after)
  | [] => none

/-- Eight groups. A pair of colons stands for at least one group of zero. -/
def ipv6? (cs : List Char) : Option (List Nat) :=
  match splitColons cs with
  | none => (groups? true cs).filter fun gs => gs.length == 8
  | some (before, after) =>
    match groups? false before, groups? true after with
    | some gs, some hs =>
      if gs.length + hs.length < 8 then
        some (gs ++ List.replicate (8 - gs.length - hs.length) 0 ++ hs)
      else none
    | _, _ => none

def longestZeros (i : Nat) : List Nat → Nat × Nat
  | [] => (i, 0)
  | g :: gs =>
    let run := ((g :: gs).takeWhile (· == 0)).length
    let (start, length) := longestZeros (i + 1) gs
    if length ≤ run then (i, run) else (start, length)

def hexDigits (n : Nat) : List Char := Nat.toDigits 16 n

def joinGroups (gs : List Nat) : List Char := List.intercalate [':'] (gs.map hexDigits)

/-- Two or more groups of zero in a row are left out once, where most of them are. -/
def writeIpv6 (gs : List Nat) : List Char :=
  let (start, length) := longestZeros 0 gs
  if length < 2 then joinGroups gs
  else joinGroups (gs.take start) ++ ':' :: ':' :: joinGroups (gs.drop (start + length))

def isSocketAddress (host : String) : Bool :=
  match host.toList with
  | '[' :: rest =>
    if rest.getLast? == some ']' then
      let inner := rest.dropLast
      let address := inner.takeWhile (· != '%')
      let zone := inner.dropWhile (· != '%')
      (ipv6? address).isSome &&
        (zone.isEmpty || (1 < zone.length && (zone.drop 1).all isDigit && ofDigits (zone.drop 1) < Nat.pow 2 32))
    else false
  | cs => (dotted? cs).isSome

end CloudDesk.Url
