import CloudDesk.Decimal.Shortest
import CloudDesk.Text.Basic

namespace CloudDesk.Decimal

open Text

def isNegative (x : Float) : Bool := x.toBits.toNat / Nat.pow 2 63 % 2 == 1

def pointed (ds : List Char) (n : Nat) : List Char := ds.take n ++ '.' :: ds.drop n

def Scaled.plain (d : Scaled) : List Char :=
  let ds := digits d.coefficient
  let point := (ds.length : Int) + d.exponent
  if 0 ≤ d.exponent then ds ++ List.replicate d.exponent.toNat '0'
  else if 0 < point then pointed ds point.toNat
  else '0' :: '.' :: List.replicate (-point).toNat '0' ++ ds

/-- How amounts stand in messages. Ties go up. -/
def plain (x : Float) : String :=
  if x.isNaN then "NaN"
  else
    let sign := if isNegative x then "-" else ""
    if x.isInf then sign ++ "inf" else sign ++ String.ofList (shortest .up x).plain

/-- Always with a point or an exponent; positional from 10 ^ -5 up to below 10 ^ 16. -/
def Scaled.marked (d : Scaled) : List Char :=
  let ds := digits d.coefficient
  let point := (ds.length : Int) + d.exponent
  if 0 ≤ d.exponent && point ≤ 16 then ds ++ List.replicate d.exponent.toNat '0' ++ ['.', '0']
  else if 0 < point && point ≤ 16 then pointed ds point.toNat
  else if -5 < point && point ≤ 0 then '0' :: '.' :: List.replicate (-point).toNat '0' ++ ds
  else
    let head := if ds.length = 1 then ds else pointed ds 1
    let power := point - 1
    head ++ 'e' :: (if power < 0 then '-' :: digits power.natAbs else digits power.natAbs)

def marked (x : Float) : String :=
  (if isNegative x then "-" else "") ++ String.ofList (shortest .toEven x).marked

end CloudDesk.Decimal
