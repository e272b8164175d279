namespace CloudDesk.Text

def lower (s : String) : String := String.ofList (s.toList.map Char.toLower)

def upper (s : String) : String := String.ofList (s.toList.map Char.toUpper)

def sameIgnoringCase (a b : String) : Bool := lower a == lower b

def isBlank (c : Char) : Bool :=
  let n := c.toNat
  (9 ≤ n && n ≤ 13) || n == 0x20 || n == 0x85 || n == 0xA0 || n == 0x1680 ||
    (0x2000 ≤ n && n ≤ 0x200A) || n == 0x2028 || n == 0x2029 || n == 0x202F || n == 0x205F ||
    n == 0x3000

def trimStart (cs : List Char) : List Char := cs.dropWhile isBlank

def trimEnd (cs : List Char) : List Char := (cs.reverse.dropWhile isBlank).reverse

def trim (s : String) : String := String.ofList (trimEnd (trimStart s.toList))

def isAllBlank (s : String) : Bool := s.toList.all isBlank

def splitAt (mark : Char) : List Char → List (List Char)
  | [] => [[]]
  | c :: rest =>
    if c = mark then [] :: splitAt mark rest
    else
      match splitAt mark rest with
      | [] => [[c]]
      | part :: parts => (c :: part) :: parts

def addWord (word : List Char) (others : List (List Char)) : List (List Char) :=
  if word.isEmpty then others else word :: others

def words (s : String) : List (List Char) :=
  let (word, others) := s.toList.foldr (fun c (word, others) =>
    if c == ' ' || c == '\n' then ([], addWord word others) else (c :: word, others)) ([], [])
  addWord word others

def digitChar (d : Nat) : Char := Char.ofNat (if d < 10 then 48 + d else 87 + d)

def hexValue? (c : Char) : Option Nat :=
  let n := c.toNat
  if 48 ≤ n && n ≤ 57 then some (n - 48)
  else if 97 ≤ n && n ≤ 102 then some (n - 87)
  else if 65 ≤ n && n ≤ 70 then some (n - 55)
  else none

def digitValue? (c : Char) : Option Nat :=
  if 48 ≤ c.toNat && c.toNat ≤ 57 then some (c.toNat - 48) else none

def isDigit (c : Char) : Bool := (digitValue? c).isSome

def ofDigits (cs : List Char) : Nat :=
  cs.foldl (fun n c => 10 * n + (digitValue? c).getD 0) 0

def digits (n : Nat) : List Char := Nat.toDigits 10 n

def padded (width n : Nat) : List Char :=
  let ds := digits n
  List.replicate (width - ds.length) '0' ++ ds

def hexByte (b : UInt8) : List Char := [digitChar (b.toNat / 16), digitChar (b.toNat % 16)]

/-- The distances of `c :: a` to the ends of a text, given those of `a`, the whole text first. -/
def distancesCons (c : Char) : List Char → List Nat → List Nat
  | d :: ds, here :: there :: more =>
    let next := distancesCons c ds (there :: more)
    let insertion := next.headD 0 + 1
    let replacement := if c = d then there else there + 1
    min (min (here + 1) insertion) replacement :: next
  | _, here :: _ => [here + 1]
  | _, [] => []

def distances : List Char → List Char → List Nat
  | [], b => (List.range (b.length + 1)).reverse
  | c :: a, b => distancesCons c b (distances a b)

def distance (a b : List Char) : Nat := (distances a b).headD 0

end CloudDesk.Text
