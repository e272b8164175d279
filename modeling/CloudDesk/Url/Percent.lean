import CloudDesk.Text.Basic
import CloudDesk.Text.Utf8

namespace CloudDesk.Url

open Text

/-- Characters that stand for themselves nowhere: controls and everything beyond ASCII. -/
def isControl (c : Char) : Bool := c.toNat < 0x20 || 0x7E < c.toNat

def fragmentSet (c : Char) : Bool := isControl c || [' ', '\x22', '<', '>', '\u0060'].contains c

def querySet (c : Char) : Bool := isControl c || [' ', '\x22', '#', '<', '>'].contains c

def specialQuerySet (c : Char) : Bool := querySet c || c == '\x27'

def pathSet (c : Char) : Bool :=
  querySet c || ['?', '\u0060', '\x7b', '\x7d'].contains c

def userinfoSet (c : Char) : Bool :=
  pathSet c || ['/', ':', ';', '=', '@', '[', '\\', ']', '^', '|'].contains c

def upperHex (d : Nat) : Char := (digitChar d).toUpper

def percentByte (b : UInt8) : List Char := ['%', upperHex (b.toNat / 16), upperHex (b.toNat % 16)]

def percentEncode (set : Char → Bool) (cs : List Char) : List Char :=
  cs.flatMap fun c => if set c then (utf8Char c).flatMap percentByte else [c]

/-- The bytes of a text; a percent sign with two digits is a byte, any other stands for itself. -/
def percentDecode : List Char → List UInt8
  | '%' :: a :: b :: rest =>
    match hexValue? a, hexValue? b with
    | some x, some y => UInt8.ofNat (16 * x + y) :: percentDecode rest
    | _, _ => 37 :: percentDecode (a :: b :: rest)
  | c :: rest => utf8Char c ++ percentDecode rest
  | [] => []

def isFormPlain (c : Char) : Bool :=
  c.isAlphanum || c == '*' || c == '-' || c == '.' || c == '_'

def formChar (c : Char) : List Char :=
  if c == ' ' then ['+']
  else if isFormPlain c then [c]
  else (utf8Char c).flatMap percentByte

def formEncode (s : String) : List Char := s.toList.flatMap formChar

def formPair (name value : String) : List Char := formEncode name ++ '=' :: formEncode value

def formDecode (cs : List Char) : String :=
  decodeLossy (percentDecode (cs.map fun c => if c == '+' then ' ' else c))

/-- The names and values of a query. A part without a sign of equality has an empty value. -/
def formPairs (query : List Char) : List (String × String) :=
  ((splitAt '&' query).filter fun part => !part.isEmpty).map fun part =>
    (formDecode (part.takeWhile (· != '=')), formDecode ((part.dropWhile (· != '=')).drop 1))

end CloudDesk.Url
