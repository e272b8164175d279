import CloudDesk.Decimal.Writing
import CloudDesk.Json.Basic

namespace CloudDesk.Json

open Text

def escape (c : Char) : List Char :=
  if c == '\x22' then ['\\', '\x22']
  else if c == '\\' then ['\\', '\\']
  else if c == '\n' then ['\\', 'n']
  else if c == '\r' then ['\\', 'r']
  else if c == '\t' then ['\\', 't']
  else if c == '\x08' then ['\\', 'b']
  else if c == '\x0c' then ['\\', 'f']
  else if c.toNat < 0x20 then
    ['\\', 'u', '0', '0', digitChar (c.toNat / 16), digitChar (c.toNat % 16)]
  else [c]

def quote (s : String) : String :=
  String.ofList ('\x22' :: s.toList.flatMap escape ++ ['\x22'])

mutual

def write : Json → String
  | .null => "null"
  | .bool b => if b then "true" else "false"
  | .int n => toString n
  | .float x => if x.isFinite then Decimal.marked x else "null"
  | .string s => quote s
  | .array items => "[" ++ writeItems items ++ "]"
  | .object fields => "\x7b" ++ writeFields fields ++ "\x7d"
  | .fault _ => "null"

def writeItems : List Json → String
  | [] => ""
  | [j] => write j
  | j :: rest => write j ++ "," ++ writeItems rest

def writeFields : List (String × Json) → String
  | [] => ""
  | [(name, j)] => quote name ++ ":" ++ write j
  | (name, j) :: rest => quote name ++ ":" ++ write j ++ "," ++ writeFields rest

end

end CloudDesk.Json
