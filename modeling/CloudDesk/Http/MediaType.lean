import CloudDesk.Text.Basic

namespace CloudDesk

open Text

structure MediaType where
  type : String
  subtype : String
  suffix : Option String
  deriving DecidableEq

namespace MediaType

def isToken (c : Char) : Bool :=
  c.isAlphanum ||
    ['!', '#', '$', '%', '&', '\x27', '*', '+', '-', '.', '^', '_', '\u0060', '|', '~'].contains c

def isPrintable (c : Char) : Bool := (0x20 ≤ c.toNat && c.toNat < 0x7F) || c == '\t'

inductive Place
  | nameStart
  | name
  | valueStart
  | value
  | quotedStart
  | quoted
  | afterQuote

def areParameters : Place → List Char → Bool
  | .nameStart, [] | .valueStart, [] | .value, [] | .afterQuote, [] => true
  | .name, [] | .quotedStart, [] | .quoted, [] => false
  | .nameStart, c :: rest =>
    if c == ' ' then areParameters .nameStart rest else isToken c && areParameters .name rest
  | .name, c :: rest =>
    if c == '=' then areParameters .valueStart rest else isToken c && areParameters .name rest
  | .valueStart, c :: rest =>
    if c == '\x22' then areParameters .quotedStart rest else isToken c && areParameters .value rest
  | .value, c :: rest =>
    if c == ';' then areParameters .nameStart rest else isToken c && areParameters .value rest
  | .quotedStart, c :: rest => c != '\t' && areParameters .quoted rest
  | .quoted, c :: rest =>
    if c == '\x22' then areParameters .afterQuote rest else c != '\t' && areParameters .quoted rest
  | .afterQuote, c :: rest =>
    if c == ';' then areParameters .nameStart rest else c == ' ' && areParameters .afterQuote rest

def splitSuffix (cs : List Char) : String × Option String :=
  if (cs.drop 1).contains '+' then
    let suffix := (cs.reverse.takeWhile (· != '+')).reverse
    (String.ofList (cs.take (cs.length - suffix.length - 1)), some (String.ofList suffix))
  else (String.ofList cs, none)

def parse? (s : String) : Option MediaType :=
  let cs := (lower s).toList
  let type := cs.takeWhile (· != '/')
  match cs.dropWhile (· != '/') with
  | [] => none
  | _ :: rest =>
    let subtype := rest.takeWhile (· != ';')
    let parameters := rest.dropWhile (· != ';')
    let isSound := cs.all isPrintable && !type.isEmpty && type.all isToken && subtype.all isToken &&
      (parameters.isEmpty || (!subtype.isEmpty && areParameters .nameStart (parameters.drop 1)))
    if isSound then
      let (name, suffix) := splitSuffix subtype
      some ⟨String.ofList type, name, suffix⟩
    else none

def isJson (m : MediaType) : Bool :=
  m.type == "application" && (m.subtype == "json" || m.suffix == some "json")

end MediaType

end CloudDesk
