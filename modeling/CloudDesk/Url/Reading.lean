import CloudDesk.Url.Basic
import CloudDesk.Url.Domain.Label

namespace CloudDesk.Url

open Text

def readBrackets (cs : List Char) : Except Error Host :=
  if cs.getLast? == some ']' then
    match ipv6? cs.dropLast with
    | some groups => .ok (.ipv6 groups)
    | none => .error .ipv6
  else .error .ipv6

def readHost (cs : List Char) : Except Error Host :=
  match cs with
  | '[' :: rest => readBrackets rest
  | _ =>
    match (decodeStrict? (percentDecode cs)).bind fun s => Domain.read? s.toList with
    | none => .error .international
    | some [] => .error .emptyHost
    | some name =>
      if endsInNumber name then
        match ipv4? name with
        | some address => .ok (.ipv4 address)
        | none => .error .ipv4
      else .ok (.domain name)

def readOtherHost (cs : List Char) : Except Error Host :=
  match cs with
  | '[' :: rest => readBrackets rest
  | _ =>
    if cs.any Domain.isForbiddenInHost then .error .domainCharacter
    else .ok (.domain (percentEncode isControl cs))

def isBreak (c : Char) : Bool := c == '\t' || c == '\n' || c == '\r'

def trimmed (cs : List Char) : List Char :=
  let isEdge (c : Char) : Bool := c.toNat ≤ 0x20
  ((cs.dropWhile isEdge).reverse.dropWhile isEdge).reverse

/-- How many characters that count stand before each break; `n` stand before the text. -/
def breakPlaces (n : Nat) : List Char → List Nat
  | [] => []
  | c :: rest => if isBreak c then n :: breakPlaces n rest else breakPlaces (n + 1) rest

def isSchemeChar (c : Char) : Bool := c.isAlphanum || c == '+' || c == '-' || c == '.'

def readScheme (cs : List Char) : Option (String × List Char) :=
  match cs.head?, cs.dropWhile isSchemeChar with
  | some c, ':' :: rest =>
    if c.isAlpha then some (lower (String.ofList (cs.takeWhile isSchemeChar)), rest) else none
  | _, _ => none

def isSlash (special : Bool) (c : Char) : Bool := c == '/' || (special && c == '\\')

def splitSlashes (special : Bool) (cs : List Char) : List (List Char) :=
  splitAt '/' (cs.map fun c => if isSlash special c then '/' else c)

def isDot (segment : List Char) : Bool :=
  [".", "%2e"].contains (lower (String.ofList segment))

def isDoubleDot (segment : List Char) : Bool :=
  ["..", ".%2e", "%2e.", "%2e%2e"].contains (lower (String.ofList segment))

def isDrive : List Char → Bool
  | [c, mark] => c.isAlpha && (mark == ':' || mark == '|')
  | _ => false

def beginsWithDrive (segment : List Char) : Bool := isDrive (segment.takeWhile (· != '\\'))

/-- The segments, in reverse, without the last one. A drive is not left. -/
def parent : List (List Char) → List (List Char)
  | [] => []
  | segment :: before => if beginsWithDrive segment then segment :: before else before

def driveSegment (file : Bool) (before : List (List Char)) (segment : List Char) : List Char :=
  if file && before.isEmpty && isDrive segment then [segment.headD 'c', ':'] else segment

/-- Resolves segments of dots; the segments before stand in reverse. A segment of dots at the end
leaves an empty one. -/
def resolve (file : Bool) : List (List Char) → List (List Char) → List (List Char)
  | before, [] => before.reverse
  | before, segment :: rest =>
    let last := fun ss => if rest.isEmpty then [] :: ss else ss
    if isDoubleDot segment then resolve file (last (parent before)) rest
    else if isDot segment then resolve file (last before) rest
    else resolve file (driveSegment file before segment :: before) rest

def readSegments (special file : Bool) (cs : List Char) : List (List Char) :=
  resolve file [] ((splitSlashes special cs).map (percentEncode pathSet))

def trimSegments (segments : List (List Char)) : List (List Char) :=
  match segments.dropWhile List.isEmpty with
  | [] => [[]]
  | segments => segments

def isPartMark (c : Char) : Bool := c == '?' || c == '#'

def readEnd (special : Bool) (cs : List Char) : Option (List Char) × Option (List Char) :=
  let (query, rest) := match cs with
    | '?' :: more =>
      (some (percentEncode (if special then specialQuerySet else querySet) (more.takeWhile (· != '#'))),
        more.dropWhile (· != '#'))
    | _ => (none, cs)
  match rest with
  | '#' :: more => (query, some (percentEncode fragmentSet more))
  | _ => (query, none)

structure Authority where
  username : List Char
  password : List Char
  host : Host
  portNumber : Option Nat

def pathAfter (special : Bool) (cs : List Char) : List (List Char) :=
  let text := cs.takeWhile fun c => !isPartMark c
  match text with
  | [] => if special then [[]] else []
  | c :: rest => readSegments special false (if isSlash special c then rest else c :: rest)

def splitLast (mark : Char) (cs : List Char) : Option (List Char × List Char) :=
  if cs.contains mark then
    let after := (cs.reverse.takeWhile (· != mark)).reverse
    some (cs.take (cs.length - after.length - 1), after)
  else none

def hostText : Bool → List Char → List Char
  | _, [] => []
  | inside, c :: rest =>
    if c == ':' && !inside then [] else c :: hostText (c == '[' || (inside && c != ']')) rest

def readPortNumber (scheme : String) (cs : List Char) : Except Error (Option Nat × List Char) :=
  match cs with
  | ':' :: rest =>
    let ds := rest.takeWhile isDigit
    let rest := rest.dropWhile isDigit
    let ends := match rest with
      | [] => true
      | c :: _ => c == '/' || c == '\\' || isPartMark c
    if !ends || 65535 < ofDigits ds then .error .portNumber
    else if ds.isEmpty || some (ofDigits ds) == defaultPort? scheme then .ok (none, rest)
    else .ok (some (ofDigits ds), rest)
  | _ => .ok (none, cs)

def readUserinfo (cs : List Char) : List Char × List Char :=
  let username := cs.takeWhile (· != ':')
  let password := (cs.dropWhile (· != ':')).drop 1
  (percentEncode userinfoSet username, percentEncode userinfoSet password)

/-- The host of a scheme that is not that of files. Only a scheme that is not special may do with an
empty host, and then no colon may follow it. -/
def readHostOf (special : Bool) (host rest : List Char) : Except Error Host :=
  if special then if host.isEmpty then .error .emptyHost else readHost host
  else if host.isEmpty && rest.head? == some ':' then .error .emptyHost
  else readOtherHost host

def readAuthority (scheme : String) (special : Bool) (cs : List Char) :
    Except Error (Authority × List Char) := do
  let isEnd := fun c => isSlash special c || isPartMark c
  let text := cs.takeWhile fun c => !isEnd c
  let after := cs.dropWhile fun c => !isEnd c
  let (userinfo, place) := (splitLast '@' text).getD ([], text)
  if text == ['@'] && !after.isEmpty then .error .emptyHost
  else
    let host := hostText false place
    let rest := place.drop host.length ++ after
    let value ← readHostOf special host rest
    let (number, rest) ← readPortNumber scheme rest
    let (username, password) := readUserinfo userinfo
    if value = .domain [] && !(username.isEmpty && password.isEmpty) then .error .emptyHost
    else .ok (⟨username, password, value, number⟩, rest)

def readHosted (scheme : String) (special : Bool) (cs : List Char) : Except Error Url := do
  let (authority, rest) ← readAuthority scheme special cs
  let (query, fragment) := readEnd special (rest.dropWhile fun c => !isPartMark c)
  .ok ⟨scheme, authority.username, authority.password, some authority.host, authority.portNumber,
    .rooted (pathAfter special rest), query, fragment⟩

def readFileHost (cs : List Char) : Except Error Host :=
  if cs.isEmpty then .ok (.domain [])
  else (readHost cs).map fun host =>
    if host = .domain ['l', 'o', 'c', 'a', 'l', 'h', 'o', 's', 't'] then .domain [] else host

/-- A path of a file, and whether it starts with a drive. A break within the first segment that
stands right after a letter and a colon ends the segment there, but makes no drive of it. -/
def readFilePath (isBroken : Nat → Bool) (cs : List Char) : Bool × List (List Char) :=
  let plain :=
    let segments := readSegments true true cs
    (isDrive (segments.headD []), segments)
  match cs with
  | c :: ':' :: next :: more =>
    if c.isAlpha && isBroken (more.length + 1) && !isSlash true next then
      match (splitSlashes true (next :: more)).map (percentEncode pathSet) with
      | [] => plain
      | segment :: rest => (false, resolve true [segment, [c, ':']] rest)
    else plain
  | _ => plain

/-- The host and the path of a file. A path that starts with a drive has no host. A slash that
follows a host belongs to no segment; without a host it ends an empty one, so that no drive is at
the start. Whether a break stands in the text is asked by the count of characters after it. -/
def readFilePlace (isBroken : Nat → Bool) (cs : List Char) : Except Error (Host × List (List Char)) :=
  let isBroken := fun n => isBroken (n + (cs.dropWhile fun c => !isPartMark c).length)
  let path := cs.takeWhile fun c => !isPartMark c
  let place := fun (host : Host) text =>
    let (drive, segments) := readFilePath isBroken text
    (if drive then .domain [] else host, trimSegments segments)
  match path with
  | a :: b :: rest =>
    if isSlash true a && isSlash true b then
      let host := rest.takeWhile fun c => !isSlash true c
      let after := rest.dropWhile fun c => !isSlash true c
      if isDrive host then .ok (place (.domain []) rest)
      else (readFileHost host).map fun h => place h (if h = .domain [] then after else after.drop 1)
    else .ok (place (.domain []) (if isSlash true a then b :: rest else path))
  | _ => .ok (place (.domain []) path)

def readFile (isBroken : Nat → Bool) (cs : List Char) : Except Error Url := do
  let (host, segments) ← readFilePlace isBroken cs
  let (query, fragment) := readEnd true (cs.dropWhile fun c => !isPartMark c)
  .ok ⟨"file", [], [], some host, none, .rooted segments, query, fragment⟩

def readHostless (scheme : String) (cs : List Char) : Url :=
  let text := cs.takeWhile fun c => !isPartMark c
  let path : Path := match text with
    | '/' :: rest => .rooted (readSegments false false rest)
    | _ => .rootless (percentEncode isControl text)
  let (query, fragment) := readEnd false (cs.dropWhile fun c => !isPartMark c)
  ⟨scheme, [], [], none, none, path, query, fragment⟩

def parse (text : String) : Except Error Url :=
  let whole := trimmed text.toList
  let cs := whole.filter fun c => !isBreak c
  match readScheme cs with
  | none => .error .relative
  | some (scheme, rest) =>
    if scheme == "file" then
      let places := breakPlaces 0 whole
      readFile (fun left => places.contains (cs.length - left)) rest
    else if isSpecial scheme then readHosted scheme true (rest.dropWhile (isSlash true))
    else
      match rest with
      | '/' :: '/' :: more => readHosted scheme false more
      | _ => .ok (readHostless scheme rest)

end CloudDesk.Url
