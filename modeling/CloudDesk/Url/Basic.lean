import CloudDesk.Url.Address

namespace CloudDesk

open Text

namespace Url

inductive Error
  | emptyHost
  | international
  | portNumber
  | ipv4
  | ipv6
  | domainCharacter
  | relative
  | rootless
  deriving DecidableEq

def Error.message : Error → String
  | .emptyHost => "empty host"
  | .international => "invalid international domain name"
  | .portNumber => "invalid port number"
  | .ipv4 => "invalid IPv4 address"
  | .ipv6 => "invalid IPv6 address"
  | .domainCharacter => "invalid domain character"
  | .relative => "relative URL without a base"
  | .rootless => "relative URL with a cannot-be-a-base base"

inductive Host
  | domain (name : List Char)
  | ipv4 (address : Nat)
  | ipv6 (groups : List Nat)
  deriving DecidableEq

def Host.write : Host → List Char
  | .domain name => name
  | .ipv4 address => writeIpv4 address
  | .ipv6 groups => '[' :: writeIpv6 groups ++ [']']

inductive Path
  | rooted (segments : List (List Char))
  | rootless (text : List Char)
  deriving DecidableEq

def writeSegments (segments : List (List Char)) : List Char := segments.flatMap fun s => '/' :: s

def Path.write : Path → List Char
  | .rooted segments => writeSegments segments
  | .rootless text => text

end Url

structure Url where
  scheme : String
  username : List Char
  password : List Char
  host : Option Url.Host
  portNumber : Option Nat
  path : Url.Path
  query : Option (List Char)
  fragment : Option (List Char)
  deriving DecidableEq

namespace Url

def isSpecial (scheme : String) : Bool :=
  ["http", "https", "ws", "wss", "ftp", "file"].contains scheme

def defaultPort? (scheme : String) : Option Nat :=
  [("http", 80), ("https", 443), ("ws", 80), ("wss", 443), ("ftp", 21)].lookup scheme

def writeCredentials (u : Url) : List Char :=
  if u.username.isEmpty && u.password.isEmpty then []
  else u.username ++ (if u.password.isEmpty then [] else ':' :: u.password) ++ ['@']

/-- The host with what stands around it. Without a host a path that begins with two slashes is kept
apart from the scheme by a dot. -/
def writeAuthority (u : Url) : List Char :=
  match u.host with
  | none =>
    match u.path with
    | .rooted ([] :: _ :: _) => ['/', '.']
    | _ => []
  | some host =>
    let number := match u.portNumber with
      | none => []
      | some n => ':' :: digits n
    '/' :: '/' :: u.writeCredentials ++ host.write ++ number

def writePart (mark : Char) : Option (List Char) → List Char
  | none => []
  | some text => mark :: text

def target (u : Url) : List Char := u.path.write ++ writePart '?' u.query

def write (u : Url) : String :=
  String.ofList (u.scheme.toList ++ ':' :: u.writeAuthority ++ u.target ++ writePart '#' u.fragment)

def withSlash (segments : List (List Char)) : List (List Char) :=
  if segments.getLast? = some [] then segments else segments ++ [[]]

def folder (u : Url) : Url :=
  match u.path with
  | .rooted segments => { u with path := .rooted (withSlash segments) }
  | .rootless _ => u

def join (base : Url) (segments : List (List Char)) : Except Error Url :=
  match base.path with
  | .rooted front =>
    .ok { base with path := .rooted (front.dropLast ++ segments), query := none, fragment := none }
  | .rootless _ => .error .rootless

end Url

end CloudDesk
