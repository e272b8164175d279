import CloudDesk.Decimal.Reading
import CloudDesk.Text.Basic
import CloudDesk.Text.Printable
import CloudDesk.Url.Reading

namespace CloudDesk.Connection

open Text

inductive Fault
  | url (e : Url.Error)
  | text (f : Utf8Fault)
  | mode (value : String)
  | natural (f : Decimal.NaturalFault)
  | address
  deriving DecidableEq

def Fault.message : Fault → String
  | .url e => e.message
  | .text f => f.message
  | .mode value => s!"unknown value {quoted value} for `ssl_mode`"
  | .natural f => f.message
  | .address => "invalid IP address syntax"

def configuration (message : String) : String := "error with configuration: " ++ message

/-- The fault and what lies behind it. An unknown mode is a fault of a configuration itself. -/
def Fault.messages (f : Fault) : List String :=
  match f with
  | .mode _ => [configuration (configuration f.message), configuration f.message, f.message]
  | .url _ | .text _ | .natural _ | .address => [configuration f.message, f.message]

def modes : List String := ["disable", "allow", "prefer", "require", "verify-ca", "verify-full"]

def checkText (bytes : List UInt8) : Except Fault Unit :=
  match utf8Fault? bytes with
  | some f => .error (.text f)
  | none => .ok ()

def checkNatural (bound : Nat) (value : String) : Except Fault Unit :=
  match Decimal.natural bound value with
  | .error f => .error (.natural f)
  | .ok _ => .ok ()

def isAddress (value : String) : Bool :=
  (Url.dotted? value.toList).isSome || (Url.ipv6? value.toList).isSome

def checkOption (name value : String) : Except Fault Unit :=
  match name with
  | "sslmode" | "ssl-mode" => if modes.contains (lower value) then .ok () else .error (.mode value)
  | "statement-cache-capacity" => checkNatural (Nat.pow 2 64) value
  | "port" => checkNatural (Nat.pow 2 16) value
  | "hostaddr" => if isAddress value then .ok () else .error .address
  | _ => .ok ()

/-- A host that begins with a slash is the place of a socket. -/
def checkHost (u : Url) : Except Fault Unit :=
  match u.host with
  | none => .ok ()
  | some host =>
    let bytes := Url.percentDecode host.write
    if bytes.head? = some 0x2F then checkText bytes else .ok ()

def check (u : Url) : Except Fault Unit := do
  checkHost u
  checkText (Url.percentDecode u.username)
  checkText (Url.percentDecode u.password)
  (Url.formPairs (u.query.getD [])).forM fun (name, value) => checkOption name value

def parse (text : String) : Except Fault Url :=
  match Url.parse text with
  | .error e => .error (.url e)
  | .ok url => (check url).map fun _ => url

end CloudDesk.Connection
