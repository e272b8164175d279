import CloudDesk.Http.MediaType
import CloudDesk.Json.Reading
import CloudDesk.Json.Wire
import CloudDesk.Url.Percent

namespace CloudDesk.Http

open Text Url

structure Request where
  method : String
  uri : String
  contentType : Option String
  body : List UInt8
  deriving DecidableEq

inductive Body
  | nothing
  | text (s : String)
  | json (value : Json)

structure Reply where
  status : Nat
  body : Body

inductive Rejection
  | noRoute
  | wrongMethod
  | malformed
  | tooLarge
  | mediaType
  | mismatch
  deriving DecidableEq

def Rejection.status : Rejection → Nat
  | .noRoute => 404
  | .wrongMethod => 405
  | .malformed => 400
  | .tooLarge => 413
  | .mediaType => 415
  | .mismatch => 422

namespace Request

def localPart (uri : String) : List Char :=
  match uri.toList with
  | '/' :: rest => '/' :: rest
  | cs =>
    match cs.dropWhile (· != ':') with
    | ':' :: '/' :: '/' :: rest =>
      match rest.dropWhile fun c => c != '/' && c != '?' && c != '#' with
      | '/' :: path => '/' :: path
      | path => '/' :: path
    | _ => cs

def target (r : Request) : List Char := (localPart r.uri).takeWhile (· != '#')

def path (r : Request) : List Char := r.target.takeWhile (· != '?')

def query (r : Request) : List Char := (r.target.dropWhile (· != '?')).drop 1

def parameter (r : Request) (name : String) : Except Rejection (Option String) :=
  match (formPairs r.query).filter fun p => p.1 == name with
  | [] => .ok none
  | [(_, value)] => .ok (some value)
  | _ => .error .malformed

def isJson (r : Request) : Bool :=
  match r.contentType.bind MediaType.parse? with
  | some m => m.isJson
  | none => false

def bodyLimit : Nat := 2097152

/-- The value at the start of a JSON body. What follows it is not looked at. -/
def payload {α : Type} (r : Request) (decode : Json → Except Json.Refusal α) : Except Rejection α :=
  if ¬ r.isJson then .error .mediaType
  else if bodyLimit < r.body.length then .error .tooLarge
  else
    match decode (Json.readStart Decimal.Parts.scaled (Json.textOf r.body)).1 with
    | .ok x => .ok x
    | .error .mismatch => .error .mismatch
    | .error .malformed => .error .malformed

end Request

def decodeSegment (cs : List Char) : Except Rejection String :=
  match decodeStrict? (percentDecode cs) with
  | some s => .ok s
  | none => .error .malformed

end CloudDesk.Http
