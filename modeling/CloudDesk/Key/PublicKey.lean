import CloudDesk.Key.Base64
import CloudDesk.Key.Sha256
import CloudDesk.Text.Basic

namespace CloudDesk

open Text

structure PublicKey where
  algorithm : String
  normalized : String
  fingerprint : String
  deriving DecidableEq

namespace PublicKey

def algorithms : List String :=
  ["ssh-rsa", "ssh-ed25519", "ecdsa-sha2-nistp256", "ecdsa-sha2-nistp384", "ecdsa-sha2-nistp521"]

inductive Error
  | notAKeyLine
  | notBase64 (cause : Base64.Error)
  | truncated
  | otherAlgorithm (declared : String)
  deriving DecidableEq

def Error.message : Error → String
  | .notAKeyLine => "expected an OpenSSH public key line"
  | .notBase64 cause => s!"key body is not base64: {cause.message}"
  | .truncated => "key body is truncated"
  | .otherAlgorithm declared => s!"key body does not match declared algorithm `{declared}`"

structure Line where
  algorithm : String
  digits : List Char
  pads : Nat
  deriving DecidableEq

def isTail (cs : List Char) : Bool :=
  match cs with
  | [] => true
  | c :: _ =>
    let comment := trimStart cs
    isBlank c && !comment.isEmpty && !comment.contains '\n'

def afterWord? (word : List Char) (cs : List Char) : Option (List Char) :=
  if word.isPrefixOf cs then
    match cs.drop word.length with
    | ' ' :: rest => some rest
    | _ => none
  else none

def readBody (algorithm : String) (cs : List Char) : Option Line :=
  let ds := cs.takeWhile Base64.isDigit
  let rest := cs.dropWhile Base64.isDigit
  let pads := rest.takeWhile (· == '=')
  if !ds.isEmpty && pads.length ≤ 2 && isTail (rest.drop pads.length) then
    some ⟨algorithm, ds, pads.length⟩
  else none

def readLine? (cs : List Char) : Option Line :=
  algorithms.findSome? fun a => (afterWord? a.toList cs).bind (readBody a)

def Line.body (l : Line) : List Char := l.digits ++ List.replicate l.pads '='

def lengthField : List UInt8 → Option (Nat × List UInt8)
  | a :: b :: c :: d :: rest =>
    some (a.toNat * 16777216 + b.toNat * 65536 + c.toNat * 256 + d.toNat, rest)
  | _ => none

def embeddedName (blob : List UInt8) : Option (List UInt8) :=
  (lengthField blob).bind fun (n, rest) => if n ≤ rest.length then some (rest.take n) else none

def asciiBytes (s : String) : List UInt8 := s.toList.map fun c => UInt8.ofNat c.toNat

def fingerprintOf (blob : List UInt8) : String :=
  "SHA256:" ++ String.ofList (Base64.encodeUnpadded (Sha256.digest blob))

def ofBlob (line : Line) (blob : List UInt8) : Except Error PublicKey :=
  match embeddedName blob with
  | none => .error .truncated
  | some name =>
    if name = asciiBytes line.algorithm then
      .ok ⟨line.algorithm, line.algorithm ++ " " ++ String.ofList line.body, fingerprintOf blob⟩
    else .error (.otherAlgorithm line.algorithm)

def parse (text : String) : Except Error PublicKey :=
  match readLine? (trim text).toList with
  | none => .error .notAKeyLine
  | some line =>
    match Base64.decode line.digits line.pads with
    | .error e => .error (.notBase64 e)
    | .ok blob => ofBlob line blob

end PublicKey

end CloudDesk
