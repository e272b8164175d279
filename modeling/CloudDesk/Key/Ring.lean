import CloudDesk.Key.PublicKey
import CloudDesk.Key.Record

namespace CloudDesk

inductive KeyError
  | invalidFormat (cause : PublicKey.Error)
  | alreadyExists (owner : String)
  | notFound (owner : String)
  | invalidState (owner : String) (status : KeyStatus)
  deriving DecidableEq

def KeyError.message : KeyError → String
  | .invalidFormat cause => s!"invalid public key: {cause.message}"
  | .alreadyExists owner => s!"a key is already registered for `{owner}`"
  | .notFound owner => s!"no key registered for `{owner}`"
  | .invalidState owner status => s!"key for `{owner}` is {status.name}, operation not allowed"

structure KeyBinding where
  edgeKeyName : String
  details : Json

abbrev KeyRing := Table KeyRecord

namespace KeyRing

def status (ring : KeyRing) (owner : String) : KeyStatus :=
  match ring.get? owner with
  | some record => record.status
  | none => .absent

def newRecord (owner : String) (key : PublicKey) (binding : KeyBinding) (now : Instant) : KeyRecord where
  owner
  status := .new
  publicKey := key.normalized
  fingerprint := key.fingerprint
  edgeKeyName := binding.edgeKeyName
  details := binding.details
  uploadedAt := now
  updatedAt := now

def file (ring : KeyRing) (owner : String) (record : KeyRecord) : Except KeyError KeyRecord × KeyRing :=
  (.ok record, ring.put owner record)

def register (ring : KeyRing) (owner text : String) (binding : KeyBinding) (now : Instant) :
    Except KeyError KeyRecord × KeyRing :=
  match PublicKey.parse text with
  | .error e => (.error (.invalidFormat e), ring)
  | .ok key =>
    match ring.get? owner with
    | some _ => (.error (.alreadyExists owner), ring)
    | none => ring.file owner (newRecord owner key binding now)

/-- Takes a key in place of one that is no longer new. -/
def replace (ring : KeyRing) (owner text : String) (binding : KeyBinding) (now : Instant) :
    Except KeyError KeyRecord × KeyRing :=
  match PublicKey.parse text with
  | .error e => (.error (.invalidFormat e), ring)
  | .ok key =>
    match ring.get? owner with
    | none => (.error (.notFound owner), ring)
    | some record =>
      if record.status = .new then (.error (.invalidState owner record.status), ring)
      else ring.file owner (newRecord owner key binding now)

def confirm (ring : KeyRing) (owner : String) (succeeded : Bool) (now : Instant) :
    Except KeyError KeyRecord × KeyRing :=
  match ring.get? owner with
  | none => (.error (.notFound owner), ring)
  | some record =>
    if record.status = .new then
      ring.file owner
        { record with status := if succeeded then .active else .failed, updatedAt := now }
    else (.error (.invalidState owner record.status), ring)

end KeyRing

end CloudDesk
