import CloudDesk.Json.Wire

namespace CloudDesk

inductive KeyStatus
  | absent
  | new
  | active
  | failed
  deriving DecidableEq

namespace KeyStatus

def all : List KeyStatus := [.absent, .new, .active, .failed]

def name : KeyStatus → String
  | .absent => "absent"
  | .new => "new"
  | .active => "active"
  | .failed => "failed"

instance : Wire KeyStatus := Json.ofNames all name

end KeyStatus

structure KeyRecord where
  owner : String
  status : KeyStatus
  publicKey : String
  fingerprint : String
  edgeKeyName : String
  details : Json
  uploadedAt : Instant
  updatedAt : Instant

namespace KeyRecord

instance : Wire KeyRecord where
  encode r := .object [("owner", Wire.encode r.owner), ("status", Wire.encode r.status),
    ("public_key", Wire.encode r.publicKey), ("fingerprint", Wire.encode r.fingerprint),
    ("edge_key_name", Wire.encode r.edgeKeyName), ("provider_details", Wire.encode r.details),
    ("uploaded_at", Wire.encode r.uploadedAt), ("updated_at", Wire.encode r.updatedAt)]
  decode j := do
    let fs ← j.fields [Json.field String "owner", Json.field KeyStatus "status",
      Json.field String "public_key", Json.field String "fingerprint",
      Json.field String "edge_key_name", Json.field Json "provider_details",
      Json.field Instant "uploaded_at", Json.field Instant "updated_at"]
    .ok ⟨← Json.need fs "owner", ← Json.need fs "status", ← Json.need fs "public_key",
      ← Json.need fs "fingerprint", ← Json.need fs "edge_key_name",
      ← Json.need fs "provider_details", ← Json.need fs "uploaded_at", ← Json.need fs "updated_at"⟩

end KeyRecord

end CloudDesk
