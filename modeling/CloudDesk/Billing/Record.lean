import CloudDesk.Decimal.Writing
import CloudDesk.Json.Wire

namespace CloudDesk

structure CostRecord where
  kind : String
  amount : Float
  currency : String
  timestamp : Instant
  deriving DecidableEq

namespace CostRecord

instance : Wire CostRecord where
  encode r := .object [("resource_kind", Wire.encode r.kind), ("amount", Wire.encode r.amount),
    ("currency", Wire.encode r.currency), ("timestamp", Wire.encode r.timestamp)]
  decode j := do
    let fs ← j.fields [Json.field String "resource_kind", Json.field Float "amount",
      Json.field String "currency", Json.field Instant "timestamp"]
    .ok ⟨← Json.need fs "resource_kind", ← Json.need fs "amount", ← Json.need fs "currency",
      ← Json.need fs "timestamp"⟩

end CostRecord

inductive FetchError
  | transient (cause : String)
  | rejected (status : Nat) (answer : String)
  | malformed (cause : String)
  deriving DecidableEq

namespace FetchError

def message : FetchError → String
  | .transient cause => s!"transient billing fetch failure: {cause}"
  | .rejected status answer => s!"billing source rejected the request with status {status}: {answer}"
  | .malformed cause => s!"malformed billing payload: {cause}"

def isTransient : FetchError → Bool
  | .transient _ => true
  | _ => false

end FetchError

end CloudDesk
