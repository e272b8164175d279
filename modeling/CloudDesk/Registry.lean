import CloudDesk.Provider
import CloudDesk.Url.Reading

namespace CloudDesk

structure Settings where
  baseName : String
  endpoint : Url
  currency : String
  awsRegion : String
  azureRegion : String
  azureResourceGroup : String
  azureDatalake : Bool
  deriving DecidableEq

namespace Settings

def defaultResourceGroup (baseName : String) : String := baseName ++ "-resource-group"

def create (baseName : String) (endpoint : Url) : Settings where
  baseName
  endpoint
  currency := "USD"
  awsRegion := "us-west-2"
  azureRegion := "westeurope"
  azureResourceGroup := defaultResourceGroup baseName
  azureDatalake := false

end Settings

structure Bundle where
  cloud : Cloud
  settings : Settings
  deriving DecidableEq

namespace Bundle

def provider (b : Bundle) : Provider := b.cloud.provider

def describe (b : Bundle) : String :=
  "CapabilityBundle \x7b provider: " ++ b.provider.title ++ ", .. \x7d"

end Bundle

structure Unsupported where
  provider : Provider
  supported : List Provider
  deriving DecidableEq

def Unsupported.message (e : Unsupported) : String :=
  let supported := "[" ++ ", ".intercalate (e.supported.map Provider.title) ++ "]"
  s!"no capability bindings registered for provider `{e.provider.name}` (supported: {supported})"

structure Registry where
  settings : Settings
  bindings : Provider → Option Cloud

namespace Registry

def empty (settings : Settings) : Registry := ⟨settings, fun _ => none⟩

def register (r : Registry) (provider : Provider) (cloud : Cloud) : Registry :=
  { r with bindings := fun p => if p = provider then some cloud else r.bindings p }

def bootstrap (settings : Settings) : Registry :=
  ((empty settings).register .aws .aws).register .azure .azure

def supported (r : Registry) : List Provider := Provider.all.filter fun p => (r.bindings p).isSome

def resolve (r : Registry) (provider : Provider) : Except Unsupported Bundle :=
  match r.bindings provider with
  | some cloud => .ok ⟨cloud, r.settings⟩
  | none => .error ⟨provider, r.supported⟩

end Registry

end CloudDesk
