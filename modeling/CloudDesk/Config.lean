import CloudDesk.Budget.Policy
import CloudDesk.Decimal.Reading
import CloudDesk.Registry
import CloudDesk.Text.Utf8

namespace CloudDesk

open Text

structure Environment where
  values : List (String × List UInt8)

namespace Environment

/-- The text of a variable. Bytes that are not UTF-8 count as unset. -/
def text? (env : Environment) (name : String) : Option String :=
  (env.values.lookup name).bind decodeStrict?

def trimmed? (env : Environment) (name : String) : Option String :=
  ((env.text? name).map trim).filter fun s => !s.isEmpty

def amount? (env : Environment) (name : String) : Option Float :=
  ((env.trimmed? name).bind Decimal.read?).filter isAmount

def seconds? (env : Environment) (name : String) : Option Nat :=
  ((env.text? name).bind (Decimal.natural? (Nat.pow 2 64))).filter (0 < ·)

def isYes (env : Environment) (name : String) : Bool :=
  match env.text? name with
  | some s => ["1", "true", "yes"].contains (lower (trim s))
  | none => false

end Environment

structure Config where
  provider : String
  baseName : String
  syncInterval : Nat
  endpoint : String
  fetchTimeout : Nat
  currency : String
  platformCeiling : Option Float
  defaultCeiling : Option Float
  databaseUrl : Option String
  awsRegion : String
  azureRegion : String
  azureResourceGroup : Option String
  azureDatalake : Bool
  bindAddress : String
  bindPort : Nat
  deriving DecidableEq

namespace Config

def variableNames : List String := [
  "CLOUD_PROVIDER", "SERVICE_BASE_NAME", "BILLING_SYNC_INTERVAL_SECS", "BILLING_ENDPOINT",
  "BILLING_FETCH_TIMEOUT_SECS", "BILLING_CURRENCY", "PLATFORM_BUDGET_CEILING",
  "DEFAULT_OWNER_BUDGET_CEILING", "DATABASE_URL", "AWS_REGION", "AZURE_REGION",
  "AZURE_RESOURCE_GROUP", "AZURE_DATALAKE_ENABLED", "BIND_ADDRESS", "BIND_PORT"]

def ofEnvironment (env : Environment) : Config where
  provider := (env.text? "CLOUD_PROVIDER").getD "aws"
  baseName := (env.trimmed? "SERVICE_BASE_NAME").getD "dlab"
  syncInterval := (env.seconds? "BILLING_SYNC_INTERVAL_SECS").getD 600
  endpoint := (env.trimmed? "BILLING_ENDPOINT").getD "http://127.0.0.1:8088"
  fetchTimeout := (env.seconds? "BILLING_FETCH_TIMEOUT_SECS").getD 30
  currency := ((env.trimmed? "BILLING_CURRENCY").map upper).getD "USD"
  platformCeiling := env.amount? "PLATFORM_BUDGET_CEILING"
  defaultCeiling := env.amount? "DEFAULT_OWNER_BUDGET_CEILING"
  databaseUrl := env.trimmed? "DATABASE_URL"
  awsRegion := (env.trimmed? "AWS_REGION").getD "us-west-2"
  azureRegion := (env.trimmed? "AZURE_REGION").getD "westeurope"
  azureResourceGroup := env.trimmed? "AZURE_RESOURCE_GROUP"
  azureDatalake := env.isYes "AZURE_DATALAKE_ENABLED"
  bindAddress := (env.text? "BIND_ADDRESS").getD "0.0.0.0"
  bindPort := ((env.text? "BIND_PORT").bind (Decimal.natural? (Nat.pow 2 16))).getD 8080

def settings (c : Config) : Except Url.Error Settings :=
  (Url.parse c.endpoint).map fun endpoint =>
    { baseName := c.baseName
      endpoint
      currency := c.currency
      awsRegion := c.awsRegion
      azureRegion := c.azureRegion
      azureResourceGroup := c.azureResourceGroup.getD (Settings.defaultResourceGroup c.baseName)
      azureDatalake := c.azureDatalake }

end Config

end CloudDesk
