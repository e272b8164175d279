import CloudDesk.Key.Ring
import CloudDesk.Provider
import CloudDesk.Registry
import CloudDesk.Taxonomy.Category

namespace CloudDesk

structure StorageResource where
  kind : Kind
  category : Category
  name : String
  deriving DecidableEq

namespace StorageResource

def ofKind (kind : Kind) (name : String) : StorageResource := ⟨kind, kind.category, name⟩

instance : Wire StorageResource where
  encode r := .object [("kind", Wire.encode r.kind), ("category", Wire.encode r.category),
    ("name", Wire.encode r.name)]
  decode j := do
    let fs ← j.fields [Json.field Kind "kind", Json.field Category "category", Json.field String "name"]
    .ok ⟨← Json.need fs "kind", ← Json.need fs "category", ← Json.need fs "name"⟩

end StorageResource

structure SharedInfo where
  provider : Provider
  owner : String
  userName : String
  edgeNodeName : String
  subnetName : String
  securityGroupName : String
  region : String
  resourceGroup : Option String
  storageAccount : Option String
  storage : List StorageResource
  deriving DecidableEq

namespace SharedInfo

def whenSome (name : String) : Option String → List (String × Json)
  | none => []
  | some s => [(name, .string s)]

instance : Wire SharedInfo where
  encode i := .object <| [("provider", Wire.encode i.provider), ("owner", Wire.encode i.owner),
    ("user_name", Wire.encode i.userName), ("edge_node_name", Wire.encode i.edgeNodeName),
    ("subnet_name", Wire.encode i.subnetName), ("security_group_name", Wire.encode i.securityGroupName),
    ("region", Wire.encode i.region)] ++ whenSome "resource_group" i.resourceGroup ++
    whenSome "storage_account" i.storageAccount ++ [("storage", Wire.encode i.storage)]
  decode j := do
    let fs ← j.fields [Json.field Provider "provider", Json.field String "owner",
      Json.field String "user_name", Json.field String "edge_node_name",
      Json.field String "subnet_name", Json.field String "security_group_name",
      Json.field String "region", Json.field (Option String) "resource_group",
      Json.field (Option String) "storage_account", Json.field (List StorageResource) "storage"]
    .ok ⟨← Json.need fs "provider", ← Json.need fs "owner", ← Json.need fs "user_name",
      ← Json.need fs "edge_node_name", ← Json.need fs "subnet_name",
      ← Json.need fs "security_group_name", ← Json.need fs "region", ← Json.want fs "resource_group",
      ← Json.want fs "storage_account", ← Json.need fs "storage"⟩

end SharedInfo

def userName (owner : String) : String :=
  String.ofList (owner.toList.map fun c => if c = '_' then '-' else c)

namespace Cloud

def accountLength : Nat := 24

/-- The letters and digits of the names in lower case, as many as fit. -/
def storageAccount (baseName user : String) : String :=
  let cs := (baseName ++ user ++ "sa").toList.filter Char.isAlphanum
  String.ofList ((cs.map Char.toLower).take accountLength)

def region (s : Settings) : Cloud → String
  | .aws => s.awsRegion
  | .azure => s.azureRegion

def storage (baseName user : String) : Cloud → List StorageResource
  | .aws => [
    .ofKind .edgeBucket (baseName ++ "-" ++ user ++ "-bucket"),
    .ofKind .ssnBucket (baseName ++ "-ssn-bucket"),
    .ofKind .collaborationBucket (baseName ++ "-shared-bucket")]
  | .azure => [
    .ofKind .edgeContainer (baseName ++ "-" ++ user ++ "-container"),
    .ofKind .ssnContainer (baseName ++ "-ssn-container"),
    .ofKind .collaborationContainer (baseName ++ "-shared-container")]

def edgeNodeName (baseName user : String) : String := baseName ++ "-" ++ user ++ "-edge"

def sharedInfo (cloud : Cloud) (s : Settings) (owner : String) : SharedInfo :=
  let user := userName owner
  { provider := cloud.provider
    owner
    userName := user
    edgeNodeName := edgeNodeName s.baseName user
    subnetName := s.baseName ++ "-" ++ user ++ "-subnet"
    securityGroupName := s.baseName ++ "-" ++ user ++ "-edge-sg"
    region := cloud.region s
    resourceGroup := if cloud = .azure then some s.azureResourceGroup else none
    storageAccount := if cloud = .azure then some (storageAccount s.baseName user) else none
    storage := cloud.storage s.baseName user }

def keyBinding (cloud : Cloud) (s : Settings) (owner : String) : KeyBinding :=
  let user := userName owner
  match cloud with
  | .aws =>
    let name := s.baseName ++ "-" ++ user ++ "-key"
    ⟨name, .object [("key_pair_name", .string name), ("region", .string s.awsRegion)]⟩
  | .azure =>
    ⟨edgeNodeName s.baseName user,
      .object [("azure_datalake_enable", .bool s.azureDatalake), ("azure_user_name", .string user)]⟩

end Cloud

end CloudDesk
