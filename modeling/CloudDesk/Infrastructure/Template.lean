import CloudDesk.Json.Wire
import CloudDesk.Provider

namespace CloudDesk

open Text

inductive TemplateKind
  | exploratory
  | computational
  deriving DecidableEq

namespace TemplateKind

def all : List TemplateKind := [.exploratory, .computational]

def name : TemplateKind → String
  | .exploratory => "exploratory"
  | .computational => "computational"

instance : Wire TemplateKind := Json.ofNames all name

end TemplateKind

structure Template where
  name : String
  kind : TemplateKind
  application : String
  description : String
  shapes : List String
  deriving DecidableEq

namespace Template

def supports (t : Template) (shape : String) : Bool := t.shapes.contains shape

instance : Wire Template where
  encode t := .object [("name", Wire.encode t.name), ("kind", Wire.encode t.kind),
    ("application", Wire.encode t.application), ("description", Wire.encode t.description),
    ("shapes", Wire.encode t.shapes)]
  decode j := do
    let fs ← j.fields [Json.field String "name", Json.field TemplateKind "kind",
      Json.field String "application", Json.field String "description",
      Json.field (List String) "shapes"]
    .ok ⟨← Json.need fs "name", ← Json.need fs "kind", ← Json.need fs "application",
      ← Json.need fs "description", ← Json.need fs "shapes"⟩

end Template

namespace Cloud

def notebooks : List (String × String) := [
  ("jupyter", "Jupyter notebook with Python and Scala kernels"),
  ("rstudio", "RStudio server"),
  ("zeppelin", "Apache Zeppelin notebook"),
  ("deeplearning", "Deep learning notebook with GPU drivers"),
  ("tensor", "Jupyter with TensorFlow")]

def shapesFor (application : String) : Cloud → List String
  | .aws =>
    if application = "deeplearning" then ["p2.xlarge", "p3.2xlarge"]
    else if application = "tensor" then ["p2.xlarge", "p3.2xlarge", "m5.xlarge"]
    else ["t2.medium", "m5.large", "m5.xlarge", "r5.xlarge"]
  | .azure =>
    if application = "deeplearning" || application = "tensor" then ["Standard_NC6", "Standard_NC12"]
    else ["Standard_B2s", "Standard_D4s_v3", "Standard_E4s_v3"]

def exploratory (cloud : Cloud) : List Template :=
  notebooks.map fun (application, description) =>
    ⟨cloud.provider.name ++ "-" ++ application, .exploratory, application, description,
      cloud.shapesFor application⟩

def spark (shapes : List String) : Template :=
  ⟨"spark-standalone", .computational, "dataengine", "Standalone Apache Spark cluster", shapes⟩

def computational : Cloud → List Template
  | .aws => [
    ⟨"emr", .computational, "emr", "Elastic MapReduce cluster", ["m5.xlarge", "c5.xlarge", "r5.2xlarge"]⟩,
    spark ["m5.xlarge", "c5.2xlarge"]]
  | .azure => [spark ["Standard_D4s_v3", "Standard_E8s_v3"]]

def findExploratory (cloud : Cloud) (application : String) : Option Template :=
  cloud.exploratory.find? fun t => sameIgnoringCase t.application application

end Cloud

end CloudDesk
