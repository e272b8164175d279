import CloudDesk.Json.Wire
import CloudDesk.Text.Basic

namespace CloudDesk

open Text

inductive Provider
  | aws
  | azure
  | gcp
  deriving DecidableEq

namespace Provider

def all : List Provider := [.aws, .azure, .gcp]

def name : Provider → String
  | .aws => "aws"
  | .azure => "azure"
  | .gcp => "gcp"

def title : Provider → String
  | .aws => "Aws"
  | .azure => "Azure"
  | .gcp => "Gcp"

instance : Wire Provider := Json.ofNames all name

structure Unknown where
  text : String
  deriving DecidableEq

def Unknown.message (e : Unknown) : String := s!"unknown cloud provider `{e.text}`"

/-- White space around the name and the case of its ASCII letters do not matter. -/
def parse (text : String) : Except Unknown Provider :=
  match all.find? fun p => p.name == lower (trim text) with
  | some p => .ok p
  | none => .error ⟨text⟩

end Provider

inductive Cloud
  | aws
  | azure
  deriving DecidableEq

namespace Cloud

def provider : Cloud → Provider
  | .aws => .aws
  | .azure => .azure

end Cloud

end CloudDesk
