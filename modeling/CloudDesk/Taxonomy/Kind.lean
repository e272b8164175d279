import CloudDesk.Json.Wire
import CloudDesk.Text.Basic

namespace CloudDesk

open Text

inductive Scope
  | edge
  | ssn
  | collaboration
  deriving DecidableEq

namespace Scope

def all : List Scope := [.edge, .ssn, .collaboration]

def name : Scope → String
  | .edge => "edge"
  | .ssn => "ssn"
  | .collaboration => "collaboration"

instance : Wire Scope := Json.ofNames all name

def rank : Scope → Nat
  | .edge => 0
  | .ssn => 1
  | .collaboration => 2

end Scope

inductive Shape
  | node
  | bucket
  | container
  | generic
  deriving DecidableEq

namespace Shape

def all : List Shape := [.node, .bucket, .container, .generic]

def name : Shape → String
  | .node => "node"
  | .bucket => "bucket"
  | .container => "container"
  | .generic => "generic"

instance : Wire Shape := Json.ofNames all name

end Shape

inductive Kind
  | ssn
  | ssnBucket
  | ssnContainer
  | collaborationBucket
  | collaborationContainer
  | edge
  | edgeBucket
  | edgeContainer
  | exploratory
  | computational
  deriving DecidableEq

namespace Kind

def all : List Kind :=
  [.ssn, .ssnBucket, .ssnContainer, .collaborationBucket, .collaborationContainer, .edge,
    .edgeBucket, .edgeContainer, .exploratory, .computational]

def name : Kind → String
  | .ssn => "SSN"
  | .ssnBucket => "SSN_BUCKET"
  | .ssnContainer => "SSN_CONTAINER"
  | .collaborationBucket => "COLLABORATION_BUCKET"
  | .collaborationContainer => "COLLABORATION_CONTAINER"
  | .edge => "EDGE"
  | .edgeBucket => "EDGE_BUCKET"
  | .edgeContainer => "EDGE_CONTAINER"
  | .exploratory => "EXPLORATORY"
  | .computational => "COMPUTATIONAL"

def scope : Kind → Scope
  | .ssn | .ssnBucket | .ssnContainer => .ssn
  | .collaborationBucket | .collaborationContainer => .collaboration
  | .edge | .edgeBucket | .edgeContainer | .exploratory | .computational => .edge

def shape : Kind → Shape
  | .ssnBucket | .collaborationBucket | .edgeBucket => .bucket
  | .ssnContainer | .collaborationContainer | .edgeContainer => .container
  | .ssn | .edge | .exploratory => .node
  | .computational => .generic

instance : Wire Kind := Json.ofNames all name

def index (k : Kind) : Nat := k.ctorIdx

def parse? (text : String) : Option Kind := all.find? fun k => sameIgnoringCase k.name text

/-- A known kind is stored under its identifier and any other text as it is. -/
def canonical (text : String) : String :=
  match parse? text with
  | some k => k.name
  | none => text

end Kind

end CloudDesk
