import CloudDesk.Http.Route
import CloudDesk.Text.Basic

namespace CloudDesk

open Text

structure NotebookRequest where
  name : String
  application : String
  shape : String
  deriving DecidableEq

inductive Call
  | root
  | report (owner : Option String) (categories : List String)
  | sync
  | getBudget (owner : String)
  | setBudget (owner : String) (ceiling : Float)
  | keyStatus (owner : String)
  | uploadKey (owner text : String)
  | replaceKey (owner text : String)
  | confirmKey (owner : String) (succeeded : Bool)
  | sharedInfo (owner : String)
  | createNotebook (owner : String) (request : NotebookRequest)
  | templates
  deriving DecidableEq

namespace Call

open Http

def owner? : Call → Option String
  | .getBudget owner | .setBudget owner _ | .keyStatus owner | .uploadKey owner _
  | .replaceKey owner _ | .confirmKey owner _ | .sharedInfo owner | .createNotebook owner _ => some owner
  | .root | .report _ _ | .sync | .templates => none

def decodeField (α : Type) [Wire α] (name : String) (j : Json) : Except Json.Refusal α := do
  let fs ← j.fields [Json.field α name]
  Json.need fs name

def decodeNotebook (j : Json) : Except Json.Refusal NotebookRequest := do
  let fs ← j.fields [Json.field String "name", Json.field String "application",
    Json.field String "shape"]
  .ok ⟨← Json.need fs "name", ← Json.need fs "application", ← Json.need fs "shape"⟩

def splitCategories (text : String) : List String :=
  ((splitAt ',' text.toList).map fun cs => trim (String.ofList cs)).filter fun s => !s.isEmpty

def ofReport (r : Request) : Except Rejection Call := do
  let owner ← r.parameter "owner"
  let categories ← r.parameter "categories"
  .ok (.report (owner.filter fun o => !o.isEmpty) (splitCategories (categories.getD "")))

def ofRoute (r : Request) : Route → Except Rejection Call
  | .root => .ok .root
  | .report => ofReport r
  | .sync => .ok .sync
  | .templates => .ok .templates
  | .budget segment => do
    let owner ← decodeSegment segment.toList
    if r.effectiveMethod = "GET" then .ok (.getBudget owner)
    else (r.payload (decodeField Float "ceiling")).map (.setBudget owner)
  | .keys segment => do
    let owner ← decodeSegment segment.toList
    if r.effectiveMethod = "GET" then .ok (.keyStatus owner)
    else
      let text ← r.payload (decodeField String "public_key")
      .ok (if r.effectiveMethod = "POST" then .uploadKey owner text else .replaceKey owner text)
  | .confirm segment => do
    let owner ← decodeSegment segment.toList
    (r.payload (decodeField Bool "succeeded")).map (.confirmKey owner)
  | .infrastructure segment => do
    let owner ← decodeSegment segment.toList
    .ok (.sharedInfo owner)
  | .notebooks segment => do
    let owner ← decodeSegment segment.toList
    (r.payload decodeNotebook).map (.createNotebook owner)

def ofRequest (r : Request) : Except Rejection Call := do
  let route ← r.route
  ofRoute r route

end Call

end CloudDesk
