import CloudDesk.Http.Basic

namespace CloudDesk.Http

open Url

inductive Route
  | root
  | report
  | sync
  | budget (owner : String)
  | keys (owner : String)
  | confirm (owner : String)
  | infrastructure (owner : String)
  | notebooks (owner : String)
  | templates
  deriving DecidableEq

namespace Route

def ofSegments : List String → Option Route
  | [""] => some .root
  | ["billing", "report"] => some .report
  | ["billing", "sync"] => some .sync
  | ["templates"] => some .templates
  | ["budget", owner] => named owner (.budget owner)
  | ["keys", owner] => named owner (.keys owner)
  | ["keys", owner, "confirm"] => named owner (.confirm owner)
  | ["infrastructure", owner] => named owner (.infrastructure owner)
  | ["infrastructure", owner, "exploratory"] => named owner (.notebooks owner)
  | _ => none
where
  named (owner : String) (r : Route) : Option Route := if owner.isEmpty then none else some r

def ofPath : List Char → Option Route
  | '/' :: rest => ofSegments ((Text.splitAt '/' rest).map String.ofList)
  | _ => none

/-- The methods that a route has besides HEAD, which stands for GET. -/
def methods : Route → List String
  | .root | .report | .infrastructure _ | .templates => ["GET"]
  | .sync | .confirm _ | .notebooks _ => ["POST"]
  | .budget _ => ["GET", "PUT"]
  | .keys _ => ["GET", "POST", "PUT"]

end Route

def Request.effectiveMethod (r : Request) : String := if r.method = "HEAD" then "GET" else r.method

def Request.route (r : Request) : Except Rejection Route :=
  match Route.ofPath r.path with
  | none => .error .noRoute
  | some route =>
    if route.methods.contains r.effectiveMethod then .ok route else .error .wrongMethod

end CloudDesk.Http
