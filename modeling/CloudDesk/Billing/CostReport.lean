import CloudDesk.Billing.Record
import CloudDesk.Budget.Policy
import CloudDesk.Json.Reading
import CloudDesk.Provider
import CloudDesk.Url.Reading

namespace CloudDesk.CostReport

open Text

/-- What comes back in the end, after the redirects that the client follows, and the text that it
takes the body for. A body that breaks off counts as empty. -/
structure Response where
  status : Nat
  body : List UInt8
  text : String

def requestUrl (endpoint : Url) (cloud : Cloud) (owner : String) : Except Url.Error Url :=
  (endpoint.folder.join [cloud.provider.name.toList, ['c', 'o', 's', 't', 's']]).map fun u =>
    { u with query := some (Url.formPair "owner" owner) }

structure Columns where
  kind : String
  amount : String
  currency : String
  time : String
  readTime : String → Option Instant

def readDay (s : String) : Option Instant := (Date.read? s).map Instant.ofDate

def columns : Cloud → Columns
  | .aws => ⟨"dlab_resource_type", "cost", "currency_code", "usage_date", readDay⟩
  | .azure => ⟨"resourceType", "cost", "currencyCode", "usageStartDate", Instant.read?⟩

def Columns.decodeTime (c : Columns) (j : Json) : Except Json.Refusal Instant := do
  let s : String ← Wire.decode j
  match c.readTime s with
  | some t => .ok t
  | none => .error .mismatch

def Columns.decodeRow (c : Columns) (j : Json) : Except Json.Refusal CostRecord := do
  let fs ← j.fields [Json.field String c.kind, Json.field Float c.amount,
    Json.field String c.currency, ⟨c.time, fun t => (c.decodeTime t).map fun _ => ()⟩]
  let time ← c.decodeTime ((fs.lookup c.time).getD .null)
  .ok ⟨← Json.need fs c.kind, ← Json.need fs c.amount, ← Json.need fs c.currency, time⟩

def Columns.decodeRows (c : Columns) : Json → Except Json.Refusal (List CostRecord)
  | .array rows => rows.mapM c.decodeRow
  | j => j.refuse

def unreachable : FetchError := .transient "the cost service did not answer"

def undecodable : FetchError := .malformed "the body is not a list of cost rows"

def reason (status : Nat) : String :=
  ([(429, "Too Many Requests"), (500, "Internal Server Error"), (501, "Not Implemented"),
    (502, "Bad Gateway"), (503, "Service Unavailable"), (504, "Gateway Timeout"),
    (505, "HTTP Version Not Supported"), (506, "Variant Also Negotiates"),
    (507, "Insufficient Storage"), (508, "Loop Detected"), (510, "Not Extended"),
    (511, "Network Authentication Required")].lookup status).getD "<unknown status code>"

def checkAmounts : List CostRecord → Except FetchError Unit
  | [] => .ok ()
  | r :: rest =>
    if isAmount r.amount then checkAmounts rest
    else
      let amount := Decimal.plain r.amount
      .error (.malformed s!"cost amount must be a non-negative number, got {amount}")

def rowsOf (cloud : Cloud) (body : List UInt8) : Except FetchError (List CostRecord) :=
  match (columns cloud).decodeRows (Json.readBytes body) with
  | .error _ => .error undecodable
  | .ok records => do
    checkAmounts records
    .ok records

def isPassing (status : Nat) : Bool := (500 ≤ status && status < 600) || status == 429

def isSuccess (status : Nat) : Bool := 200 ≤ status && status < 300

/-- What an answer, or the lack of one, says about the costs. -/
def accept (cloud : Cloud) : Option Response → Except FetchError (List CostRecord)
  | none => .error unreachable
  | some r =>
    if isPassing r.status then
      let provider := cloud.provider.name
      .error (.transient s!"{provider} cost report returned {r.status} {reason r.status}")
    else if isSuccess r.status then rowsOf cloud r.body
    else .error (.rejected r.status r.text)

abbrev Network := Url → Option Response

def isReachable (u : Url) : Bool := u.scheme == "http" || u.scheme == "https"

def fetch (network : Network) (endpoint : Url) (cloud : Cloud) (owner : String) :
    Except FetchError (List CostRecord) :=
  match requestUrl endpoint cloud owner with
  | .error e => .error (.malformed s!"invalid billing endpoint: {e.message}")
  | .ok u => accept cloud (if isReachable u then network u else none)

end CloudDesk.CostReport
