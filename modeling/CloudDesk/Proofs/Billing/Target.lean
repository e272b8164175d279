import CloudDesk.Billing.CostReport
import CloudDesk.Proofs.Url.Path

namespace CloudDesk.CostReport

open Text Url

def reportSegments (cloud : Cloud) : List (List Char) := [cloud.provider.name.toList, "costs".toList]

def reportPath (cloud : Cloud) : List Char := cloud.provider.name.toList ++ "/costs".toList

def queryOf (target : List Char) : List Char := (target.dropWhile (· != '?')).drop 1

/-- The URL asks for the report of the cloud below the endpoint, about the owner and nothing else.
-/
structure Asks (endpoint : Url) (cloud : Cloud) (owner : String) (u : Url) : Prop where
  site : u.scheme = endpoint.scheme ∧ u.host = endpoint.host ∧ u.portNumber = endpoint.portNumber
  segments : ∃ kept, u.path = .rooted (kept ++ reportSegments cloud) ∧
    (endpoint.path = .rooted kept ∨ endpoint.path = .rooted (kept ++ [[]]))
  target : u.target = closed endpoint.path.write ++ reportPath cloud ++ '?' :: queryOf u.target
  path : '?' ∉ closed endpoint.path.write ++ reportPath cloud
  query : formPairs (queryOf u.target) = [("owner", owner)]
  fragment : u.fragment = none ∧ '#' ∉ u.target

section

variable {segments : List (List Char)}

theorem write_report (cloud : Cloud) (h : ∀ s ∈ segments, '/' ∉ s) :
    writeSegments ((withSlash segments).dropLast ++ reportSegments cloud) =
      closed (writeSegments segments) ++ reportPath cloud := by
  have hreport : writeSegments (reportSegments cloud) = writeSegments [[]] ++ reportPath cloud := by
    cases cloud <;> rfl
  obtain ⟨kept, hkept, -⟩ := withSlash_eq segments
  rw [← writeSegments_withSlash h, hkept, List.dropLast_concat, writeSegments_append,
    writeSegments_append, hreport, List.append_assoc]

theorem not_mem_report {mark : Char} (hmark : mark ≠ '/') (h : ∀ s ∈ segments, mark ∉ s)
    {cloud : Cloud} (hcloud : mark ∉ reportPath cloud) :
    mark ∉ closed (writeSegments segments) ++ reportPath cloud := by
  have hfolder : mark ∉ closed (writeSegments segments) := by
    unfold closed
    split_ifs
    · exact not_mem_writeSegments hmark h
    · rw [List.mem_append, List.mem_singleton, not_or]
      exact ⟨not_mem_writeSegments hmark h, hmark⟩
  rw [List.mem_append, not_or]
  exact ⟨hfolder, hcloud⟩

end

theorem queryOf_append {path : List Char} (h : '?' ∉ path) (query : List Char) :
    queryOf (path ++ '?' :: query) = query := by
  rw [queryOf, dropWhile_mark h, List.drop_one, List.tail_cons]

section

variable {text : String} {endpoint : Url}

theorem path_of_web (parsed : Url.parse text = .ok endpoint) (web : isReachable endpoint = true) :
    ∃ segments, endpoint.path = .rooted segments ∧ ∀ s ∈ segments, Unbroken s := by
  have hscheme : endpoint.scheme = "http" ∨ endpoint.scheme = "https" := by
    simpa [isReachable] using web
  apply path_of_parse parsed
  · obtain h | h := hscheme <;> rw [h] <;> decide
  · obtain h | h := hscheme <;> rw [h] <;> decide

theorem requestUrl_of_rooted {segments : List (List Char)} (h : endpoint.path = .rooted segments)
    (cloud : Cloud) (owner : String) : requestUrl endpoint cloud owner = .ok { endpoint with
      path := .rooted ((withSlash segments).dropLast ++ reportSegments cloud)
      query := some (formPair "owner" owner)
      fragment := none } := by
  rw [requestUrl, folder_join h]
  rfl

theorem target_eq (parsed : Url.parse text = .ok endpoint) (web : isReachable endpoint = true)
    {cloud : Cloud} {owner : String} {u : Url} (h : requestUrl endpoint cloud owner = .ok u) :
    u.target = closed endpoint.path.write ++ reportPath cloud ++ '?' :: formPair "owner" owner := by
  obtain ⟨segments, hpath, hsegments⟩ := path_of_web parsed web
  rw [requestUrl_of_rooted hpath] at h
  cases h
  rw [hpath, Path.write, ← write_report cloud fun s hs => (hsegments s hs).slash]
  rfl

theorem not_mem_path_of_web (parsed : Url.parse text = .ok endpoint) (web : isReachable endpoint = true)
    (cloud : Cloud) : '?' ∉ closed endpoint.path.write ++ reportPath cloud ∧
      '#' ∉ closed endpoint.path.write ++ reportPath cloud := by
  have hreport : '?' ∉ reportPath cloud ∧ '#' ∉ reportPath cloud := by
    cases cloud <;> decide
  obtain ⟨segments, hpath, hsegments⟩ := path_of_web parsed web
  rw [hpath]
  constructor
  · exact not_mem_report (by decide) (fun s hs => (hsegments s hs).question) hreport.1
  · exact not_mem_report (by decide) (fun s hs => (hsegments s hs).hash) hreport.2

theorem asks_of_request (parsed : Url.parse text = .ok endpoint) (web : isReachable endpoint = true)
    {cloud : Cloud} {owner : String} {u : Url} (h : requestUrl endpoint cloud owner = .ok u) :
    Asks endpoint cloud owner u := by
  obtain ⟨hquestion, hhash⟩ := not_mem_path_of_web parsed web cloud
  have htarget := target_eq parsed web h
  have hquery : queryOf u.target = formPair "owner" owner := by
    rw [htarget, queryOf_append hquestion]
  obtain ⟨segments, hpath, -⟩ := path_of_web parsed web
  rw [requestUrl_of_rooted hpath] at h
  cases h
  refine ⟨⟨rfl, rfl, rfl⟩, ?_, ?_, hquestion, ?_, rfl, ?_⟩
  · obtain ⟨kept, hkept, hends⟩ := withSlash_eq segments
    refine ⟨kept, ?_, ?_⟩
    · rw [hkept, List.dropLast_concat]
    · rw [hpath]
      exact hends.imp (congrArg Path.rooted) (congrArg Path.rooted)
  · rw [hquery, htarget]
  · rw [hquery, formPairs_formPair]
  · rw [htarget, List.mem_append, List.mem_cons]
    rintro (hin | hsign | hin)
    · exact hhash hin
    · exact absurd hsign (by decide)
    · exact not_mem_formPair (by decide) (by decide) (by decide) (by decide) "owner" owner hin

theorem fetch_of_request (web : isReachable endpoint = true) {cloud : Cloud} {owner : String} {u : Url}
    (h : requestUrl endpoint cloud owner = .ok u) (hsite : u.scheme = endpoint.scheme)
    (network : Network) : fetch network endpoint cloud owner = accept cloud (network u) := by
  have hreachable : isReachable u = true := by rwa [isReachable, hsite]
  rw [fetch, h]
  simp only [hreachable, if_true]

end

/-- A web endpoint is asked for the costs of an owner by the target that its path, with a slash at
its end, the report of the cloud and a query make, and the query is read as the owner, whichever
signs the name has. So no two owners are asked for by the same target, and a slash at the end of an
endpoint makes no difference. -/
theorem owner_stays_in_parameter {text : String} {endpoint : Url}
    (parsed : Url.parse text = .ok endpoint) (web : isReachable endpoint = true) (cloud : Cloud)
    (owner : String) :
    ∃ u, requestUrl endpoint cloud owner = .ok u ∧ Asks endpoint cloud owner u ∧
      (∀ network, fetch network endpoint cloud owner = accept cloud (network u)) ∧
      ∀ text' endpoint', Url.parse text' = .ok endpoint' → isReachable endpoint' = true →
        (∀ cloud' owner' v, requestUrl endpoint' cloud' owner' = .ok v → v.target = u.target →
          owner' = owner) ∧
        (endpoint'.path.write = endpoint.path.write ++ ['/'] →
          endpoint.path.write.getLast? ≠ some '/' →
          ∀ v, requestUrl endpoint' cloud owner = .ok v → v.target = u.target) := by
  obtain ⟨segments, hpath, -⟩ := path_of_web parsed web
  have hu := requestUrl_of_rooted hpath cloud owner
  have hasks := asks_of_request parsed web hu
  refine ⟨_, hu, hasks, fetch_of_request web hu hasks.site.1, ?_⟩
  intro text' endpoint' parsed' web'
  constructor
  · intro cloud' owner' v hv hsame
    have hpairs := (asks_of_request parsed' web' hv).query
    rw [hsame, hasks.query] at hpairs
    simpa using hpairs.symm
  · intro hslash hends v hv
    rw [target_eq parsed' web' hv, target_eq parsed web hu, hslash, closed_append_slash hends]

def endpointAt (segments : List (List Char)) : Url where
  scheme := "http"
  username := []
  password := []
  host := some (.ipv4 2130706433)
  portNumber := some 8088
  path := .rooted segments
  query := some ['q']
  fragment := some ['f']

def awkwardOwner : String := "a&owner=b#c/?d%41 +é\n"

theorem awkward_owner_is_asked_for :
    Url.parse "http://127.0.0.1:8088/v1?q#f" = .ok (endpointAt ["v1".toList]) ∧
      Url.parse "http://127.0.0.1:8088/v1/?q#f" = .ok (endpointAt ["v1".toList, []]) ∧
      ∃ u, requestUrl (endpointAt ["v1".toList]) .aws awkwardOwner = .ok u ∧
        Asks (endpointAt ["v1".toList]) .aws awkwardOwner u ∧
        (∀ v, requestUrl (endpointAt ["v1".toList, []]) .aws awkwardOwner = .ok v →
          v.target = u.target) ∧
        ∀ v, requestUrl (endpointAt ["v1".toList, []]) .aws "a" = .ok v → v.target ≠ u.target := by
  have parsed : Url.parse "http://127.0.0.1:8088/v1?q#f" = .ok (endpointAt ["v1".toList]) := by
    decide +kernel
  have parsed' : Url.parse "http://127.0.0.1:8088/v1/?q#f" = .ok (endpointAt ["v1".toList, []]) := by
    decide +kernel
  obtain ⟨u, hu, hasks, -, hothers⟩ := owner_stays_in_parameter parsed (by decide) .aws awkwardOwner
  obtain ⟨howner, hslash⟩ := hothers _ _ parsed' (by decide)
  refine ⟨parsed, parsed', u, hu, hasks, hslash (by decide) (by decide), ?_⟩
  intro v hv hsame
  exact absurd (howner .aws "a" v hv hsame) (by decide)

example : (requestUrl (endpointAt ["v1".toList]) .aws awkwardOwner).map (String.ofList ·.target) =
    .ok "/v1/aws/costs?owner=a%26owner%3Db%23c%2F%3Fd%2541+%2B%C3%A9%0A" := by
  decide +kernel

end CloudDesk.CostReport
