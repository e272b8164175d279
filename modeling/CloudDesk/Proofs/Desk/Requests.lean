import CloudDesk.Desk.Call
import CloudDesk.Proofs.Except
import Mathlib.Tactic.SplitIfs

namespace CloudDesk

open Http

def Http.Route.owner? : Route → Option String
  | .budget owner | .keys owner | .confirm owner | .infrastructure owner | .notebooks owner =>
    some owner
  | .root | .report | .sync | .templates => none

def Http.Request.named? (r : Request) : Option String :=
  ((Route.ofPath r.path).bind Route.owner?).bind fun segment =>
    (decodeSegment segment.toList).toOption

structure Http.Request.PostsFor (r : Request) (owner : String) : Prop where
  method : r.method = "POST"
  path : ∃ segment, decodeSegment segment.toList = .ok owner ∧
    (Route.ofPath r.path = some (.keys segment) ∨ Route.ofPath r.path = some (.notebooks segment))

theorem route_ok {r : Request} {route : Route} (h : r.route = .ok route) :
    Route.ofPath r.path = some route ∧ route.methods.contains r.effectiveMethod = true := by
  unfold Request.route at h
  cases hp : Route.ofPath r.path with
  | none =>
    rw [hp] at h
    cases h
  | some route' =>
    rw [hp] at h
    dsimp only at h
    split_ifs at h with hm
    cases h
    exact ⟨rfl, hm⟩

theorem method_of_post {r : Request} (h : r.effectiveMethod = "POST") : r.method = "POST" := by
  unfold Request.effectiveMethod at h
  split_ifs at h
  · exact absurd h (by decide)
  · exact h

namespace Call

def newcomer? : Call → Option String
  | .uploadKey owner _ | .createNotebook owner _ => some owner
  | _ => none

/-- The call is for whom the request names, and onboards nobody unless the request is a POST. -/
structure Matches (r : Request) (call : Call) : Prop where
  owner : call.owner? = r.named?
  newcomer : ∀ owner, call.newcomer? = some owner → r.PostsFor owner

section

variable {r : Request} {route : Route} {call : Call}

theorem matches_nobody (hpath : Route.ofPath r.path = some route) (hroute : route.owner? = none)
    (howner : call.owner? = none) (hnew : call.newcomer? = none) : Matches r call := by
  refine ⟨?_, fun _ h => nomatch hnew.symm.trans h⟩
  rw [Request.named?, hpath, Option.bind_some, hroute, howner]
  rfl

theorem named?_of_path {segment owner : String} (hpath : Route.ofPath r.path = some route)
    (hroute : route.owner? = some segment) (howner : decodeSegment segment.toList = .ok owner) :
    r.named? = some owner := by
  rw [Request.named?, hpath, Option.bind_some, hroute, Option.bind_some, howner]
  rfl

theorem matches_known {segment owner : String} (hpath : Route.ofPath r.path = some route)
    (hroute : route.owner? = some segment) (hsegment : decodeSegment segment.toList = .ok owner)
    (howner : call.owner? = some owner) (hnew : call.newcomer? = none) : Matches r call :=
  ⟨howner.trans (named?_of_path hpath hroute hsegment).symm, fun _ h => nomatch hnew.symm.trans h⟩

theorem ofRequest_matches (h : ofRequest r = .ok call) : Matches r call := by
  obtain ⟨route, hroute, h⟩ := bind_eq_ok h
  obtain ⟨hpath, hmethod⟩ := route_ok hroute
  cases route with
  | report =>
    obtain ⟨_, -, h⟩ := bind_eq_ok h
    obtain ⟨_, -, h⟩ := bind_eq_ok h
    cases h
    exact matches_nobody hpath rfl rfl rfl
  | budget segment =>
    obtain ⟨owner, ho, h⟩ := bind_eq_ok h
    split_ifs at h
    · cases h
      exact matches_known hpath rfl ho rfl rfl
    · obtain ⟨_, -, rfl⟩ := map_eq_ok h
      exact matches_known hpath rfl ho rfl rfl
  | keys segment =>
    obtain ⟨owner, ho, h⟩ := bind_eq_ok h
    have hnamed := named?_of_path hpath rfl ho
    split_ifs at h with hget hpost
    · cases h
      exact matches_known hpath rfl ho rfl rfl
    · obtain ⟨text, -, h⟩ := bind_eq_ok h
      cases h
      refine ⟨hnamed.symm, ?_⟩
      rintro _ ⟨⟩
      exact ⟨method_of_post hpost, segment, ho, Or.inl hpath⟩
    · obtain ⟨text, -, h⟩ := bind_eq_ok h
      cases h
      exact matches_known hpath rfl ho rfl rfl
  | confirm segment =>
    obtain ⟨owner, ho, h⟩ := bind_eq_ok h
    obtain ⟨_, -, rfl⟩ := map_eq_ok h
    exact matches_known hpath rfl ho rfl rfl
  | infrastructure segment =>
    obtain ⟨owner, ho, h⟩ := bind_eq_ok h
    cases h
    exact matches_known hpath rfl ho rfl rfl
  | notebooks segment =>
    obtain ⟨owner, ho, h⟩ := bind_eq_ok h
    obtain ⟨_, -, rfl⟩ := map_eq_ok h
    have hpost : r.effectiveMethod = "POST" := by simpa [Route.methods] using hmethod
    refine ⟨(named?_of_path hpath rfl ho).symm, ?_⟩
    rintro _ ⟨⟩
    exact ⟨method_of_post hpost, segment, ho, Or.inr hpath⟩
  | _ =>
    cases h
    exact matches_nobody hpath rfl rfl rfl

end

end Call

end CloudDesk
