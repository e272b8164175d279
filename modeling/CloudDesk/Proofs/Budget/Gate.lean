import CloudDesk.Budget.Gate
import Mathlib.Logic.Function.Basic
import Mathlib.Tactic.SplitIfs

namespace CloudDesk.Gate

abbrev Lookup := String → Except StoreError (Option Policy)

/-- A look-up succeeds, and finds no policy or one whose spending is below its ceiling. -/
def Clear (found : Except StoreError (Option Policy)) : Prop :=
  ∃ p, found = .ok p ∧ ∀ q, p = some q → ¬ q.ceiling ≤ q.accrued

/-- What the look-ups say about an owner. The platform comes first, and the owner himself is looked
up only if the platform is clear. -/
inductive Verdict (lookup : Lookup) (owner : String) : Except StoreError (Option Exceeded) → Prop
  | platformFails {e : StoreError} (hfound : lookup platformOwner = .error e) :
      Verdict lookup owner (.error e)
  | platformExhausted {p : Policy} (hfound : lookup platformOwner = .ok (some p))
      (hexhausted : p.ceiling ≤ p.accrued) :
      Verdict lookup owner (.ok (some ⟨owner, .platform, p.ceiling, p.accrued⟩))
  | ownerFails {e : StoreError} (hplatform : Clear (lookup platformOwner))
      (howner : owner ≠ platformOwner) (hfound : lookup owner = .error e) :
      Verdict lookup owner (.error e)
  | ownerExhausted {p : Policy} (hplatform : Clear (lookup platformOwner))
      (howner : owner ≠ platformOwner) (hfound : lookup owner = .ok (some p))
      (hexhausted : p.ceiling ≤ p.accrued) :
      Verdict lookup owner (.ok (some ⟨owner, .owner, p.ceiling, p.accrued⟩))
  | admitted (hplatform : Clear (lookup platformOwner))
      (howner : owner ≠ platformOwner → Clear (lookup owner)) :
      Verdict lookup owner (.ok none)

theorem filter_exhausted {p : Policy} (h : p.ceiling ≤ p.accrued) :
    (some p).filter Policy.isExhausted = some p := by
  have hp : p.isExhausted = true := decide_eq_true h
  rw [Option.filter_some, if_pos hp]

theorem Clear.found {found : Except StoreError (Option Policy)} (h : Clear found) :
    ∃ p, found = .ok p ∧ p.filter Policy.isExhausted = none := by
  obtain ⟨p, hfound, hp⟩ := h
  refine ⟨p, hfound, ?_⟩
  cases p with
  | none => rfl
  | some q =>
    have hq : ¬ q.isExhausted = true := fun he => hp q rfl (of_decide_eq_true he)
    rw [Option.filter_some, if_neg hq]

theorem found_cases (found : Except StoreError (Option Policy)) :
    (∃ e, found = .error e) ∨ (∃ p, found = .ok (some p) ∧ p.ceiling ≤ p.accrued) ∨
      Clear found := by
  cases found with
  | error e => exact Or.inl ⟨e, rfl⟩
  | ok p =>
    cases p with
    | none => exact Or.inr (Or.inr ⟨none, rfl, fun q hq => by cases hq⟩)
    | some p =>
      by_cases hp : p.ceiling ≤ p.accrued
      · exact Or.inr (Or.inl ⟨p, rfl, hp⟩)
      · refine Or.inr (Or.inr ⟨some p, rfl, fun q hq => ?_⟩)
        cases hq
        exact hp

section

variable {lookup : Lookup} {owner : String}

theorem exhausted_of_error (owner : String) {e : StoreError}
    (h : lookup platformOwner = .error e) :
    exhausted lookup owner = .error e := by
  simp only [exhausted, h]
  rfl

theorem exhausted_of_platform (owner : String) {p : Policy}
    (h : lookup platformOwner = .ok (some p)) (hp : p.ceiling ≤ p.accrued) :
    exhausted lookup owner = .ok (some (.ofPolicy owner .platform p)) := by
  simp only [exhausted, h, bind, Except.bind, filter_exhausted hp]

theorem exhausted_of_clear (owner : String) (h : Clear (lookup platformOwner)) :
    exhausted lookup owner =
      if owner = platformOwner then .ok none
      else (lookup owner).map fun p =>
        (p.filter Policy.isExhausted).map (.ofPolicy owner .owner) := by
  obtain ⟨p, hfound, hp⟩ := h.found
  simp only [exhausted, hfound, bind, Except.bind, hp]
  cases lookup owner <;> rfl

theorem exhausted_verdict (lookup : Lookup) (owner : String) :
    Verdict lookup owner (exhausted lookup owner) := by
  obtain ⟨e, hp⟩ | ⟨p, hp, hle⟩ | hp := found_cases (lookup platformOwner)
  · rw [exhausted_of_error owner hp]
    exact .platformFails hp
  · rw [exhausted_of_platform owner hp hle]
    exact .platformExhausted hp hle
  · rw [exhausted_of_clear owner hp]
    by_cases ho : owner = platformOwner
    · rw [if_pos ho]
      exact .admitted hp fun hne => absurd ho hne
    · rw [if_neg ho]
      obtain ⟨e, hq⟩ | ⟨q, hq, hle⟩ | hq := found_cases (lookup owner)
      · rw [hq]
        exact .ownerFails hp ho hq
      · rw [hq, Except.map, filter_exhausted hle]
        exact .ownerExhausted hp ho hq hle
      · obtain ⟨q, hfound, hnone⟩ := hq.found
        have hclear := hq
        rw [hfound, Except.map, hnone]
        exact .admitted hp fun _ => hclear

theorem verdict_iff (v : Except StoreError (Option Exceeded)) :
    Verdict lookup owner v ↔ exhausted lookup owner = v := by
  constructor
  · intro h
    cases h with
    | platformFails hp => exact exhausted_of_error owner hp
    | platformExhausted hp hle => exact exhausted_of_platform owner hp hle
    | ownerFails hp ho hq => rw [exhausted_of_clear owner hp, if_neg ho, hq, Except.map]
    | ownerExhausted hp ho hq hle =>
      rw [exhausted_of_clear owner hp, if_neg ho, hq, Except.map, filter_exhausted hle]
      rfl
    | admitted hp hq =>
      rw [exhausted_of_clear owner hp]
      split_ifs with ho
      · rfl
      · obtain ⟨q, hfound, hnone⟩ := (hq ho).found
        rw [hfound, Except.map, hnone, Option.map_none]
  · rintro rfl
    exact exhausted_verdict lookup owner

end

section

variable {σ ε α : Type}

def counted (operation : σ → Except ε α × σ) (s : σ × Nat) : Except ε α × (σ × Nat) :=
  ((operation s.1).1, (operation s.1).2, s.2 + 1)

/-- What a verdict makes of a call: the operation is invoked once and its result is the answer, or
it is not invoked at all and the state is left alone. A refusal is recorded in one event. -/
def Follows (stamp : Stamp) (owner name : String) (operation : σ → Except ε α × σ) (state : σ)
    (verdict : Except StoreError (Option Exceeded)) (o : Outcome (σ × Nat) ε α) : Prop :=
  match verdict with
  | .ok none =>
    o.answer = (operation state).1.mapError .operation ∧ o.state = ((operation state).2, 1) ∧
      o.events = []
  | .ok (some e) =>
    o.answer = .error (.exceeded e) ∧ o.state = (state, 0) ∧
      o.events = [{
        id := stamp.id
        owner
        kind := AuditKind.ofScope e.scope
        operation := name
        payload := .object [("accrued", .ofFloat e.accrued), ("ceiling", .ofFloat e.ceiling),
          ("scope", .string e.scope.name)]
        occurredAt := stamp.now }]
  | .error e => o.answer = .error (.store e) ∧ o.state = (state, 0) ∧ o.events = []

theorem guard_follows {lookup : Lookup} {owner : String}
    {v : Except StoreError (Option Exceeded)} (h : Verdict lookup owner v) (stamp : Stamp)
    (name : String) (operation : σ → Except ε α × σ) (state : σ) :
    Follows stamp owner name operation state v
      (guard lookup stamp owner name (counted operation) (state, 0)) := by
  have hcheck := (verdict_iff v).mp h
  unfold guard
  rw [hcheck]
  cases h with
  | platformFails _ => exact ⟨rfl, rfl, rfl⟩
  | platformExhausted _ _ => exact ⟨rfl, rfl, rfl⟩
  | ownerFails _ _ _ => exact ⟨rfl, rfl, rfl⟩
  | ownerExhausted _ _ _ _ => exact ⟨rfl, rfl, rfl⟩
  | admitted _ _ => exact ⟨rfl, rfl, rfl⟩

theorem invoked_iff (lookup : Lookup) (stamp : Stamp) (owner name : String)
    (operation : σ → Except ε α × σ) (state : σ) :
    (guard lookup stamp owner name (counted operation) (state, 0)).state.2 = 1 ↔
      Clear (lookup platformOwner) ∧ (owner ≠ platformOwner → Clear (lookup owner)) := by
  constructor
  · intro hinvoked
    have hverdict := exhausted_verdict lookup owner
    have hfollows := guard_follows hverdict stamp name operation state
    cases hv : exhausted lookup owner with
    | error e =>
      rw [hv] at hfollows
      rw [hfollows.2.1] at hinvoked
      cases hinvoked
    | ok refused =>
      cases refused with
      | some e =>
        rw [hv] at hfollows
        rw [hfollows.2.1] at hinvoked
        cases hinvoked
      | none =>
        rw [hv] at hverdict
        cases hverdict with
        | admitted hplatform howner => exact ⟨hplatform, howner⟩
  · rintro ⟨hplatform, howner⟩
    have hfollows := guard_follows (.admitted hplatform howner) stamp name operation state
    rw [hfollows.2.1]

theorem guard_state (lookup : Lookup) (stamp : Stamp) (owner name : String)
    (operation : σ → Except ε α × σ) (state : σ) (h : (operation state).2 = state) :
    (guard lookup stamp owner name operation state).state = state := by
  unfold guard
  obtain e | _ | e := exhausted lookup owner
  · rfl
  · exact h
  · rfl

end

structure Visit (σ ε α : Type) where
  stamp : Stamp
  owner : String
  name : String
  operation : σ → Except ε α × σ

/-- How far a call has come, and what the state was when the platform was looked up, when the owner
was, and when the call ended. -/
inductive Stage (σ ε α : Type)
  | called
  | passed (first : σ)
  | admitted (first second : σ)
  | answered (first second last : σ) (answer : Except (GuardError ε) α)

def Stage.rank {σ ε α : Type} : Stage σ ε α → Nat
  | .called => 0
  | .passed _ => 1
  | .admitted _ _ => 2
  | .answered _ _ _ _ => 3

theorem Stage.answered_of_rank {σ ε α : Type} {stage : Stage σ ε α} (h : 3 ≤ stage.rank) :
    ∃ first second last answer, stage = .answered first second last answer := by
  cases stage with
  | answered first second last answer => exact ⟨first, second, last, answer, rfl⟩
  | _ => simp [rank] at h

structure Caller (σ ε α : Type) where
  stage : Stage σ ε α
  invoked : Nat
  recorded : List AuditEvent

structure Crowd (σ ε α : Type) where
  state : σ
  callers : Nat → Caller σ ε α

namespace Crowd

variable {σ ε α : Type}

inductive Event (σ : Type)
  | platform (i : Nat)
  | owner (i : Nat)
  | invoke (i : Nat)
  | other (change : σ → σ)

def opened (state : σ) : Crowd σ ε α := ⟨state, fun _ => ⟨.called, 0, []⟩⟩

def refuse (visit : Visit σ ε α) (first second : σ) (e : Exceeded) (c : Caller σ ε α) :
    Caller σ ε α :=
  { c with
    stage := .answered first second second (.error (.exceeded e))
    recorded := c.recorded ++ [e.event visit.name visit.stamp] }

def fail (first second : σ) (e : StoreError) (c : Caller σ ε α) : Caller σ ε α :=
  { c with stage := .answered first second second (.error (.store e)) }

def lookPlatform (lookup : σ → Lookup) (visit : Visit σ ε α) (s : σ) (c : Caller σ ε α) :
    Caller σ ε α :=
  match c.stage with
  | .called =>
    match lookup s platformOwner with
    | .error e => fail s s e c
    | .ok p =>
      match p.filter Policy.isExhausted with
      | some p => refuse visit s s (.ofPolicy visit.owner .platform p) c
      | none => { c with stage := if visit.owner = platformOwner then .admitted s s else .passed s }
  | _ => c

def lookOwner (lookup : σ → Lookup) (visit : Visit σ ε α) (s : σ) (c : Caller σ ε α) :
    Caller σ ε α :=
  match c.stage with
  | .passed first =>
    match lookup s visit.owner with
    | .error e => fail first s e c
    | .ok p =>
      match p.filter Policy.isExhausted with
      | some p => refuse visit first s (.ofPolicy visit.owner .owner p) c
      | none => { c with stage := .admitted first s }
  | _ => c

def invoke (visit : Visit σ ε α) (s : σ) (c : Caller σ ε α) : Caller σ ε α × σ :=
  match c.stage with
  | .admitted first second =>
    let (result, after) := visit.operation s
    ({ c with stage := .answered first second s (result.mapError .operation),
              invoked := c.invoked + 1 }, after)
  | _ => (c, s)

def move (s : Crowd σ ε α) (i : Nat) (c : Caller σ ε α) : Crowd σ ε α :=
  { s with callers := Function.update s.callers i c }

def step (lookup : σ → Lookup) (visits : Nat → Visit σ ε α) (s : Crowd σ ε α) :
    Event σ → Crowd σ ε α
  | .platform i => s.move i (lookPlatform lookup (visits i) s.state (s.callers i))
  | .owner i => s.move i (lookOwner lookup (visits i) s.state (s.callers i))
  | .invoke i =>
    let (c, after) := invoke (visits i) s.state (s.callers i)
    { s.move i c with state := after }
  | .other change => { s with state := change s.state }

def run (lookup : σ → Lookup) (visits : Nat → Visit σ ε α) (s : Crowd σ ε α)
    (events : List (Event σ)) : Crowd σ ε α :=
  events.foldl (step lookup visits) s

def seen (lookup : σ → Lookup) (first second : σ) : Lookup :=
  fun name => if name = platformOwner then lookup first name else lookup second name

/-- A caller has been served as the gate would serve him alone, with the policies that he saw. -/
def Served (lookup : σ → Lookup) (visit : Visit σ ε α) (c : Caller σ ε α) : Prop :=
  match c.stage with
  | .called => c.invoked = 0 ∧ c.recorded = []
  | .passed first =>
    Clear (lookup first platformOwner) ∧ visit.owner ≠ platformOwner ∧ c.invoked = 0 ∧
      c.recorded = []
  | .admitted first second =>
    Verdict (seen lookup first second) visit.owner (.ok none) ∧ c.invoked = 0 ∧ c.recorded = []
  | .answered first second last answer =>
    ∃ after, guard (seen lookup first second) visit.stamp visit.owner visit.name
      (counted visit.operation) (last, 0) = ⟨answer, (after, c.invoked), c.recorded⟩

variable {lookup : σ → Lookup} {visit : Visit σ ε α} {c : Caller σ ε α}

theorem seen_platform (lookup : σ → Lookup) (first second : σ) :
    seen lookup first second platformOwner = lookup first platformOwner := if_pos rfl

theorem seen_owner (lookup : σ → Lookup) {owner : String} (h : owner ≠ platformOwner)
    (first second : σ) :
    seen lookup first second owner = lookup second owner := if_neg h

theorem fail_served {first second : σ} {e : StoreError}
    (h : Verdict (seen lookup first second) visit.owner (.error e)) (hinvoked : c.invoked = 0)
    (hrecorded : c.recorded = []) : Served lookup visit (fail first second e c) := by
  have hcheck := (verdict_iff _).mp h
  exact ⟨second, by simp only [guard, hcheck, fail, hinvoked, hrecorded]⟩

theorem refuse_served {first second : σ} {e : Exceeded}
    (h : Verdict (seen lookup first second) visit.owner (.ok (some e))) (hinvoked : c.invoked = 0)
    (hrecorded : c.recorded = []) : Served lookup visit (refuse visit first second e c) := by
  have hcheck := (verdict_iff _).mp h
  exact ⟨second, by simp only [guard, hcheck, refuse, hinvoked, hrecorded, List.nil_append]⟩

theorem lookPlatform_served (h : Served lookup visit c) (s : σ) :
    Served lookup visit (lookPlatform lookup visit s c) := by
  have hsame := seen_platform lookup s s
  cases hc : c.stage with
  | called =>
    unfold Served at h
    rw [hc] at h
    obtain ⟨hinvoked, hrecorded⟩ := h
    simp only [lookPlatform, hc]
    obtain ⟨e, hp⟩ | ⟨p, hp, hle⟩ | hp := found_cases (lookup s platformOwner)
    · rw [hp]
      exact fail_served (.platformFails (hsame.trans hp)) hinvoked hrecorded
    · simp only [hp, filter_exhausted hle]
      exact refuse_served (.platformExhausted (hsame.trans hp) hle) hinvoked hrecorded
    · obtain ⟨p, hfound, hnone⟩ := hp.found
      simp only [hfound, hnone]
      by_cases ho : visit.owner = platformOwner
      · rw [if_pos ho]
        refine ⟨.admitted (hsame ▸ hp) fun hne => absurd ho hne, hinvoked, hrecorded⟩
      · rw [if_neg ho]
        exact ⟨hp, ho, hinvoked, hrecorded⟩
  | _ =>
    simp only [lookPlatform, hc]
    exact h

theorem lookOwner_served (h : Served lookup visit c) (s : σ) :
    Served lookup visit (lookOwner lookup visit s c) := by
  cases hc : c.stage with
  | passed first =>
    unfold Served at h
    rw [hc] at h
    obtain ⟨hclear, ho, hinvoked, hrecorded⟩ := h
    have hfirst : Clear (seen lookup first s platformOwner) := by
      rw [seen_platform]
      exact hclear
    have hsecond := seen_owner lookup ho first s
    simp only [lookOwner, hc]
    obtain ⟨e, hq⟩ | ⟨q, hq, hle⟩ | hq := found_cases (lookup s visit.owner)
    · rw [hq]
      exact fail_served (.ownerFails hfirst ho (hsecond.trans hq)) hinvoked hrecorded
    · simp only [hq, filter_exhausted hle]
      exact refuse_served (.ownerExhausted hfirst ho (hsecond.trans hq) hle) hinvoked hrecorded
    · obtain ⟨q, hfound, hnone⟩ := hq.found
      simp only [hfound, hnone]
      exact ⟨.admitted hfirst fun _ => hsecond ▸ hq, hinvoked, hrecorded⟩
  | _ =>
    simp only [lookOwner, hc]
    exact h

theorem invoke_served (h : Served lookup visit c) (s : σ) :
    Served lookup visit (invoke visit s c).1 := by
  cases hc : c.stage with
  | admitted first second =>
    unfold Served at h
    rw [hc] at h
    obtain ⟨hverdict, hinvoked, hrecorded⟩ := h
    have hcheck := (verdict_iff _).mp hverdict
    simp only [invoke, hc]
    exact ⟨(visit.operation s).2, by simp only [guard, hcheck, counted, hinvoked, hrecorded]⟩
  | _ =>
    simp only [invoke, hc]
    exact h

theorem step_served {visits : Nat → Visit σ ε α} {s : Crowd σ ε α}
    (h : ∀ i, Served lookup (visits i) (s.callers i)) (e : Event σ) (i : Nat) :
    Served lookup (visits i) ((s.step lookup visits e).callers i) := by
  have hmove : ∀ j c, Served lookup (visits j) c →
      Served lookup (visits i) ((s.move j c).callers i) := by
    intro j c hc
    simp only [move, Function.update_apply]
    split_ifs with hij
    · rw [hij]
      exact hc
    · exact h i
  cases e with
  | platform j => exact hmove j _ (lookPlatform_served (h j) s.state)
  | owner j => exact hmove j _ (lookOwner_served (h j) s.state)
  | invoke j => exact hmove j _ (invoke_served (h j) s.state)
  | other change => exact h i

theorem run_served {visits : Nat → Visit σ ε α} {s : Crowd σ ε α}
    (h : ∀ i, Served lookup (visits i) (s.callers i)) (events : List (Event σ)) (i : Nat) :
    Served lookup (visits i) ((s.run lookup visits events).callers i) := by
  induction events generalizing s with
  | nil => exact h i
  | cons e rest ih => exact ih (step_served h e)

theorem opened_served {visits : Nat → Visit σ ε α} (state : σ) (i : Nat) :
    Served lookup (visits i) ((opened state : Crowd σ ε α).callers i) := ⟨rfl, rfl⟩

theorem step_state {visits : Nat → Visit σ ε α} (s : Crowd σ ε α) (e : Event σ) :
    (s.step lookup visits e).state = s.state ∨
      (∃ change, e = .other change ∧ (s.step lookup visits e).state = change s.state) ∨
      ∃ i first second, e = .invoke i ∧ (s.callers i).stage = .admitted first second ∧
        (s.step lookup visits e).state = ((visits i).operation s.state).2 := by
  cases e with
  | platform i => exact Or.inl rfl
  | owner i => exact Or.inl rfl
  | invoke i =>
    cases hc : (s.callers i).stage with
    | admitted first second =>
      refine Or.inr (Or.inr ⟨i, first, second, rfl, hc, ?_⟩)
      simp only [step, invoke, hc]
    | _ =>
      apply Or.inl
      simp only [step, invoke, hc]
  | other change => exact Or.inr (Or.inl ⟨change, rfl, rfl⟩)

theorem invoke_look (lookup : σ → Lookup) (visit : Visit σ ε α) (s : σ) :
    let o := guard (lookup s) visit.stamp visit.owner visit.name (counted visit.operation) (s, 0)
    invoke visit s (lookOwner lookup visit s (lookPlatform lookup visit s ⟨.called, 0, []⟩)) =
      (⟨.answered s s s o.answer, o.state.2, o.events⟩, o.state.1) := by
  intro o
  obtain ⟨e, hp⟩ | ⟨p, hp, hle⟩ | hp := found_cases (lookup s platformOwner)
  · have hcheck := exhausted_of_error visit.owner hp
    simp only [o, guard, hcheck, lookPlatform, hp, fail, lookOwner, invoke]
  · have hcheck := exhausted_of_platform visit.owner hp hle
    simp only [o, guard, hcheck, lookPlatform, hp, filter_exhausted hle, refuse, lookOwner, invoke,
      List.nil_append]
  · have hcheck := exhausted_of_clear visit.owner hp
    obtain ⟨p, hfound, hnone⟩ := hp.found
    by_cases ho : visit.owner = platformOwner
    · rw [if_pos ho] at hcheck
      simp only [o, guard, hcheck, lookPlatform, hfound, hnone, if_pos ho, lookOwner, invoke,
        counted]
    · rw [if_neg ho] at hcheck
      obtain ⟨e, hq⟩ | ⟨q, hq, hle⟩ | hq := found_cases (lookup s visit.owner)
      · rw [hq, Except.map] at hcheck
        simp only [o, guard, hcheck, lookPlatform, hfound, hnone, if_neg ho, lookOwner, hq, fail,
          invoke]
      · rw [hq, Except.map, filter_exhausted hle, Option.map_some] at hcheck
        simp only [o, guard, hcheck, lookPlatform, hfound, hnone, if_neg ho, lookOwner, hq,
          filter_exhausted hle, refuse, invoke, List.nil_append]
      · obtain ⟨q, hfound', hnone'⟩ := hq.found
        rw [hfound', Except.map, hnone', Option.map_none] at hcheck
        simp only [o, guard, hcheck, lookPlatform, hfound, hnone, if_neg ho, lookOwner, hfound',
          hnone', invoke, counted]

theorem run_guard (lookup : σ → Lookup) (visits : Nat → Visit σ ε α) (s : Crowd σ ε α) {i : Nat}
    (h : s.callers i = ⟨.called, 0, []⟩) :
    let visit := visits i
    let o := guard (lookup s.state) visit.stamp visit.owner visit.name (counted visit.operation)
      (s.state, 0)
    (s.run lookup visits [.platform i, .owner i, .invoke i]).state = o.state.1 ∧
      (s.run lookup visits [.platform i, .owner i, .invoke i]).callers i =
        ⟨.answered s.state s.state s.state o.answer, o.state.2, o.events⟩ := by
  have hserved := invoke_look lookup (visits i) s.state
  simp only [run, List.foldl_cons, List.foldl_nil, step, move, Function.update_self, h, hserved]
  exact ⟨trivial, trivial⟩

theorem lookPlatform_rank (lookup : σ → Lookup) (visit : Visit σ ε α) (s : σ) (c : Caller σ ε α) :
    c.stage.rank ≤ (lookPlatform lookup visit s c).stage.rank ∧
      1 ≤ (lookPlatform lookup visit s c).stage.rank := by
  unfold lookPlatform
  cases hc : c.stage with
  | called =>
    dsimp only
    cases lookup s platformOwner with
    | error e => simp [fail, Stage.rank]
    | ok p =>
      dsimp only
      cases p.filter Policy.isExhausted with
      | some p => simp [refuse, Stage.rank]
      | none =>
        dsimp only
        split_ifs <;> simp [Stage.rank]
  | _ => simp [hc, Stage.rank]

theorem lookOwner_rank (lookup : σ → Lookup) (visit : Visit σ ε α) (s : σ) (c : Caller σ ε α) :
    c.stage.rank ≤ (lookOwner lookup visit s c).stage.rank ∧
      (1 ≤ c.stage.rank → 2 ≤ (lookOwner lookup visit s c).stage.rank) := by
  unfold lookOwner
  cases hc : c.stage with
  | passed first =>
    dsimp only
    cases lookup s visit.owner with
    | error e => simp [fail, Stage.rank]
    | ok p =>
      dsimp only
      cases p.filter Policy.isExhausted with
      | some p => simp [refuse, Stage.rank]
      | none => simp [Stage.rank]
  | _ => simp [hc, Stage.rank]

theorem invoke_rank (visit : Visit σ ε α) (s : σ) (c : Caller σ ε α) :
    c.stage.rank ≤ (invoke visit s c).1.stage.rank ∧
      (2 ≤ c.stage.rank → 3 ≤ (invoke visit s c).1.stage.rank) := by
  unfold invoke
  cases hc : c.stage <;> simp [hc, Stage.rank]

def rankOf (s : Crowd σ ε α) (i : Nat) : Nat := (s.callers i).stage.rank

section

variable (lookup : σ → Lookup) (visits : Nat → Visit σ ε α) (s : Crowd σ ε α) (i : Nat)

theorem rankOf_move_self (c : Caller σ ε α) : (s.move i c).rankOf i = c.stage.rank := by
  simp only [rankOf, move, Function.update_self]

/-- No event sets a call back. -/
theorem step_rank (e : Event σ) : s.rankOf i ≤ (s.step lookup visits e).rankOf i := by
  have hmove : ∀ j c, (s.callers j).stage.rank ≤ c.stage.rank →
      s.rankOf i ≤ (s.move j c).rankOf i := by
    intro j c hc
    simp only [rankOf, move, Function.update_apply]
    split_ifs with hij
    · rwa [hij]
    · exact Nat.le_refl _
  cases e with
  | platform j => exact hmove j _ (lookPlatform_rank lookup (visits j) s.state _).1
  | owner j => exact hmove j _ (lookOwner_rank lookup (visits j) s.state _).1
  | invoke j => exact hmove j _ (invoke_rank (visits j) s.state _).1
  | other change => exact Nat.le_refl _

theorem run_rank (events : List (Event σ)) : s.rankOf i ≤ (s.run lookup visits events).rankOf i := by
  induction events generalizing s with
  | nil => exact Nat.le_refl _
  | cons e rest ih => exact Nat.le_trans (step_rank lookup visits s i e) (ih _)

theorem rank_of_mem {events : List (Event σ)} {e : Event σ} {m n : Nat} (he : e ∈ events)
    (hstep : ∀ s : Crowd σ ε α, m ≤ s.rankOf i → n ≤ (s.step lookup visits e).rankOf i)
    (h : m ≤ s.rankOf i) : n ≤ (s.run lookup visits events).rankOf i := by
  obtain ⟨before, after, rfl⟩ := List.append_of_mem he
  rw [run, List.foldl_append, List.foldl_cons]
  have hbefore := Nat.le_trans h (run_rank lookup visits s i before)
  exact Nat.le_trans (hstep _ hbefore) (run_rank lookup visits _ i after)

theorem step_advances :
    1 ≤ (s.step lookup visits (.platform i)).rankOf i ∧
      (1 ≤ s.rankOf i → 2 ≤ (s.step lookup visits (.owner i)).rankOf i) ∧
      (2 ≤ s.rankOf i → 3 ≤ (s.step lookup visits (.invoke i)).rankOf i) := by
  have hplatform := (lookPlatform_rank lookup (visits i) s.state (s.callers i)).2
  have howner := (lookOwner_rank lookup (visits i) s.state (s.callers i)).2
  have hinvoke := (invoke_rank (visits i) s.state (s.callers i)).2
  refine ⟨?_, fun h => ?_, fun h => ?_⟩
  · exact (rankOf_move_self s i _).symm ▸ hplatform
  · exact (rankOf_move_self s i _).symm ▸ howner h
  · exact (rankOf_move_self s i _).symm ▸ hinvoke h

theorem run_answered {events : List (Event σ)}
    (h : [.platform i, .owner i, .invoke i].Sublist events) :
    ∃ first second last answer,
      ((s.run lookup visits events).callers i).stage = .answered first second last answer := by
  obtain ⟨events₁, rest, rfl, hplatform, hrest⟩ := List.cons_sublist_iff.mp h
  obtain ⟨events₂, events₃, rfl, howner, hlast⟩ := List.cons_sublist_iff.mp hrest
  have hinvoke := List.singleton_sublist.mp hlast
  -- each of the three steps takes the call on, and nothing in between takes it back
  have hpassed := rank_of_mem lookup visits s i hplatform
    (fun s _ => (step_advances lookup visits s i).1) (Nat.zero_le _)
  have hadmitted := rank_of_mem lookup visits _ i howner
    (fun s => (step_advances lookup visits s i).2.1) hpassed
  have hanswered := rank_of_mem lookup visits _ i hinvoke
    (fun s => (step_advances lookup visits s i).2.2) hadmitted
  simp only [run, ← List.foldl_append, List.append_assoc] at hanswered
  exact Stage.answered_of_rank hanswered

end

end Crowd

/-- The gate is exact and fails closed. There is a verdict for every content of the store, and the
call follows it: the operation is invoked once if both look-ups that are needed succeed and are
clear, and never otherwise; a refusal tells the figures of the budget that is exhausted, the
platform's before the owner's, and is recorded in one event; nothing else is recorded or changed.
Callers among others, whatever else changes the state in between, are each served as the gate would
serve them alone, with the policies that they saw. Each has its answer once its three steps have
come, and one whose steps come in a row has the answer of the gate. -/
theorem gate_is_exact {σ ε α : Type} :
    (∀ (lookup : Lookup) (stamp : Stamp) (owner name : String) (operation : σ → Except ε α × σ)
      (state : σ),
      let o := guard lookup stamp owner name (counted operation) (state, 0)
      (∃ v, Verdict lookup owner v) ∧
        (∀ v, Verdict lookup owner v → Follows stamp owner name operation state v o) ∧
        (o.state.2 = 1 ↔
          Clear (lookup platformOwner) ∧ (owner ≠ platformOwner → Clear (lookup owner)))) ∧
    ∀ (lookup : σ → Lookup) (visits : Nat → Visit σ ε α) (state : σ)
      (events : List (Crowd.Event σ)),
      let s := (Crowd.opened state).run lookup visits events
      (∀ i, Crowd.Served lookup (visits i) (s.callers i)) ∧
        (∀ e, (s.step lookup visits e).state = s.state ∨
          (∃ change, e = .other change ∧ (s.step lookup visits e).state = change s.state) ∨
          ∃ i first second, e = .invoke i ∧ (s.callers i).stage = .admitted first second ∧
            (s.step lookup visits e).state = ((visits i).operation s.state).2) ∧
        (∀ i more, [.platform i, .owner i, .invoke i].Sublist more → ∃ first second last answer,
          ((s.run lookup visits more).callers i).stage = .answered first second last answer) ∧
        ∀ i, s.callers i = ⟨.called, 0, []⟩ →
          let o := guard (lookup s.state) (visits i).stamp (visits i).owner (visits i).name
            (counted (visits i).operation) (s.state, 0)
          (s.run lookup visits [.platform i, .owner i, .invoke i]).state = o.state.1 ∧
            (s.run lookup visits [.platform i, .owner i, .invoke i]).callers i =
              ⟨.answered s.state s.state s.state o.answer, o.state.2, o.events⟩ := by
  refine ⟨fun lookup stamp owner name operation state => ⟨?_, ?_, ?_⟩, ?_⟩
  · exact ⟨exhausted lookup owner, exhausted_verdict lookup owner⟩
  · exact fun v hv => guard_follows hv stamp name operation state
  · exact invoked_iff lookup stamp owner name operation state
  · intro lookup visits state events
    exact ⟨Crowd.run_served (Crowd.opened_served state) events, Crowd.step_state _,
      fun i _ => Crowd.run_answered lookup visits _ i, fun _ => Crowd.run_guard lookup visits _⟩

def overspent : Policies :=
  Policies.ofPolicies [⟨"alice", 10.0, 12.0, none⟩, ⟨platformOwner, 100.0, 20.0, none⟩]

theorem overspent_owner_is_refused :
    let o : Outcome (Unit × Nat) Empty Unit :=
      guard (BudgetStore.get overspent) ⟨⟨0, 0⟩, ⟨[]⟩⟩ "alice" "create_notebook"
        (counted fun u => (.ok (), u)) ((), 0)
    o.answer = .error (.exceeded ⟨"alice", .owner, 10.0, 12.0⟩) ∧ o.state = ((), 0) ∧
      o.events.map AuditEvent.kind = [.ownerLimitReached] := by
  have hplatform : overspent.get? platformOwner = some ⟨platformOwner, 100.0, 20.0, none⟩ := by
    decide +kernel
  have halice : overspent.get? "alice" = some ⟨"alice", 10.0, 12.0, none⟩ := by
    decide +kernel
  have hclear : Clear (BudgetStore.get overspent platformOwner) := by
    refine ⟨_, congrArg Except.ok hplatform, fun q hq => ?_⟩
    cases hq
    decide
  obtain ⟨hanswer, hstate, hevents⟩ := (gate_is_exact.1 (BudgetStore.get overspent)
    ⟨⟨0, 0⟩, ⟨[]⟩⟩ "alice" "create_notebook"
    (fun u : Unit => ((.ok () : Except Empty Unit), u)) ()).2.1 _
    (.ownerExhausted hclear (by decide) (congrArg Except.ok halice) (by decide))
  exact ⟨hanswer, hstate, congrArg (List.map AuditEvent.kind) hevents⟩

end CloudDesk.Gate
