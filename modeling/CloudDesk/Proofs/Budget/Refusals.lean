import CloudDesk.Proofs.Budget.Store

namespace CloudDesk

open Text

inductive StoreCall
  | get (owner : String)
  | list
  | setCeiling (owner : String) (ceiling : Float)
  | ensureOwner (owner : String) (ceiling : Float)
  | replaceAccrued (owner : String) (accrued : Float) (time : Instant)
  | replaceAll (updates : List (String × Float)) (time : Instant)

inductive StoreAnswer
  | found (policy : Option Policy)
  | listed (policies : List Policy)
  | set (policy : Policy)
  | ensured (created : Bool)
  | replaced (earlier : Option Float)
  | updated (count : Nat)
  deriving DecidableEq

namespace StoreCall

def perform {σ : Type} [BudgetStore σ] (store : σ) : StoreCall → Except StoreError StoreAnswer × σ
  | .get owner => ((BudgetStore.get store owner).map .found, store)
  | .list => ((BudgetStore.list store).map .listed, store)
  | .setCeiling owner ceiling =>
    (BudgetStore.setCeiling store owner ceiling).map (Except.map .set) id
  | .ensureOwner owner ceiling =>
    (BudgetStore.ensureOwner store owner ceiling).map (Except.map .ensured) id
  | .replaceAccrued owner accrued time =>
    (BudgetStore.replaceAccrued store owner accrued time).map (Except.map .replaced) id
  | .replaceAll updates time =>
    (BudgetStore.replaceAll store updates time).map (Except.map .updated) id

/-- What is wrong with the arguments of a call, whatever the store holds. -/
def check : StoreCall → Except BudgetError Unit
  | .get _ | .list => .ok ()
  | .setCeiling owner ceiling | .ensureOwner owner ceiling => Policies.checkCeiling owner ceiling
  | .replaceAccrued _ accrued _ => checkAmount .accrued accrued
  | .replaceAll updates _ => Policies.checkUpdates updates

end StoreCall

namespace Policies

theorem refused_invalid_iff {α σ : Type} (wrap : Policies → σ) {r : Except BudgetError α × Policies}
    {e : BudgetError} : (refused wrap r).1 = .error (.invalid e) ↔ r.1 = .error e := by
  unfold refused
  cases r.1 <;> simp [Except.mapError]

theorem answered_invalid_iff {α β : Type} {f : α → β} {r : Except BudgetError α × Policies}
    {e : BudgetError} :
    ((refused id r).map (Except.map f) id).1 = .error (.invalid e) ↔ r.1 = .error e :=
  map_eq_error_iff.trans (refused_invalid_iff id)

variable {t : Policies} {owner : String} {ceiling accrued : Float} {time : Instant}
  {updates : List (String × Float)} {e : BudgetError}

theorem setCeiling_error_iff :
    (t.setCeiling owner ceiling).1 = .error e ↔ checkCeiling owner ceiling = .error e := by
  unfold setCeiling
  cases checkCeiling owner ceiling <;> simp

theorem create_error_iff :
    Policy.create owner ceiling = .error e ↔ checkCeiling owner ceiling = .error e := by
  unfold Policy.create checkCeiling
  cases checkOwner owner <;> cases checkAmount .ceiling ceiling <;> simp [bind, Except.bind]

theorem ensureOwner_error_iff :
    (t.ensureOwner owner ceiling).1 = .error e ↔
      checkCeiling owner ceiling = .error e ∧ t.contains owner = false := by
  unfold ensureOwner Table.contains
  cases t.get? owner with
  | some p => simp
  | none =>
    rw [← create_error_iff]
    cases Policy.create owner ceiling <;> simp

theorem replaceAccrued_error_iff :
    (t.replaceAccrued owner accrued time).1 = .error e ↔ checkAmount .accrued accrued = .error e := by
  unfold replaceAccrued
  cases checkAmount .accrued accrued <;> simp

theorem replaceAll_error_iff :
    (t.replaceAll updates time).1 = .error e ↔ checkUpdates updates = .error e := by
  unfold replaceAll
  cases checkUpdates updates <;> simp

theorem checkCeiling_fails_iff :
    (∃ e, checkCeiling owner ceiling = .error e) ↔
      isAllBlank owner = true ∨ isAmount ceiling = false := by
  unfold checkCeiling checkOwner checkAmount
  cases isAllBlank owner <;> cases isAmount ceiling <;> simp [bind, Except.bind]

end Policies

namespace Database

theorem failed_ne_invalid {α : Type} (r : Except String α) (e : BudgetError) :
    r.mapError StoreError.database ≠ .error (.invalid e) := by
  cases r <;> simp [Except.mapError]

/-- A pool fails with messages of its own, so that the check of the arguments is the only refusal.
-/
theorem call_invalid_iff {α : Type} (d : Database) (check : Except BudgetError Unit)
    (session : Session α) {e : BudgetError} :
    (d.call check session).1 = .error (.invalid e) ↔ check = .error e := by
  cases check with
  | error e₀ => simp [call]
  | ok u => exact iff_of_false (failed_ne_invalid _ e) (by simp)

end Database

namespace StoreCall

variable (call : StoreCall) (e : BudgetError)

theorem database_refuses_iff (d : Database) :
    (call.perform d).1 = .error (.invalid e) ↔ call.check = .error e := by
  cases call with
  | get owner =>
    exact map_eq_error_iff.trans (iff_of_false (Database.failed_ne_invalid _ e) (by simp [check]))
  | list =>
    exact map_eq_error_iff.trans (iff_of_false (Database.failed_ne_invalid _ e) (by simp [check]))
  | setCeiling owner ceiling =>
    exact map_eq_error_iff.trans
      (d.call_invalid_iff _ (Database.send (.upsertCeiling owner ceiling)))
  | ensureOwner owner ceiling =>
    exact map_eq_error_iff.trans (d.call_invalid_iff _ (Database.ensureOwner owner ceiling))
  | replaceAccrued owner accrued time =>
    exact map_eq_error_iff.trans (d.call_invalid_iff _ (Database.replaceAccrued owner accrued time))
  | replaceAll updates time =>
    exact map_eq_error_iff.trans (d.call_invalid_iff _ (Database.replaceAll updates time))

def Meets (t : Policies) : StoreCall → Prop
  | .ensureOwner owner _ => t.contains owner = true
  | _ => False

theorem memory_refuses_iff (t : Policies) :
    (call.perform t).1 = .error (.invalid e) ↔ call.check = .error e ∧ ¬ call.Meets t := by
  cases call with
  | get owner => simp [perform, BudgetStore.get, check]
  | list => simp [perform, BudgetStore.list, check]
  | ensureOwner owner ceiling =>
    have hmeets : t.contains owner = false ↔ ¬ (ensureOwner owner ceiling).Meets t := by
      simp [Meets]
    rw [← hmeets]
    exact Policies.answered_invalid_iff.trans Policies.ensureOwner_error_iff
  | setCeiling owner ceiling =>
    exact (Policies.answered_invalid_iff.trans Policies.setCeiling_error_iff).trans
      (and_iff_left not_false).symm
  | replaceAccrued owner accrued time =>
    exact (Policies.answered_invalid_iff.trans Policies.replaceAccrued_error_iff).trans
      (and_iff_left not_false).symm
  | replaceAll updates time =>
    exact (Policies.answered_invalid_iff.trans Policies.replaceAll_error_iff).trans
      (and_iff_left not_false).symm

/-- A call that ensures an owner who has a policy, under a blank name or with a ceiling that is no
amount. -/
def Overlooked (t : Policies) : StoreCall → Prop
  | .ensureOwner owner ceiling =>
    t.contains owner = true ∧ (isAllBlank owner = true ∨ isAmount ceiling = false)
  | _ => False

theorem overlooked_iff (t : Policies) :
    call.Overlooked t ↔ call.Meets t ∧ ∃ e, call.check = .error e := by
  cases call with
  | ensureOwner owner ceiling => exact and_congr_right fun _ => Policies.checkCeiling_fails_iff.symm
  | _ => exact (iff_of_eq (false_and _)).symm

theorem Meets.perform {t : Policies} {call : StoreCall} (h : call.Meets t) :
    (call.perform t).1 = .ok (.ensured false) := by
  cases call with
  | ensureOwner owner ceiling =>
    obtain ⟨p, hp⟩ := Option.isSome_iff_exists.mp h
    simp [StoreCall.perform, BudgetStore.ensureOwner, Policies.ensureOwner, Policies.refused, hp,
      Except.map, Except.mapError]
  | _ => exact absurd h not_false

/-- Policies in memory and a database, whatever its pool answers, refuse the same calls with the
same errors, but for one kind of call: where an owner who has a policy is ensured with arguments
that are not right, the database refuses, and policies in memory answer that there was nothing to
do. -/
theorem stores_refuse_alike_iff (t : Policies) (d : Database) (call : StoreCall) :
    ((∀ e, (call.perform t).1 = .error (.invalid e) ↔ (call.perform d).1 = .error (.invalid e)) ↔
        ¬ call.Overlooked t) ∧
      (call.Overlooked t → (call.perform t).1 = .ok (.ensured false) ∧
        ∃ e, (call.perform d).1 = .error (.invalid e)) := by
  simp only [memory_refuses_iff, database_refuses_iff, overlooked_iff]
  refine ⟨⟨?_, ?_⟩, ?_⟩
  · rintro halike ⟨hmeets, e, he⟩
    exact ((halike e).mpr he).2 hmeets
  · intro hright e
    exact ⟨And.left, fun he => ⟨he, fun hmeets => hright ⟨hmeets, e, he⟩⟩⟩
  · rintro ⟨hmeets, hcheck⟩
    exact ⟨hmeets.perform, hcheck⟩

def onePolicy : Policies := Policies.ofPolicies [⟨"alice", 10.0, 0.0, none⟩]

/-- The ceiling of an owner who has a policy is not looked at in memory. -/
theorem negative_ceiling_is_overlooked :
    ((ensureOwner "alice" (-1.0)).perform onePolicy).1 = .ok (.ensured false) ∧
      ∀ d : Database, ((ensureOwner "alice" (-1.0)).perform d).1 =
        .error (.invalid (.invalidAmount .ceiling (-1.0))) := by
  have hcheck : (ensureOwner "alice" (-1.0)).check = .error (.invalidAmount .ceiling (-1.0)) := by
    decide +kernel
  exact ⟨by decide +kernel, fun d => ((ensureOwner "alice" (-1.0)).database_refuses_iff _ d).mpr hcheck⟩

end StoreCall

end CloudDesk
