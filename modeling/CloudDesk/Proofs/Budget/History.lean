import CloudDesk.Proofs.Budget.Refusals

namespace CloudDesk

open Text

structure Policy.Valid (p : Policy) : Prop where
  owner : isAllBlank p.owner = false
  ceiling : isAmount p.ceiling = true
  accrued : isAmount p.accrued = true

/-- The policies that can be made: without any spending, or with an amount of it that was accepted.
-/
inductive Policy.Made : Policy → Prop
  | create {owner : String} {ceiling : Float} {p : Policy} :
      Policy.create owner ceiling = .ok p → Made p
  | withAccrued {p q : Policy} {accrued : Float} :
      Made p → p.withAccrued accrued = .ok q → Made q

namespace Policies

theorem isAmount_zero : isAmount 0.0 = true := by decide

theorem checkAmount_ok {field : AmountField} {x : Float} (h : checkAmount field x = .ok ()) :
    isAmount x = true := by
  unfold checkAmount at h
  split_ifs at h with hx
  exact hx

theorem checkOwner_ok {owner : String} (h : checkOwner owner = .ok ()) :
    isAllBlank owner = false := by
  unfold checkOwner at h
  split_ifs at h with hblank
  exact Bool.eq_false_iff.mpr hblank

theorem checkCeiling_ok {owner : String} {ceiling : Float} (h : checkCeiling owner ceiling = .ok ()) :
    isAllBlank owner = false ∧ isAmount ceiling = true := by
  obtain ⟨_, howner, hceiling⟩ := bind_eq_ok h
  exact ⟨checkOwner_ok howner, checkAmount_ok hceiling⟩

theorem checkUpdates_amounts {updates : List (String × Float)} (h : checkUpdates updates = .ok ()) :
    ∀ u ∈ updates, isAmount u.2 = true := by
  induction updates with
  | nil => simp
  | cons u rest ih =>
    obtain ⟨_, hu, hrest⟩ := bind_eq_ok h
    exact List.forall_mem_cons.mpr ⟨checkAmount_ok hu, ih hrest⟩

theorem create_valid {owner : String} {ceiling : Float} {p : Policy}
    (h : Policy.create owner ceiling = .ok p) : p.Valid := by
  obtain ⟨_, howner, hrest⟩ := bind_eq_ok h
  obtain ⟨_, hceiling, hp⟩ := bind_eq_ok hrest
  cases hp
  exact ⟨checkOwner_ok howner, checkAmount_ok hceiling, isAmount_zero⟩

theorem made_valid {p : Policy} (h : p.Made) : p.Valid := by
  induction h with
  | create hp => exact create_valid hp
  | withAccrued _ hq ih =>
    obtain ⟨_, haccrued, hq⟩ := bind_eq_ok hq
    cases hq
    exact ⟨ih.owner, ih.ceiling, checkAmount_ok haccrued⟩

structure Sound (t : Policies) : Prop extends InOrder t where
  valid : ∀ e ∈ t.entries, e.2.Valid

namespace Sound

variable {t : Policies}

theorem empty : Sound Table.empty := ⟨InOrder.empty, by simp [Table.empty]⟩

theorem get_valid (h : Sound t) {owner : String} {p : Policy} (hp : t.get? owner = some p) : p.Valid :=
  h.valid (owner, p) (Table.mem_entries_of_get? hp)

theorem put (h : Sound t) {p : Policy} (hp : p.Valid) : Sound (t.put p.owner p) := by
  refine ⟨h.toInOrder.put p, fun e he => ?_⟩
  obtain rfl | he := Table.mem_place he
  · exact hp
  · exact h.valid e he

theorem write (h : Sound t) (owner : String) {accrued : Float} (ha : isAmount accrued = true)
    (time : Instant) : Sound (t.write owner accrued time) := by
  unfold Policies.write Table.modify
  cases hp : t.get? owner with
  | none => exact h
  | some p =>
    have hvalid : Policy.Valid { p with accrued, refreshedAt := some time } :=
      ⟨(h.get_valid hp).owner, (h.get_valid hp).ceiling, ha⟩
    obtain rfl := h.owner_of_get? hp
    exact h.put hvalid

theorem writeAll (time : Instant) {updates : List (String × Float)}
    (ha : ∀ u ∈ updates, isAmount u.2 = true) (h : Sound t) :
    Sound (Policies.writeAll time updates t).2 := by
  induction updates generalizing t with
  | nil => exact h
  | cons u rest ih =>
    obtain ⟨hu, hrest⟩ := List.forall_mem_cons.mp ha
    exact ih hrest (h.write u.1 hu time)

end Sound

theorem foldl_put_sound {ps : List Policy} (hps : ∀ p ∈ ps, p.Valid) {t : Policies} (h : Sound t) :
    Sound ((ps.map fun p => (p.owner, p)).foldl (fun t e => t.put e.1 e.2) t) := by
  induction ps generalizing t with
  | nil => exact h
  | cons p ps ih =>
    obtain ⟨hp, hrest⟩ := List.forall_mem_cons.mp hps
    exact ih hrest (h.put hp)

theorem ofPolicies_sound {seed : List Policy} (h : ∀ p ∈ seed, p.Made) : Sound (ofPolicies seed) :=
  foldl_put_sound (fun p hp => made_valid (h p hp)) Sound.empty

theorem setCeiling_sound {t : Policies} (h : Sound t) (owner : String) (ceiling : Float) :
    Sound (t.setCeiling owner ceiling).2 := by
  unfold setCeiling
  cases hc : checkCeiling owner ceiling with
  | error e => exact h
  | ok u =>
    obtain ⟨howner, hceiling⟩ := checkCeiling_ok hc
    cases hp : t.get? owner with
    | none =>
      have hvalid : Policy.Valid ⟨owner, ceiling, 0.0, none⟩ := ⟨howner, hceiling, isAmount_zero⟩
      exact h.put hvalid
    | some p =>
      have hvalid : Policy.Valid { p with ceiling } :=
        ⟨(h.get_valid hp).owner, hceiling, (h.get_valid hp).accrued⟩
      obtain rfl := h.owner_of_get? hp
      exact h.put hvalid

theorem ensureOwner_sound {t : Policies} (h : Sound t) (owner : String) (ceiling : Float) :
    Sound (t.ensureOwner owner ceiling).2 := by
  unfold ensureOwner
  cases t.get? owner with
  | some p => exact h
  | none =>
    cases hp : Policy.create owner ceiling with
    | error e => exact h
    | ok p =>
      have hput := h.put (create_valid hp)
      rwa [create_ok hp] at hput ⊢

theorem replaceAccrued_sound {t : Policies} (h : Sound t) (owner : String) (accrued : Float)
    (time : Instant) : Sound (t.replaceAccrued owner accrued time).2 := by
  unfold replaceAccrued
  cases hc : checkAmount .accrued accrued with
  | error e => exact h
  | ok u => exact h.write owner (checkAmount_ok hc) time

theorem replaceAll_sound {t : Policies} (h : Sound t) (updates : List (String × Float))
    (time : Instant) : Sound (t.replaceAll updates time).2 := by
  unfold replaceAll
  cases hc : checkUpdates updates with
  | error e => exact h
  | ok u => exact h.writeAll time (checkUpdates_amounts hc)

section

variable {t : Policies} {owner : String} {ceiling accrued : Float} {time : Instant}

theorem ensureOwner_error {e : BudgetError} (h : (t.ensureOwner owner ceiling).1 = .error e) :
    (t.ensureOwner owner ceiling).2 = t := by
  unfold ensureOwner at h ⊢
  cases hp : t.get? owner with
  | some p => rfl
  | none =>
    cases hc : Policy.create owner ceiling with
    | error e => rfl
    | ok p => simp [hp, hc] at h

theorem ensureOwner_ok {created : Bool} (h : (t.ensureOwner owner ceiling).1 = .ok created) :
    ((∃ p, t.get? owner = some p) ∧ (t.ensureOwner owner ceiling).2 = t) ∨
      (t.get? owner = none ∧
        (t.ensureOwner owner ceiling).2 = t.put owner ⟨owner, ceiling, 0.0, none⟩) := by
  unfold ensureOwner at h ⊢
  cases hp : t.get? owner with
  | some p => exact Or.inl ⟨⟨p, rfl⟩, rfl⟩
  | none =>
    cases hc : Policy.create owner ceiling with
    | error e => simp [hp, hc] at h
    | ok p => exact Or.inr ⟨rfl, by rw [create_ok hc]⟩

theorem replaceAccrued_error {e : BudgetError} (h : (t.replaceAccrued owner accrued time).1 = .error e) :
    (t.replaceAccrued owner accrued time).2 = t := by
  unfold replaceAccrued at h ⊢
  cases hc : checkAmount .accrued accrued with
  | error e => rfl
  | ok u => simp [hc] at h

theorem replaceAccrued_ok {earlier : Option Float}
    (h : (t.replaceAccrued owner accrued time).1 = .ok earlier) :
    (t.replaceAccrued owner accrued time).2 = t.write owner accrued time := by
  unfold replaceAccrued at h ⊢
  cases hc : checkAmount .accrued accrued with
  | error e => simp [hc] at h
  | ok u => rfl

variable {α β : Type} {f : α → β} {r : Except BudgetError α × Policies}

theorem answered_error {e : StoreError} (h : ((refused id r).map (Except.map f) id).1 = .error e) :
    ∃ e₀, r.1 = .error e₀ := by
  obtain ⟨e₀, h₀, -⟩ := mapError_eq_error (map_eq_error_iff.mp h)
  exact ⟨e₀, h₀⟩

theorem answered_ok {answer : β} (h : ((refused id r).map (Except.map f) id).1 = .ok answer) :
    ∃ a, r.1 = .ok a := by
  obtain ⟨a, ha, -⟩ := map_eq_ok h
  exact ⟨a, mapError_eq_ok ha⟩

end

end Policies

namespace StoreCall

open Policies

theorem perform_sound {t : Policies} (h : Sound t) (call : StoreCall) : Sound (call.perform t).2 := by
  cases call with
  | get owner => exact h
  | list => exact h
  | setCeiling owner ceiling => exact setCeiling_sound h owner ceiling
  | ensureOwner owner ceiling => exact ensureOwner_sound h owner ceiling
  | replaceAccrued owner accrued time => exact replaceAccrued_sound h owner accrued time
  | replaceAll updates time => exact replaceAll_sound h updates time

def run (t : Policies) (calls : List StoreCall) : Policies :=
  calls.foldl (fun t call => (call.perform t).2) t

theorem run_sound {t : Policies} (h : Sound t) (calls : List StoreCall) : Sound (run t calls) := by
  induction calls generalizing t with
  | nil => exact h
  | cons call rest ih => exact ih (perform_sound h call)

theorem perform_failed {t : Policies} {call : StoreCall} {e : StoreError}
    (h : (call.perform t).1 = .error e) : (call.perform t).2 = t := by
  cases call with
  | get owner => rfl
  | list => rfl
  | setCeiling owner ceiling =>
    obtain ⟨e₀, h₀⟩ := answered_error h
    exact setCeiling_error h₀
  | ensureOwner owner ceiling =>
    obtain ⟨e₀, h₀⟩ := answered_error h
    exact ensureOwner_error h₀
  | replaceAccrued owner accrued time =>
    obtain ⟨e₀, h₀⟩ := answered_error h
    exact replaceAccrued_error h₀
  | replaceAll updates time =>
    obtain ⟨e₀, h₀⟩ := answered_error h
    exact replaceAll_error h₀

/-- The policy of an owner after a call that succeeds. -/
def leaves (owner : String) (before : Option Policy) : StoreCall → Option Policy
  | .get _ | .list => before
  | .setCeiling o ceiling =>
    if owner = o then some { before.getD ⟨owner, ceiling, 0.0, none⟩ with ceiling } else before
  | .ensureOwner o ceiling =>
    if owner = o then before.or (some ⟨owner, ceiling, 0.0, none⟩) else before
  | .replaceAccrued o accrued time =>
    if owner = o then before.map (spent time (some accrued)) else before
  | .replaceAll updates time => before.map (spent time (lastFor owner updates))

theorem get?_perform {t : Policies} {call : StoreCall} {answer : StoreAnswer}
    (h : (call.perform t).1 = .ok answer) (owner : String) :
    (call.perform t).2.get? owner = call.leaves owner (t.get? owner) := by
  cases call with
  | get o => rfl
  | list => rfl
  | setCeiling o ceiling =>
    obtain ⟨p, hp⟩ := answered_ok h
    obtain ⟨ht, hcases⟩ := setCeiling_ok hp
    have hafter : ((setCeiling o ceiling).perform t).2 = t.put o p := ht
    rw [hafter, Table.get?_put, leaves]
    by_cases ho : owner = o
    · subst ho
      obtain ⟨p₀, hp₀, rfl⟩ | ⟨hnone, rfl⟩ := hcases
      · simp [hp₀]
      · simp [hnone]
    · simp only [ho, if_false]
  | ensureOwner o ceiling =>
    obtain ⟨created, hcreated⟩ := answered_ok h
    rw [leaves]
    obtain ⟨⟨p, hp⟩, ht⟩ | ⟨hnone, ht⟩ := ensureOwner_ok hcreated
    · have hafter : ((ensureOwner o ceiling).perform t).2 = t := ht
      rw [hafter]
      by_cases ho : owner = o
      · subst ho
        simp [hp]
      · simp only [ho, if_false]
    · have hafter : ((ensureOwner o ceiling).perform t).2 = t.put o ⟨o, ceiling, 0.0, none⟩ := ht
      rw [hafter, Table.get?_put]
      by_cases ho : owner = o
      · subst ho
        simp [hnone]
      · simp only [ho, if_false]
  | replaceAccrued o accrued time =>
    obtain ⟨earlier, hearlier⟩ := answered_ok h
    have hafter : ((replaceAccrued o accrued time).perform t).2 = t.write o accrued time :=
      replaceAccrued_ok hearlier
    rw [hafter, write, Table.get?_modify, leaves]
    by_cases ho : owner = o
    · subst ho
      rfl
    · simp only [ho, if_false]
  | replaceAll updates time =>
    obtain ⟨count, hcount⟩ := answered_ok h
    have hafter : ((replaceAll updates time).perform t).2 = (writeAll time updates t).2 :=
      replaceAll_ok hcount
    rw [hafter, get?_writeAll, leaves]

def names : StoreCall → List String
  | .get _ | .list => []
  | .setCeiling owner _ | .ensureOwner owner _ | .replaceAccrued owner _ _ => [owner]
  | .replaceAll updates _ => updates.map (·.1)

def isCeiling : StoreCall → Bool
  | .setCeiling _ _ | .ensureOwner _ _ => true
  | _ => false

def isSpending : StoreCall → Bool
  | .replaceAccrued _ _ _ | .replaceAll _ _ => true
  | _ => false

/-- What a call may do to the policy of an owner: nothing if it does not name the owner, and never
take it away; a call about ceilings can change the ceiling alone, one about spending cannot change
the ceiling and makes no policy, and to ensure an owner changes no policy. -/
structure Confined (call : StoreCall) (owner : String) (before after : Option Policy) : Prop where
  named : owner ∉ call.names → after = before
  kept : ∀ p, before = some p → ∃ q, after = some q
  ceilings : call.isCeiling = true → ∀ p q, before = some p → after = some q →
    q = { p with ceiling := q.ceiling }
  spending : call.isSpending = true → ∀ q, after = some q →
    ∃ p, before = some p ∧ q = { p with accrued := q.accrued, refreshedAt := q.refreshedAt }
  ensured : ∀ o ceiling, call = .ensureOwner o ceiling → ∀ p, before = some p → after = some p

theorem spent_spending (time : Instant) (amount : Option Float) (p : Policy) :
    spent time amount p =
      { p with accrued := (spent time amount p).accrued
               refreshedAt := (spent time amount p).refreshedAt } := by
  cases amount <;> rfl

theorem lastFor_eq_none {owner : String} {updates : List (String × Float)}
    (h : owner ∉ updates.map (·.1)) : lastFor owner updates = none := by
  induction updates with
  | nil => rfl
  | cons u rest ih =>
    rw [List.map_cons, List.mem_cons, not_or] at h
    simp [lastFor, ih h.2, Ne.symm h.1]

theorem confined_map_spent {call : StoreCall} {owner : String} {before : Option Policy}
    (hcall : call.isSpending = true) (time : Instant) (amount : Option Float)
    (hnamed : owner ∉ call.names → amount = none) :
    Confined call owner before (before.map (spent time amount)) where
  named h := by rw [hnamed h, spent_none, Option.map_id_apply]
  kept := by
    rintro p rfl
    exact ⟨_, rfl⟩
  ceilings := by cases call <;> simp_all [isCeiling, isSpending]
  spending := by
    intro _ q hq
    obtain ⟨p, hp, rfl⟩ := Option.map_eq_some_iff.mp hq
    exact ⟨p, hp, spent_spending time amount p⟩
  ensured := by
    rintro o ceiling rfl
    cases hcall

theorem confined_self {call : StoreCall} {owner : String} (policy : Option Policy) :
    Confined call owner policy policy where
  named _ := rfl
  kept p hp := ⟨p, hp⟩
  ceilings := by
    rintro - p q rfl hq
    cases hq
    rfl
  spending _ q hq := ⟨q, hq, rfl⟩
  ensured _ _ _ p hp := hp

theorem confined_setCeiling (owner : String) (ceiling : Float) (before : Option Policy) :
    Confined (.setCeiling owner ceiling) owner before
      (some { before.getD ⟨owner, ceiling, 0.0, none⟩ with ceiling }) where
  named h := absurd (List.mem_singleton.mpr rfl) h
  kept _ _ := ⟨_, rfl⟩
  ceilings := by
    rintro - p q rfl hq
    cases hq
    rfl
  spending h := nomatch h
  ensured _ _ h := nomatch h

theorem confined_ensureOwner (owner : String) (ceiling : Float) (before : Option Policy) :
    Confined (.ensureOwner owner ceiling) owner before
      (before.or (some ⟨owner, ceiling, 0.0, none⟩)) where
  named h := absurd (List.mem_singleton.mpr rfl) h
  kept := by
    rintro p rfl
    exact ⟨p, rfl⟩
  ceilings := by
    rintro - p q rfl hq
    cases hq
    rfl
  spending h := nomatch h
  ensured := by
    rintro - - - p rfl
    rfl

theorem leaves_confined (call : StoreCall) (owner : String) (before : Option Policy) :
    Confined call owner before (call.leaves owner before) := by
  cases call with
  | get o => exact confined_self before
  | list => exact confined_self before
  | setCeiling o ceiling =>
    rw [leaves]
    split_ifs with ho
    · subst ho
      exact confined_setCeiling owner ceiling before
    · exact confined_self before
  | ensureOwner o ceiling =>
    rw [leaves]
    split_ifs with ho
    · subst ho
      exact confined_ensureOwner owner ceiling before
    · exact confined_self before
  | replaceAccrued o accrued time =>
    rw [leaves]
    split_ifs with ho
    · subst ho
      exact confined_map_spent rfl time _ fun h => absurd (List.mem_singleton.mpr rfl) h
    · exact confined_self before
  | replaceAll updates time => exact confined_map_spent rfl time _ lastFor_eq_none

theorem pairwise_owners {t : Policies} (h : InOrder t) :
    t.values.Pairwise fun p q => p.owner < q.owner := by
  refine List.pairwise_map.mpr (h.sorted.imp_of_mem fun {e e'} he he' hlt => ?_)
  rw [h.filed e he, h.filed e' he']
  exact hlt

theorem mergeSort_owners {ps qs : List Policy} (h : ps.Pairwise fun p q => p.owner < q.owner)
    (hperm : qs.Perm ps) : qs.mergeSort (fun p q => p.owner ≤ q.owner) = ps := by
  have htrans : ∀ p q r : Policy, decide (p.owner ≤ q.owner) = true →
      decide (q.owner ≤ r.owner) = true → decide (p.owner ≤ r.owner) = true :=
    fun p q r hpq hqr => decide_eq_true ((of_decide_eq_true hpq).trans (of_decide_eq_true hqr))
  have htotal : ∀ p q : Policy, (decide (p.owner ≤ q.owner) || decide (q.owner ≤ p.owner)) = true := by
    simpa using fun p q : Policy => le_total p.owner q.owner
  have hsorted := List.pairwise_mergeSort htrans htotal qs
  have hps := h.imp fun hlt => decide_eq_true hlt.le
  have hmerged := (List.mergeSort_perm qs fun p q => p.owner ≤ q.owner).trans hperm
  have hnodup : (ps.map Policy.owner).Nodup := List.pairwise_map.mpr (h.imp ne_of_lt)
  refine List.Perm.eq_of_pairwise (fun p q hp hq hpq hqp => ?_) hsorted hps hmerged
  -- policies of one owner need not be the same, but none of these share their owner
  have howner := (of_decide_eq_true hpq).antisymm (of_decide_eq_true hqp)
  exact List.inj_on_of_nodup_map hnodup (hmerged.mem_iff.mp hp) hq howner

/-- Whatever calls are made of policies in memory that were made properly, all of them stay well
formed and filed under their owners; the listing has each of them once, in ascending order of the
owners, as sorting makes it of the policies in any order, and is what look-ups find; a call that
fails changes nothing, and one that succeeds leaves to each owner the policy that it should and
changes nothing but the owners and the fields that it names. -/
theorem calls_keep_policies_sound (seed : List Policy) (hseed : ∀ p ∈ seed, p.Made)
    (calls : List StoreCall) :
    let t := run (ofPolicies seed) calls
    t.Sound ∧
      (∃ ps, BudgetStore.list t = .ok ps ∧ ps.Pairwise (fun p q => p.owner < q.owner) ∧
        (∀ qs : List Policy, qs.Perm ps → qs.mergeSort (fun p q => p.owner ≤ q.owner) = ps) ∧
        ∀ owner p, BudgetStore.get t owner = .ok (some p) ↔ p ∈ ps ∧ p.owner = owner) ∧
      ∀ call : StoreCall,
        (∀ e, (call.perform t).1 = .error e → (call.perform t).2 = t) ∧
          ∀ answer, (call.perform t).1 = .ok answer → ∀ owner,
            (call.perform t).2.get? owner = call.leaves owner (t.get? owner) ∧
              Confined call owner (t.get? owner) ((call.perform t).2.get? owner) := by
  intro t
  have hsound : t.Sound := run_sound (ofPolicies_sound hseed) calls
  have howners := pairwise_owners hsound.toInOrder
  refine ⟨hsound, ⟨t.values, rfl, howners, fun qs => mergeSort_owners howners, fun owner p => ?_⟩,
    fun call => ⟨fun e => perform_failed, fun answer h owner => ?_⟩⟩
  · rw [hsound.mem_values_iff]
    constructor
    · intro hget
      have hp : t.get? owner = some p := Except.ok.inj hget
      obtain rfl := hsound.owner_of_get? hp
      exact ⟨hp, rfl⟩
    · rintro ⟨hp, rfl⟩
      exact congrArg Except.ok hp
  · have hafter := get?_perform h owner
    refine ⟨hafter, ?_⟩
    rw [hafter]
    exact leaves_confined call owner (t.get? owner)

def twoPolicies : List Policy := [⟨"alice", 10.0, 4.0, none⟩, ⟨"bob", 5.0, 0.0, none⟩]

theorem twoPolicies_made : ∀ p ∈ twoPolicies, p.Made := by
  have halice : Policy.Made ⟨"alice", 10.0, 0.0, none⟩ :=
    .create (show Policy.create "alice" 10.0 = _ by decide +kernel)
  have hspent : Policy.Made ⟨"alice", 10.0, 4.0, none⟩ :=
    .withAccrued halice (show Policy.withAccrued _ 4.0 = _ by decide +kernel)
  have hbob : Policy.Made ⟨"bob", 5.0, 0.0, none⟩ :=
    .create (show Policy.create "bob" 5.0 = _ by decide +kernel)
  exact List.forall_mem_cons.mpr ⟨hspent, List.forall_mem_singleton.mpr hbob⟩

def mixedCalls : List StoreCall :=
  [.setCeiling " " 1.0, .ensureOwner "carol" 7.0, .ensureOwner "alice" 99.0,
    .replaceAll [("bob", 1.0), ("alice", 0.0 / 0.0)] ⟨1, 0⟩,
    .replaceAll [("bob", 1.0), ("ghost", 2.0), ("bob", 3.0)] ⟨2, 0⟩, .setCeiling "bob" 8.0]

theorem mixed_calls_keep_two_policies :
    (∀ p ∈ twoPolicies, p.Made) ∧ (run (ofPolicies twoPolicies) mixedCalls).Sound ∧
      (run (ofPolicies twoPolicies) mixedCalls).values =
        [⟨"alice", 10.0, 4.0, none⟩, ⟨"bob", 8.0, 3.0, some ⟨2, 0⟩⟩, ⟨"carol", 7.0, 0.0, none⟩] :=
  ⟨twoPolicies_made, (calls_keep_policies_sound twoPolicies twoPolicies_made mixedCalls).1,
    by decide +kernel⟩

end StoreCall

end CloudDesk
