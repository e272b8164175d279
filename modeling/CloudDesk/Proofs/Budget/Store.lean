import CloudDesk.Budget.Database
import CloudDesk.Proofs.Except
import CloudDesk.Proofs.Table

namespace CloudDesk

open Text

namespace Policies

structure InOrder (t : Policies) : Prop where
  sorted : t.Sorted
  filed : ∀ e ∈ t.entries, e.2.owner = e.1

namespace InOrder

theorem empty : InOrder Table.empty := ⟨Table.sorted_empty, by simp [Table.empty]⟩

theorem put {t : Policies} (h : InOrder t) (p : Policy) : InOrder (t.put p.owner p) := by
  refine ⟨h.sorted.put p.owner p, fun e he => ?_⟩
  obtain rfl | he := Table.mem_place he
  · rfl
  · exact h.filed e he

theorem owner_of_get? {t : Policies} (h : InOrder t) {owner : String} {p : Policy}
    (hp : t.get? owner = some p) : p.owner = owner :=
  h.filed (owner, p) (Table.mem_entries_of_get? hp)

theorem modify {t : Policies} (h : InOrder t) (owner : String) (f : Policy → Policy)
    (hf : ∀ p, (f p).owner = p.owner) : InOrder (t.modify owner f) := by
  unfold Table.modify
  cases hp : t.get? owner with
  | none => exact h
  | some p =>
    have ho : (f p).owner = owner := (hf p).trans (h.owner_of_get? hp)
    have hput := h.put (f p)
    rwa [ho] at hput

theorem mem_values_iff {t : Policies} (h : InOrder t) (p : Policy) :
    p ∈ t.values ↔ t.get? p.owner = some p := by
  rw [h.sorted.get?_eq_some_iff]
  constructor
  · intro hp
    obtain ⟨e, he, rfl⟩ := List.mem_map.mp hp
    rw [h.filed e he]
    exact he
  · exact fun hp => List.mem_map.mpr ⟨_, hp, rfl⟩

end InOrder

theorem foldl_put_inOrder (ps : List Policy) (t : Policies) (h : InOrder t) :
    InOrder ((ps.map fun p => (p.owner, p)).foldl (fun t e => t.put e.1 e.2) t) := by
  induction ps generalizing t with
  | nil => exact h
  | cons p ps ih => exact ih _ (h.put p)

theorem ofPolicies_inOrder (ps : List Policy) : InOrder (ofPolicies ps) :=
  foldl_put_inOrder ps _ InOrder.empty

theorem setCeiling_error {t : Policies} {owner : String} {ceiling : Float} {e : BudgetError}
    (h : (t.setCeiling owner ceiling).1 = .error e) : (t.setCeiling owner ceiling).2 = t := by
  unfold setCeiling at h ⊢
  cases hc : checkCeiling owner ceiling with
  | error e => rfl
  | ok u => simp [hc] at h

theorem setCeiling_ok {t : Policies} {owner : String} {ceiling : Float} {p : Policy}
    (h : (t.setCeiling owner ceiling).1 = .ok p) :
    (t.setCeiling owner ceiling).2 = t.put owner p ∧
      ((∃ p₀, t.get? owner = some p₀ ∧ p = { p₀ with ceiling }) ∨
        (t.get? owner = none ∧ p = ⟨owner, ceiling, 0.0, none⟩)) := by
  unfold setCeiling at h ⊢
  cases hc : checkCeiling owner ceiling with
  | error e => simp [hc] at h
  | ok u =>
    cases hp : t.get? owner with
    | none =>
      simp only [hc, hp, Except.ok.injEq] at h ⊢
      exact ⟨by rw [h], Or.inr ⟨trivial, h.symm⟩⟩
    | some p₀ =>
      simp only [hc, hp, Except.ok.injEq] at h ⊢
      exact ⟨by rw [h], Or.inl ⟨p₀, rfl, h.symm⟩⟩

theorem create_ok {owner : String} {ceiling : Float} {p : Policy}
    (h : Policy.create owner ceiling = .ok p) : p = ⟨owner, ceiling, 0.0, none⟩ := by
  obtain ⟨-, -, h⟩ := bind_eq_ok h
  obtain ⟨-, -, h⟩ := bind_eq_ok h
  exact (Except.ok.inj h).symm

theorem ensureOwner_cases (t : Policies) (owner : String) (ceiling : Float) :
    (t.ensureOwner owner ceiling).2 = t ∨
      (t.get? owner = none ∧
        (t.ensureOwner owner ceiling).2 = t.put owner ⟨owner, ceiling, 0.0, none⟩) := by
  unfold ensureOwner
  cases hp : t.get? owner with
  | some p => exact Or.inl rfl
  | none =>
    cases hc : Policy.create owner ceiling with
    | error e => exact Or.inl rfl
    | ok p => exact Or.inr ⟨rfl, by rw [create_ok hc]⟩

theorem create_isOk (owner : String) (ceiling : Float) :
    (Policy.create owner ceiling).isOk = true ↔
      isAllBlank owner = false ∧ isAmount ceiling = true := by
  simp only [Policy.create, checkOwner, checkAmount]
  cases isAllBlank owner <;> cases isAmount ceiling <;>
    simp [bind, Except.bind, Except.isOk, Except.toBool]

theorem ensureOwner_isOk (t : Policies) (owner : String) (ceiling : Float) :
    (t.ensureOwner owner ceiling).1.isOk = true ↔
      t.contains owner = true ∨ (isAllBlank owner = false ∧ isAmount ceiling = true) := by
  rw [← create_isOk]
  unfold ensureOwner Table.contains
  cases t.get? owner with
  | some p => simp [Except.isOk, Except.toBool]
  | none =>
    cases Policy.create owner ceiling <;> simp [Except.isOk, Except.toBool]

theorem setCeiling_inOrder {t : Policies} (h : InOrder t) (owner : String) (ceiling : Float) :
    InOrder (t.setCeiling owner ceiling).2 := by
  cases hr : (t.setCeiling owner ceiling).1 with
  | error e =>
    rw [setCeiling_error hr]
    exact h
  | ok p =>
    obtain ⟨ht, hp⟩ := setCeiling_ok hr
    have ho : p.owner = owner := by
      obtain ⟨p₀, hp₀, rfl⟩ | ⟨-, rfl⟩ := hp
      · exact (h.owner_of_get? hp₀ :)
      · rfl
    have hput := h.put p
    rwa [ho, ← ht] at hput

theorem ensureOwner_inOrder {t : Policies} (h : InOrder t) (owner : String) (ceiling : Float) :
    InOrder (t.ensureOwner owner ceiling).2 := by
  obtain ht | ⟨-, ht⟩ := t.ensureOwner_cases owner ceiling
  · rw [ht]
    exact h
  · rw [ht]
    exact h.put ⟨owner, ceiling, 0.0, none⟩

def lastFor (owner : String) : List (String × Float) → Option Float
  | [] => none
  | (o, amount) :: rest => (lastFor owner rest).or (if o = owner then some amount else none)

theorem lastFor_append (owner : String) (us vs : List (String × Float)) :
    lastFor owner (us ++ vs) = (lastFor owner vs).or (lastFor owner us) := by
  induction us with
  | nil => simp [lastFor]
  | cons u rest ih => simp [lastFor, ih, Option.or_assoc]

theorem lastFor_map (owner : String) (owners : List String) (amount : String → Float) :
    lastFor owner (owners.map fun o => (o, amount o)) =
      if owner ∈ owners then some (amount owner) else none := by
  induction owners with
  | nil => simp [lastFor]
  | cons o rest ih =>
    by_cases hm : owner ∈ rest
    · simp [lastFor, ih, hm]
    · by_cases ho : o = owner
      · simp [lastFor, ih, hm, ho]
      · simp [lastFor, ih, hm, ho, Ne.symm ho]

def spent (time : Instant) (amount : Option Float) (p : Policy) : Policy :=
  match amount with
  | none => p
  | some accrued => { p with accrued, refreshedAt := some time }

theorem spent_none (time : Instant) : spent time none = id := rfl

theorem get?_writeAll (time : Instant) (updates : List (String × Float)) (t : Policies)
    (owner : String) :
    (writeAll time updates t).2.get? owner =
      (t.get? owner).map (spent time (lastFor owner updates)) := by
  induction updates generalizing t with
  | nil => simp [writeAll, lastFor, spent_none]
  | cons u rest ih =>
    obtain ⟨o, amount⟩ := u
    simp only [writeAll, ih, write, Table.get?_modify, lastFor]
    by_cases h : owner = o
    · subst h
      cases t.get? owner <;> cases lastFor owner rest <;> simp [spent]
    · simp [h, Ne.symm h]

theorem writeAll_inOrder (time : Instant) (updates : List (String × Float)) {t : Policies}
    (h : InOrder t) : InOrder (writeAll time updates t).2 := by
  induction updates generalizing t with
  | nil => exact h
  | cons u rest ih => exact ih (h.modify u.1 _ fun _ => rfl)

theorem replaceAll_error {t : Policies} {updates : List (String × Float)} {time : Instant}
    {e : BudgetError} (h : (t.replaceAll updates time).1 = .error e) :
    (t.replaceAll updates time).2 = t := by
  unfold replaceAll at h ⊢
  cases hc : checkUpdates updates with
  | error e => rfl
  | ok u => simp [hc] at h

theorem replaceAll_ok {t : Policies} {updates : List (String × Float)} {time : Instant} {n : Nat}
    (h : (t.replaceAll updates time).1 = .ok n) :
    (t.replaceAll updates time).2 = (writeAll time updates t).2 := by
  unfold replaceAll at h ⊢
  cases hc : checkUpdates updates with
  | error e => simp [hc] at h
  | ok u => rfl

theorem checkUpdates_ok {updates : List (String × Float)}
    (h : ∀ u ∈ updates, isAmount u.2 = true) : checkUpdates updates = .ok () := by
  induction updates with
  | nil => rfl
  | cons u rest ih =>
    have hrest := ih fun v hv => h v (List.mem_cons_of_mem u hv)
    simp only [checkUpdates, checkAmount, h u List.mem_cons_self, if_true, hrest]
    rfl

theorem replaceAll_of_amounts (t : Policies) {updates : List (String × Float)} (time : Instant)
    (h : ∀ u ∈ updates, isAmount u.2 = true) :
    t.replaceAll updates time =
      (.ok (writeAll time updates t).1, (writeAll time updates t).2) := by
  simp only [replaceAll, checkUpdates_ok h]

end Policies

theorem Store.replaceAll_memory {t : Policies} {updates : List (String × Float)} {time : Instant}
    {n : Nat} {store : Store}
    (h : BudgetStore.replaceAll (Store.memory t) updates time = (.ok n, store)) :
    store = .memory (Policies.writeAll time updates t).2 := by
  obtain ⟨hresult, hstore⟩ := Prod.mk.inj h
  have hm : (t.replaceAll updates time).1 = .ok n := mapError_eq_ok hresult
  rw [← Policies.replaceAll_ok hm]
  exact hstore.symm

def RefusesWhole (σ : Type) [BudgetStore σ] : Prop :=
  ∀ (store : σ) (updates : List (String × Float)) (time : Instant) (e : StoreError),
    (BudgetStore.replaceAll store updates time).1 = .error e →
      (BudgetStore.replaceAll store updates time).2 = store

theorem Policies.refusesWhole : RefusesWhole Policies := by
  intro t updates time e h
  obtain ⟨e₀, he, -⟩ := mapError_eq_error (r := (t.replaceAll updates time).1) h
  exact Policies.replaceAll_error he

theorem Store.replaceAll_memory_error {t : Policies} {updates : List (String × Float)} {time : Instant}
    {e : StoreError} (h : (BudgetStore.replaceAll (Store.memory t) updates time).1 = .error e) :
    (BudgetStore.replaceAll (Store.memory t) updates time).2 = .memory t :=
  congrArg Store.memory (Policies.refusesWhole t updates time e h)

end CloudDesk
