import CloudDesk.Proofs.Budget.Store
import Mathlib.Data.List.Nodup
import Mathlib.Data.List.Perm.Basic

namespace CloudDesk

def NoAmount (x : Float) : Prop := x.isFinite = false ∨ x < 0.0

instance (x : Float) : Decidable (NoAmount x) := inferInstanceAs (Decidable (_ ∨ _))

theorem le_iff_unpack (x y : Float) : x ≤ y ↔ x.toModel.unpack.le y.toModel.unpack = true :=
  decide_eq_true_iff

theorem lt_iff_unpack (x y : Float) : x < y ↔ x.toModel.unpack.lt y.toModel.unpack = true :=
  decide_eq_true_iff

theorem isAmount_eq_false_iff (x : Float) : isAmount x = false ↔ NoAmount x := by
  have hzero : (0.0 : Float).toModel.unpack = .zero .positive := rfl
  have hfinite : x.isFinite = x.toModel.unpack.isFinite := rfl
  rw [← Bool.not_eq_true, isAmount, Bool.and_eq_true, decide_eq_true_iff, NoAmount, hfinite,
    le_iff_unpack, lt_iff_unpack, hzero]
  cases x.toModel.unpack with
  | notANumber => decide
  | infinity s => cases s <;> decide
  | zero s => cases s <;> decide
  | finite s m e hm =>
    cases s with
    | positive => exact iff_of_false (fun h => h ⟨rfl, rfl⟩) (by rintro (h | h) <;> cases h)
    | negative => exact iff_of_true (fun h => nomatch h.2) (.inr rfl)

theorem isAmount_eq_true_iff (x : Float) : isAmount x = true ↔ ¬ NoAmount x := by
  rw [← isAmount_eq_false_iff, Bool.not_eq_false]

namespace Policies

theorem checkUpdates_eq (updates : List (String × Float)) :
    checkUpdates updates =
      match updates.find? fun u => NoAmount u.2 with
      | some u => .error (.invalidAmount .accrued u.2)
      | none => .ok () := by
  induction updates with
  | nil => rfl
  | cons u rest ih =>
    by_cases hu : NoAmount u.2
    · rw [List.find?_cons_of_pos (by simpa using hu)]
      simp only [checkUpdates, checkAmount, (isAmount_eq_false_iff u.2).mpr hu]
      rfl
    · rw [List.find?_cons_of_neg (by simpa using hu), ← ih]
      simp only [checkUpdates, checkAmount, (isAmount_eq_true_iff u.2).mpr hu, if_true]
      rfl

theorem contains_writeAll (time : Instant) (updates : List (String × Float)) (t : Policies)
    (owner : String) : (writeAll time updates t).2.contains owner = t.contains owner := by
  rw [Table.contains, get?_writeAll, Option.isSome_map, Table.contains]

theorem contains_write (t : Policies) (owner : String) (accrued : Float) (time : Instant)
    (other : String) : (t.write owner accrued time).contains other = t.contains other :=
  contains_writeAll time [(owner, accrued)] t other

theorem writeAll_count (time : Instant) (updates : List (String × Float)) (t : Policies) :
    (writeAll time updates t).1 = updates.countP fun u => t.contains u.1 := by
  induction updates generalizing t with
  | nil => rfl
  | cons u rest ih =>
    simp only [writeAll, ih, contains_write, List.countP_cons]
    exact Nat.add_comm _ _

theorem writeAll_sorted (time : Instant) (updates : List (String × Float)) {t : Policies}
    (h : t.Sorted) : (writeAll time updates t).2.Sorted := by
  induction updates generalizing t with
  | nil => exact h
  | cons u rest ih => exact ih (h.modify u.1 _)

/-- One by one, updates of amounts leave behind what they do in one batch. -/
theorem foldl_replaceAccrued (time : Instant) {updates : List (String × Float)}
    (h : ∀ u ∈ updates, ¬ NoAmount u.2) (t : Policies) :
    updates.foldl (fun t u => (BudgetStore.replaceAccrued t u.1 u.2 time).2) t =
      (writeAll time updates t).2 := by
  induction updates generalizing t with
  | nil => rfl
  | cons u rest ih =>
    obtain ⟨hu, hrest⟩ := List.forall_mem_cons.mp h
    have hfirst : (BudgetStore.replaceAccrued t u.1 u.2 time).2 = t.write u.1 u.2 time := by
      simp only [BudgetStore.replaceAccrued, refused, replaceAccrued, checkAmount,
        (isAmount_eq_true_iff u.2).mpr hu, if_true]
      rfl
    rw [List.foldl_cons, hfirst]
    exact ih hrest _

theorem lastFor_mem {owner : String} {amount : Float} {updates : List (String × Float)}
    (h : lastFor owner updates = some amount) : (owner, amount) ∈ updates := by
  induction updates with
  | nil => cases h
  | cons u rest ih =>
    rw [lastFor, Option.or_eq_some_iff] at h
    obtain h | ⟨-, h⟩ := h
    · exact List.mem_cons_of_mem _ (ih h)
    · split_ifs at h with ho
      cases h
      cases ho
      exact List.mem_cons_self

theorem lastFor_isSome {u : String × Float} {updates : List (String × Float)} (h : u ∈ updates) :
    (lastFor u.1 updates).isSome = true := by
  induction updates with
  | nil => cases h
  | cons v rest ih =>
    rw [lastFor, Option.isSome_or]
    obtain rfl | h := List.mem_cons.mp h
    · simp
    · rw [ih h, Bool.true_or]

theorem lastFor_perm {us vs : List (String × Float)} (hperm : vs.Perm us)
    (hnodup : (us.map Prod.fst).Nodup) (owner : String) : lastFor owner vs = lastFor owner us := by
  have honly : ∀ ws : List (String × Float), ws.Perm us → ∀ amount,
      lastFor owner ws = some amount ↔ (owner, amount) ∈ us := by
    intro ws hws amount
    refine ⟨fun h => hws.mem_iff.mp (lastFor_mem h), fun h => ?_⟩
    obtain ⟨amount', hlast⟩ := Option.isSome_iff_exists.mp (lastFor_isSome (hws.mem_iff.mpr h))
    have hmem := hws.mem_iff.mp (lastFor_mem hlast)
    rw [hlast, (Prod.mk.inj (List.inj_on_of_nodup_map hnodup hmem h rfl)).2]
  exact Option.ext fun amount => (honly vs hperm amount).trans (honly us (.refl us) amount).symm

section

variable {t : Policies} {updates : List (String × Float)} {time : Instant}

theorem replaceAll_refused {u : String × Float}
    (h : updates.find? (fun u => NoAmount u.2) = some u) :
    BudgetStore.replaceAll t updates time =
      (.error (.invalid (.invalidAmount .accrued u.2)), t) := by
  have hcheck : checkUpdates updates = .error (.invalidAmount .accrued u.2) := by
    rw [checkUpdates_eq, h]
  simp only [BudgetStore.replaceAll, refused, replaceAll, hcheck]
  rfl

theorem replaceAll_written (h : ∀ u ∈ updates, ¬ NoAmount u.2) :
    BudgetStore.replaceAll t updates time =
      (.ok (updates.countP fun u => t.contains u.1), (writeAll time updates t).2) := by
  have hamounts : ∀ u ∈ updates, isAmount u.2 = true := fun u hu =>
    (isAmount_eq_true_iff u.2).mpr (h u hu)
  simp only [BudgetStore.replaceAll, refused, replaceAll_of_amounts t time hamounts, writeAll_count]
  rfl

theorem replaceAll_perm (h : t.Sorted) (hnodup : (updates.map Prod.fst).Nodup)
    {updates' : List (String × Float)} (hperm : updates'.Perm updates) :
    (BudgetStore.replaceAll t updates' time).2 = (BudgetStore.replaceAll t updates time).2 := by
  by_cases hall : ∀ u ∈ updates, ¬ NoAmount u.2
  · have hall' : ∀ u ∈ updates', ¬ NoAmount u.2 := fun u hu => hall u (hperm.mem_iff.mp hu)
    rw [replaceAll_written hall, replaceAll_written hall']
    refine (writeAll_sorted time updates' h).ext (writeAll_sorted time updates h) fun owner => ?_
    rw [get?_writeAll, get?_writeAll, lastFor_perm hperm hnodup]
  · have hrefused : ∀ us : List (String × Float), us.Perm updates →
        (BudgetStore.replaceAll t us time).2 = t := by
      intro us hus
      cases hfind : us.find? fun u => NoAmount u.2 with
      | some u => rw [replaceAll_refused hfind]
      | none =>
        refine absurd (fun u hu => ?_) hall
        simpa using List.find?_eq_none.mp hfind u (hus.mem_iff.mpr hu)
    rw [hrefused updates' hperm, hrefused updates (.refl updates)]

end

/-- A batch fails with its first amount that is none, and nothing is written then, whether or not
the owner has a policy. Any other batch writes to each policy the last amount that it has for the
owner, and nothing else, and counts its updates of owners who have a policy; the same is left behind
by its updates one by one. If no owner is repeated, the order of the updates does not matter. -/
theorem batch_is_one_unit {t : Policies} (h : t.Sorted) (updates : List (String × Float))
    (time : Instant) :
    (∀ u, updates.find? (fun u => NoAmount u.2) = some u →
      BudgetStore.replaceAll t updates time =
        (.error (.invalid (.invalidAmount .accrued u.2)), t)) ∧
    ((∀ u ∈ updates, ¬ NoAmount u.2) →
      ∃ t', BudgetStore.replaceAll t updates time =
          (.ok (updates.countP fun u => t.contains u.1), t') ∧
        (∀ owner, t'.get? owner = (t.get? owner).map (spent time (lastFor owner updates))) ∧
        t'.names = t.names ∧
        t' = updates.foldl (fun t u => (BudgetStore.replaceAccrued t u.1 u.2 time).2) t) ∧
    ((updates.map Prod.fst).Nodup → ∀ updates' : List (String × Float), updates'.Perm updates →
      (BudgetStore.replaceAll t updates' time).2 = (BudgetStore.replaceAll t updates time).2) := by
  refine ⟨fun u hu => replaceAll_refused hu, fun hall => ?_,
    fun hnodup updates' hperm => replaceAll_perm h hnodup hperm⟩
  refine ⟨_, replaceAll_written hall, fun owner => get?_writeAll time updates t owner, ?_,
    (foldl_replaceAccrued time hall t).symm⟩
  refine (writeAll_sorted time updates h).names_eq h.names_pairwise fun name => ?_
  rw [t.mem_names_iff, contains_writeAll]

def twoPolicies : Policies :=
  .ofPolicies [⟨"alice", 100.0, 5.0, none⟩, ⟨"bob", 100.0, 6.0, none⟩]

/-- A stranger in a batch is passed over, unless the amount is none, and of two amounts for one
owner the last one stays. -/
theorem stranger_and_repeat_in_batch :
    twoPolicies.Sorted ∧
      (BudgetStore.replaceAll twoPolicies [("alice", 10.0), ("ghost", 1.0), ("alice", 12.0)] ⟨9, 0⟩).1 =
        .ok 2 ∧
      (BudgetStore.replaceAll twoPolicies [("alice", 10.0), ("ghost", 1.0), ("alice", 12.0)]
        ⟨9, 0⟩).2.get? "alice" = some ⟨"alice", 100.0, 12.0, some ⟨9, 0⟩⟩ ∧
      BudgetStore.replaceAll twoPolicies [("alice", 10.0), ("ghost", -1.0), ("bob", -2.0)] ⟨9, 0⟩ =
        (.error (.invalid (.invalidAmount .accrued (-1.0))), twoPolicies) := by
  have hsorted : twoPolicies.Sorted := (ofPolicies_inOrder _).sorted
  obtain ⟨-, hwritten, -⟩ :=
    batch_is_one_unit hsorted [("alice", 10.0), ("ghost", 1.0), ("alice", 12.0)] ⟨9, 0⟩
  obtain ⟨hrefused, -, -⟩ :=
    batch_is_one_unit hsorted [("alice", 10.0), ("ghost", -1.0), ("bob", -2.0)] ⟨9, 0⟩
  obtain ⟨t', ht', hread, -⟩ := hwritten (by decide +kernel)
  rw [ht']
  exact ⟨hsorted, rfl, (hread "alice").trans (by decide +kernel),
    hrefused ("ghost", -1.0) (by decide +kernel)⟩

end Policies

end CloudDesk
