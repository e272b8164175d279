import CloudDesk.Billing.Snapshot
import CloudDesk.Proofs.Table
import Mathlib.Data.List.Dedup

namespace CloudDesk.Snapshot

variable {α : Type} [Zero α] [Add α]

def Entry.about : Entry α → String
  | .amount name _ _ => name
  | .owner name => name

omit [Zero α] [Add α] in
@[simp] theorem about_amount (owner kind : String) (value : α) :
    (Entry.amount owner kind value).about = owner := rfl

omit [Zero α] [Add α] in
@[simp] theorem about_owner (owner : String) : (Entry.owner owner : Entry α).about = owner := rfl

theorem contains_enter (s : Snapshot α) (e : Entry α) (owner : String) :
    (s.enter e).owners.contains owner = (decide (owner = e.about) || s.owners.contains owner) := by
  cases e with
  | amount o kind value => exact Table.contains_put s.owners o owner _
  | owner o => exact Table.contains_put s.owners o owner _

theorem contains_enterAll (s : Snapshot α) (es : List (Entry α)) (owner : String) :
    (s.enterAll es).owners.contains owner = true ↔
      s.owners.contains owner = true ∨ ∃ e ∈ es, e.about = owner := by
  induction es generalizing s with
  | nil => simp [enterAll]
  | cons e rest ih =>
    have h := ih (s.enter e)
    rw [contains_enter] at h
    simp only [enterAll, List.foldl_cons] at h ⊢
    rw [h]
    simp only [Bool.or_eq_true, decide_eq_true_eq, List.mem_cons, exists_eq_or_imp]
    rw [eq_comm, or_assoc, or_left_comm]

theorem enterAll_syncedAt (s : Snapshot α) (es : List (Entry α)) :
    (s.enterAll es).syncedAt = s.syncedAt := by
  induction es generalizing s with
  | nil => rfl
  | cons e rest ih =>
    apply (ih (s.enter e)).trans
    cases e <;> rfl

theorem enterAll_currency (s : Snapshot α) (es : List (Entry α)) :
    (s.enterAll es).currency = s.currency := by
  induction es generalizing s with
  | nil => rfl
  | cons e rest ih =>
    apply (ih (s.enter e)).trans
    cases e <;> rfl

theorem enterAll_sorted {s : Snapshot α} (h : s.owners.Sorted) (es : List (Entry α)) :
    (s.enterAll es).owners.Sorted := by
  induction es generalizing s with
  | nil => exact h
  | cons e rest ih =>
    apply ih
    cases e with
    | amount owner kind value => exact h.put owner _
    | owner owner => exact h.put owner _

def tally (t : Table α) (amounts : List (String × α)) : Table α :=
  amounts.foldl (fun t e => accumulate t e.1 e.2) t

omit [Zero α] [Add α] in
def amountsUnder (name : String) (amounts : List (String × α)) : List α :=
  (amounts.filter fun e => e.1 = name).map Prod.snd

omit [Zero α] [Add α] in
theorem amountsUnder_cons (name : String) (e : String × α) (amounts : List (String × α)) :
    amountsUnder name (e :: amounts) =
      if e.1 = name then e.2 :: amountsUnder name amounts else amountsUnder name amounts := by
  unfold amountsUnder
  by_cases h : e.1 = name <;> simp [h]

omit [Zero α] [Add α] in
theorem amountsUnder_eq_nil {name : String} {amounts : List (String × α)}
    (h : name ∉ amounts.map Prod.fst) : amountsUnder name amounts = [] := by
  rw [amountsUnder, List.map_eq_nil_iff, List.filter_eq_nil_iff]
  intro e he
  rw [decide_eq_true_eq]
  rintro rfl
  exact h (List.mem_map_of_mem he)

theorem tally_sorted {t : Table α} (h : t.Sorted) (amounts : List (String × α)) :
    (tally t amounts).Sorted := by
  induction amounts generalizing t with
  | nil => exact h
  | cons e rest ih => exact ih (h.put e.1 _)

theorem get?_tally (t : Table α) (amounts : List (String × α)) (name : String) :
    (tally t amounts).get? name =
      if name ∈ amounts.map Prod.fst then
        some ((amountsUnder name amounts).foldl (· + ·) ((t.get? name).getD 0))
      else t.get? name := by
  induction amounts generalizing t with
  | nil => rfl
  | cons e rest ih =>
    have hstep : tally t (e :: rest) = tally (accumulate t e.1 e.2) rest := rfl
    rw [hstep, ih, accumulate, Table.get?_put, amountsUnder_cons]
    simp only [List.map_cons, List.mem_cons]
    by_cases he : name = e.1
    · subst he
      simp only [if_true, true_or, Option.getD_some, List.foldl_cons]
      split_ifs with hmem
      · rfl
      · rw [amountsUnder_eq_nil hmem, List.foldl_nil]
    · simp only [he, Ne.symm he, if_false, false_or]

theorem get?_tally_empty (amounts : List (String × α)) (name : String) :
    (tally Table.empty amounts).get? name =
      if name ∈ amounts.map Prod.fst then some (CloudDesk.total (amountsUnder name amounts))
      else none :=
  get?_tally Table.empty amounts name

omit [Zero α] [Add α] in
theorem amountsUnder_ne_nil {name : String} {amounts : List (String × α)} :
    amountsUnder name amounts ≠ [] ↔ name ∈ amounts.map Prod.fst := by
  simp [amountsUnder]

theorem get?_tally_empty_iff {amounts : List (String × α)} {name : String} {x : α} :
    (tally Table.empty amounts).get? name = some x ↔
      amountsUnder name amounts ≠ [] ∧ x = CloudDesk.total (amountsUnder name amounts) := by
  rw [get?_tally_empty, amountsUnder_ne_nil]
  split_ifs with h <;> simp [h, eq_comm]

def ascending (names : List String) : List String := names.dedup.insertionSort (· ≤ ·)

theorem mem_ascending (names : List String) (name : String) :
    name ∈ ascending names ↔ name ∈ names := by
  rw [ascending, List.mem_insertionSort, List.mem_dedup]

theorem ascending_pairwise (names : List String) : (ascending names).Pairwise (· < ·) := by
  have hle := List.pairwise_insertionSort (· ≤ ·) names.dedup
  have hne : (ascending names).Nodup :=
    (List.perm_insertionSort (· ≤ ·) names.dedup).nodup_iff.mpr names.nodup_dedup
  exact (hle.and hne).imp fun h => lt_of_le_of_ne h.1 h.2

theorem names_tally (amounts : List (String × α)) :
    (tally Table.empty amounts).names = ascending (amounts.map Prod.fst) := by
  apply (tally_sorted Table.sorted_empty amounts).names_eq (ascending_pairwise _)
  intro name
  rw [mem_ascending, Table.contains, get?_tally_empty]
  split_ifs with h <;> simp [h]

theorem values_tally (amounts : List (String × α)) :
    (tally Table.empty amounts).values =
      (ascending (amounts.map Prod.fst)).map fun name =>
        CloudDesk.total (amountsUnder name amounts) := by
  rw [← names_tally]
  apply (tally_sorted Table.sorted_empty amounts).values_eq
  intro name x hx
  rw [get?_tally_empty] at hx
  split_ifs at hx
  exact Option.some.inj hx

omit [Zero α] [Add α] in
theorem amountsUnder_filter (amounts : List (String × α)) {p : String → Bool} {name : String}
    (h : p name = true) :
    amountsUnder name (amounts.filter fun e => p e.1) = amountsUnder name amounts := by
  unfold amountsUnder
  rw [List.filter_filter]
  apply congrArg (List.map Prod.snd)
  apply List.filter_congr
  intro e _
  by_cases he : e.1 = name <;> simp [he, h]

theorem entries_tally_filter (amounts : List (String × α)) (p : String → Bool) :
    (tally Table.empty amounts).entries.filter (fun e => p e.1) =
      (tally Table.empty (amounts.filter fun e => p e.1)).entries := by
  have hsorted := tally_sorted Table.sorted_empty amounts
  symm
  apply (tally_sorted Table.sorted_empty _).entries_eq (hsorted.filter _)
  intro e
  have hnames : e.1 ∈ (amounts.filter fun a => p a.1).map Prod.fst ↔
      p e.1 = true ∧ e.1 ∈ amounts.map Prod.fst := by
    simp only [List.mem_map, List.mem_filter]
    constructor
    · rintro ⟨a, ⟨ha, hp⟩, he⟩
      exact ⟨he ▸ hp, a, ha, he⟩
    · rintro ⟨hp, a, ha, he⟩
      exact ⟨a, ⟨ha, he ▸ hp⟩, he⟩
  rw [List.mem_filter, ← hsorted.get?_eq_some_iff, get?_tally_empty, get?_tally_empty]
  by_cases hp : p e.1 = true
  · simp only [hnames, hp, true_and, and_true, amountsUnder_filter amounts hp]
  · simp [hnames, hp]

def Entry.amountOf (owner : String) : Entry α → Option (String × α)
  | .amount name kind value => if name = owner then some (Kind.canonical kind, value) else none
  | .owner _ => none

theorem kindsOf_enter (s : Snapshot α) (e : Entry α) (owner : String) :
    (s.enter e).kindsOf owner = tally (s.kindsOf owner) (e.amountOf owner).toList := by
  cases e with
  | amount name kind value =>
    by_cases h : name = owner
    · subst h
      simp [enter, add, kindsOf, Entry.amountOf, tally]
    · simp [enter, add, kindsOf, Entry.amountOf, tally, h, Ne.symm h]
  | owner name =>
    by_cases h : owner = name
    · subst h
      simp [enter, touch, kindsOf, Entry.amountOf, tally]
    · simp [enter, touch, kindsOf, Entry.amountOf, tally, h]

theorem kindsOf_enterAll (s : Snapshot α) (es : List (Entry α)) (owner : String) :
    (s.enterAll es).kindsOf owner =
      tally (s.kindsOf owner) (es.filterMap (Entry.amountOf owner)) := by
  induction es generalizing s with
  | nil => rfl
  | cons e rest ih =>
    have hstep : s.enterAll (e :: rest) = (s.enter e).enterAll rest := rfl
    rw [hstep, ih, kindsOf_enter]
    cases h : e.amountOf owner with
    | none => simp [tally, h]
    | some x => simp [tally, h]

end CloudDesk.Snapshot
