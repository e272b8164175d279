import CloudDesk.Table
import Mathlib.Data.List.Sort
import Mathlib.Data.String.Basic

namespace CloudDesk.Table

variable {α β : Type}

theorem find?_place (name other : String) (value : α) (es : List (String × α)) :
    find? other (place name value es) = if other = name then some value else find? other es := by
  induction es with
  | nil => simp [place, find?]
  | cons e rest ih =>
    obtain ⟨k, x⟩ := e
    by_cases hlt : name < k
    · simp only [place, if_pos hlt, find?]
    · by_cases heq : name = k
      · subst k
        simp only [place, if_neg hlt, if_true, find?]
        split_ifs <;> rfl
      · simp only [place, if_neg hlt, if_neg heq, find?, ih]
        by_cases h : other = k
        · rw [if_pos h, if_pos h, if_neg (fun hn => heq (hn.symm.trans h))]
        · rw [if_neg h, if_neg h]

@[simp] theorem get?_empty (name : String) : (empty : Table α).get? name = none := rfl

@[simp] theorem get?_put (t : Table α) (name other : String) (value : α) :
    (t.put name value).get? other = if other = name then some value else t.get? other :=
  find?_place name other value t.entries

@[simp] theorem get?_modify (t : Table α) (name other : String) (f : α → α) :
    (t.modify name f).get? other = if other = name then (t.get? name).map f else t.get? other := by
  unfold modify
  cases hx : t.get? name with
  | none =>
    by_cases h : other = name
    · simp [h, hx]
    · simp [h]
  | some x => simp

@[simp] theorem contains_empty (name : String) : (empty : Table α).contains name = false := rfl

@[simp] theorem contains_put (t : Table α) (name other : String) (value : α) :
    (t.put name value).contains other = (decide (other = name) || t.contains other) := by
  by_cases h : other = name <;> simp [contains, h]

theorem mem_place {name : String} {value : α} {e : String × α} {es : List (String × α)}
    (h : e ∈ place name value es) : e = (name, value) ∨ e ∈ es := by
  induction es with
  | nil => simpa [place] using h
  | cons e' rest ih =>
    simp only [place] at h
    split_ifs at h with hlt heq
    · simpa using h
    · obtain h | h := List.mem_cons.mp h
      · exact Or.inl h
      · exact Or.inr (List.mem_cons_of_mem _ h)
    · obtain h | h := List.mem_cons.mp h
      · exact Or.inr (h ▸ List.mem_cons_self)
      · exact (ih h).imp id (List.mem_cons_of_mem _)

theorem find?_mem {name : String} {x : α} {es : List (String × α)} (h : find? name es = some x) :
    (name, x) ∈ es := by
  induction es with
  | nil => simp [find?] at h
  | cons e rest ih =>
    obtain ⟨k, y⟩ := e
    simp only [find?] at h
    split_ifs at h with hk
    · subst hk
      cases h
      exact List.mem_cons_self
    · exact List.mem_cons_of_mem _ (ih h)

theorem mem_names_iff (t : Table α) (name : String) : name ∈ t.names ↔ t.contains name = true := by
  unfold names contains get?
  induction t.entries with
  | nil => simp [find?]
  | cons e rest ih =>
    obtain ⟨k, x⟩ := e
    by_cases h : name = k
    · simp [find?, h]
    · simp only [List.map_cons, List.mem_cons, h, false_or, find?, if_false]
      exact ih

theorem mem_entries_of_get? {t : Table α} {name : String} {x : α} (h : t.get? name = some x) :
    (name, x) ∈ t.entries := find?_mem h

theorem sorted_empty : (empty : Table α).Sorted := List.Pairwise.nil

theorem place_pairwise (name : String) (value : α) {es : List (String × α)}
    (h : es.Pairwise fun a b => a.1 < b.1) :
    (place name value es).Pairwise fun a b => a.1 < b.1 := by
  induction es with
  | nil => simp [place]
  | cons e rest ih =>
    obtain ⟨k, x⟩ := e
    obtain ⟨hk, hrest⟩ := List.pairwise_cons.mp h
    simp only [place]
    split_ifs with hlt heq
    · refine List.pairwise_cons.mpr ⟨fun e he => ?_, h⟩
      obtain he | he := List.mem_cons.mp he
      · exact he ▸ hlt
      · exact lt_trans hlt (hk e he)
    · subst heq
      exact List.pairwise_cons.mpr ⟨hk, hrest⟩
    · refine List.pairwise_cons.mpr ⟨fun e he => ?_, ih hrest⟩
      obtain he | he := mem_place he
      · subst he
        exact lt_of_le_of_ne (not_lt.mp hlt) (Ne.symm heq)
      · exact hk e he

theorem Sorted.put {t : Table α} (h : t.Sorted) (name : String) (value : α) :
    (t.put name value).Sorted := place_pairwise name value h

theorem Sorted.modify {t : Table α} (h : t.Sorted) (name : String) (f : α → α) :
    (t.modify name f).Sorted := by
  unfold Table.modify
  cases t.get? name with
  | none => exact h
  | some x => exact h.put name (f x)

theorem find?_of_mem {name : String} {x : α} {es : List (String × α)}
    (h : es.Pairwise fun a b => a.1 < b.1) (hm : (name, x) ∈ es) : find? name es = some x := by
  induction es with
  | nil => simp at hm
  | cons e rest ih =>
    obtain ⟨k, y⟩ := e
    obtain ⟨hk, hrest⟩ := List.pairwise_cons.mp h
    obtain hm | hm := List.mem_cons.mp hm
    · cases hm
      simp [find?]
    · have hne : name ≠ k := fun heq => absurd (hk _ hm) (by rw [heq]; exact lt_irrefl _)
      simp [find?, hne, ih hrest hm]

/-- In a table whose names ascend, a look-up finds exactly what is listed. -/
theorem Sorted.get?_eq_some_iff {t : Table α} (h : t.Sorted) (name : String) (x : α) :
    t.get? name = some x ↔ (name, x) ∈ t.entries :=
  ⟨mem_entries_of_get?, find?_of_mem h⟩

theorem Sorted.entries_eq {t : Table α} (h : t.Sorted) {es : List (String × α)}
    (hes : es.Pairwise fun a b => a.1 < b.1)
    (hread : ∀ e, e ∈ es ↔ t.get? e.1 = some e.2) : t.entries = es := by
  have hirrefl : Std.Irrefl fun a b : String × α => a.1 < b.1 := ⟨fun a => lt_irrefl a.1⟩
  have hantisymm : Std.Antisymm fun a b : String × α => a.1 < b.1 :=
    ⟨fun _ _ hab hba => absurd hba (lt_asymm hab)⟩
  exact List.Pairwise.eq_of_mem_iff h hes fun e =>
    (h.get?_eq_some_iff e.1 e.2).symm.trans (hread e).symm

theorem Sorted.ext {t t' : Table α} (h : t.Sorted) (h' : t'.Sorted)
    (hread : ∀ name, t.get? name = t'.get? name) : t = t' := by
  have hentries := h.entries_eq h' fun e => by rw [hread, h'.get?_eq_some_iff]
  cases t
  cases t'
  exact congrArg Table.mk hentries

theorem Sorted.names_pairwise {t : Table α} (h : t.Sorted) : t.names.Pairwise (· < ·) :=
  List.pairwise_map.mpr h

theorem Sorted.names_eq {t : Table α} (h : t.Sorted) {ns : List String}
    (hns : ns.Pairwise (· < ·)) (hread : ∀ name, name ∈ ns ↔ t.contains name = true) :
    t.names = ns :=
  h.names_pairwise.eq_of_mem_iff hns fun name => (t.mem_names_iff name).trans (hread name).symm

theorem Sorted.values_eq {t : Table α} (h : t.Sorted) {f : String → α}
    (hf : ∀ name x, t.get? name = some x → f name = x) : t.values = t.names.map f := by
  unfold values names
  rw [List.map_map]
  apply List.map_congr_left
  intro e he
  exact (hf e.1 e.2 ((h.get?_eq_some_iff e.1 e.2).mpr he)).symm

theorem place_last {name : String} {value : α} {es : List (String × α)} (h : ∀ e ∈ es, e.1 < name) :
    place name value es = es ++ [(name, value)] := by
  induction es with
  | nil => rfl
  | cons e rest ih =>
    obtain ⟨k, x⟩ := e
    obtain ⟨hk, hrest⟩ := List.forall_mem_cons.mp h
    rw [place, if_neg (lt_asymm hk), if_neg (ne_of_gt hk), ih hrest, List.cons_append]

theorem foldl_put_ascending {front es : List (String × α)}
    (h : (front ++ es).Pairwise fun a b => a.1 < b.1) :
    es.foldl (fun t e => t.put e.1 e.2) (⟨front⟩ : Table α) = ⟨front ++ es⟩ := by
  induction es generalizing front with
  | nil => rw [List.foldl_nil, List.append_nil]
  | cons e rest ih =>
    have hlast : ∀ e' ∈ front, e'.1 < e.1 := fun e' he' =>
      (List.pairwise_append.mp h).2.2 e' he' e List.mem_cons_self
    rw [List.append_cons] at h
    rw [List.foldl_cons, put, place_last hlast, ih h, List.append_assoc, List.singleton_append]

theorem entries_ofList {es : List (String × α)} (h : es.Pairwise fun a b => a.1 < b.1) :
    (ofList es).entries = es := by
  rw [ofList, empty, foldl_put_ascending (List.nil_append es ▸ h), List.nil_append]

theorem foldl_put_sorted {t : Table α} (h : t.Sorted) (es : List (String × α)) :
    (es.foldl (fun t e => t.put e.1 e.2) t).Sorted := by
  induction es generalizing t with
  | nil => exact h
  | cons e rest ih => exact ih (h.put e.1 e.2)

theorem ofList_sorted (es : List (String × α)) : (ofList es).Sorted := foldl_put_sorted sorted_empty es

theorem mem_foldl_put {t : Table α} {e : String × α} {es : List (String × α)}
    (h : e ∈ (es.foldl (fun t e => t.put e.1 e.2) t).entries) : e ∈ t.entries ∨ e ∈ es := by
  induction es generalizing t with
  | nil => exact Or.inl h
  | cons e' rest ih =>
    obtain h | h := ih h
    · obtain rfl | h := mem_place h
      · exact Or.inr List.mem_cons_self
      · exact Or.inl h
    · exact Or.inr (List.mem_cons_of_mem _ h)

theorem mem_ofList {e : String × α} {es : List (String × α)} (h : e ∈ (ofList es).entries) : e ∈ es :=
  (mem_foldl_put h).resolve_left List.not_mem_nil

theorem contains_foldl_put (t : Table α) (name : String) (es : List (String × α)) :
    (es.foldl (fun t e => t.put e.1 e.2) t).contains name = true ↔
      t.contains name = true ∨ name ∈ es.map Prod.fst := by
  induction es generalizing t with
  | nil => simp
  | cons e rest ih =>
    rw [List.foldl_cons, ih, contains_put, List.map_cons, List.mem_cons, Bool.or_eq_true, decide_eq_true_iff]
    tauto

theorem mem_names_ofList (name : String) (es : List (String × α)) :
    name ∈ (ofList es).names ↔ name ∈ es.map Prod.fst := by
  rw [mem_names_iff, ofList, contains_foldl_put, contains_empty]
  simp

end CloudDesk.Table
