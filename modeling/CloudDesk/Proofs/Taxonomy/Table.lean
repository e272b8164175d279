import CloudDesk.Taxonomy.Category

namespace CloudDesk

theorem Kind.mem_all (k : Kind) : k ∈ all := by cases k <;> decide

theorem Category.mem_all (c : Category) : c ∈ all := by cases c <;> decide

namespace CategoryTable

abbrev ScopeLE (a b : Kind × Category) : Prop := a.1.scope.rank ≤ b.1.scope.rank

theorem mem_insertByScope {entry e : Kind × Category} {es : List (Kind × Category)} :
    e ∈ insertByScope entry es ↔ e ∈ entry :: es := by
  induction es with
  | nil => rfl
  | cons f rest ih =>
    rw [insertByScope]
    split
    · rfl
    · rw [List.mem_cons, ih, List.mem_cons, List.mem_cons, List.mem_cons, or_left_comm]

theorem pairwise_insertByScope (entry : Kind × Category) {es : List (Kind × Category)}
    (h : es.Pairwise ScopeLE) : (insertByScope entry es).Pairwise ScopeLE := by
  induction es with
  | nil => exact List.pairwise_singleton ScopeLE entry
  | cons e rest ih =>
    obtain ⟨hfirst, hrest⟩ := List.pairwise_cons.mp h
    rw [insertByScope]
    split
    · rename_i hle
      refine List.pairwise_cons.mpr ⟨fun f hf => ?_, h⟩
      obtain rfl | hf := List.mem_cons.mp hf
      · exact hle
      · exact Nat.le_trans hle (hfirst f hf)
    · rename_i hlt
      refine List.pairwise_cons.mpr ⟨fun f hf => ?_, ih hrest⟩
      obtain rfl | hf := List.mem_cons.mp (mem_insertByScope.mp hf)
      · exact Nat.le_of_not_le hlt
      · exact hfirst f hf

theorem pairwise_sortByScope (es : List (Kind × Category)) : (sortByScope es).Pairwise ScopeLE := by
  induction es with
  | nil => exact List.Pairwise.nil
  | cons e rest ih => exact pairwise_insertByScope e ih

theorem filter_insertByScope (s : Scope) (entry : Kind × Category) (es : List (Kind × Category)) :
    (insertByScope entry es).filter (fun e => e.1.scope == s) =
      (entry :: es).filter fun e => e.1.scope == s := by
  induction es with
  | nil => rfl
  | cons e rest ih =>
    rw [insertByScope]
    split
    · rfl
    · rename_i hlt
      rw [List.filter_cons, ih]
      have hne : ¬ (entry.1.scope = s ∧ e.1.scope = s) := by
        rintro ⟨rfl, he⟩
        exact hlt (Nat.le_of_eq (by rw [he]))
      by_cases h₁ : entry.1.scope = s <;> by_cases h₂ : e.1.scope = s <;>
        simp_all

theorem filter_sortByScope (s : Scope) (es : List (Kind × Category)) :
    (sortByScope es).filter (fun e => e.1.scope == s) = es.filter fun e => e.1.scope == s := by
  induction es with
  | nil => rfl
  | cons e rest ih => rw [sortByScope, filter_insertByScope, List.filter_cons, ih, List.filter_cons]

theorem flatMap_filter_scope {es : List (Kind × Category)} (h : es.Pairwise ScopeLE) :
    (Scope.all.flatMap fun s => es.filter fun e => e.1.scope == s) = es := by
  induction es with
  | nil => rfl
  | cons e rest ih =>
    obtain ⟨hfirst, hrest⟩ := List.pairwise_cons.mp h
    have hpart := ih hrest
    -- scopes before that of the first entry have no part
    have hnone : ∀ s : Scope, s.rank < e.1.scope.rank → rest.filter (fun r => r.1.scope == s) = [] := by
      intro s hs
      refine List.filter_eq_nil_iff.mpr fun r hr hscope => ?_
      have hle := hfirst r hr
      rw [ScopeLE, beq_iff_eq.mp hscope] at hle
      omega
    simp only [Scope.all, List.flatMap_cons, List.flatMap_nil, List.filter_cons] at hpart ⊢
    cases he : e.1.scope with
    | edge => simpa using hpart
    | ssn =>
      have hedge := hnone .edge (by rw [he]; decide)
      simpa [hedge] using hpart
    | collaboration =>
      have hedge := hnone .edge (by rw [he]; decide)
      have hssn := hnone .ssn (by rw [he]; decide)
      simpa [hedge, hssn] using hpart

theorem sortByScope_eq (es : List (Kind × Category)) :
    sortByScope es = Scope.all.flatMap fun s => es.filter fun e => e.1.scope == s := by
  rw [← flatMap_filter_scope (pairwise_sortByScope es)]
  simp only [filter_sortByScope]

theorem mem_sortByScope {es : List (Kind × Category)} {e : Kind × Category} :
    e ∈ sortByScope es ↔ e ∈ es := by
  induction es with
  | nil => rfl
  | cons f rest ih => rw [sortByScope, mem_insertByScope, List.mem_cons, ih, List.mem_cons]

variable (t : CategoryTable)

theorem foldl_enter (entries : List (Kind × Category)) (inverse : Category → List Kind) (c : Category) :
    entries.foldl enter inverse c =
      inverse c ++ (entries.filter fun e => e.2 == c).map Prod.fst := by
  induction entries generalizing inverse with
  | nil => simp
  | cons e rest ih =>
    rw [List.foldl_cons, ih, enter]
    by_cases h : c = e.2
    · simp [h]
    · simp [h, Ne.symm h]

theorem inverse_eq (c : Category) :
    t.inverse c = ((sortByScope t.entries).filter fun e => e.2 == c).map Prod.fst := by
  rw [inverse, foldl_enter, List.nil_append]

theorem mem_inverse {k : Kind} {c : Category} : k ∈ t.inverse c ↔ (k, c) ∈ t.entries := by
  simp [inverse_eq, mem_sortByScope]

theorem map_fst_eq_all_iff :
    t.entries.map Prod.fst = Kind.all ↔
      ∀ p ∈ t.entries.zip Kind.all.zipIdx, p.1.1 = p.2.1 := by
  have hlength : t.entries.length = Kind.all.zipIdx.length := by
    rw [List.length_zipIdx, t.complete]
  have hentries : (t.entries.zip Kind.all.zipIdx).map (fun p => p.1.1) = t.entries.map Prod.fst := by
    have hfirst := congrArg (List.map Prod.fst) (List.map_fst_zip (Nat.le_of_eq hlength))
    rwa [List.map_map] at hfirst
  have hkinds : (t.entries.zip Kind.all.zipIdx).map (fun p => p.2.1) = Kind.all := by
    have hsecond := congrArg (List.map Prod.fst) (List.map_snd_zip (Nat.le_of_eq hlength.symm))
    rwa [List.map_map, List.zipIdx_map_fst] at hsecond
  calc t.entries.map Prod.fst = Kind.all
    _ ↔ (t.entries.zip Kind.all.zipIdx).map (fun p => p.1.1) =
        (t.entries.zip Kind.all.zipIdx).map (fun p => p.2.1) := by rw [hentries, hkinds]
    _ ↔ ∀ p ∈ t.entries.zip Kind.all.zipIdx, p.1.1 = p.2.1 := List.map_inj_left

theorem misfit?_eq_none_iff {entry : Kind × Category} (h : entry ∈ t.entries) {k : Kind} :
    t.misfit? entry (k, k.index) = none ↔ entry.1 = k := by
  unfold misfit?
  by_cases hk : entry.1 = k
  · have hmem : k ∈ t.inverse entry.2 := t.mem_inverse.mpr (hk ▸ h)
    simp [hk, hmem]
  · simp [hk]

/-- A table is consistent if each entry is that of the kind at its place and no category is without
kinds. -/
theorem inconsistency?_eq_none_iff :
    t.inconsistency? = none ↔
      t.entries.map Prod.fst = Kind.all ∧ ∀ c, ∃ k, (k, c) ∈ t.entries := by
  have hplaces : (t.entries.zip Kind.all.zipIdx).findSome? (fun p => t.misfit? p.1 p.2) = none ↔
      t.entries.map Prod.fst = Kind.all := by
    have hindex : ∀ place ∈ Kind.all.zipIdx, place.2 = place.1.index := by decide
    rw [List.findSome?_eq_none_iff, map_fst_eq_all_iff]
    refine forall₂_congr fun p hp => ?_
    obtain ⟨hentry, hplace⟩ := List.of_mem_zip (a := p.1) (b := p.2) hp
    rw [← t.misfit?_eq_none_iff hentry, ← hindex p.2 hplace]
  have hempty : (Category.all.find? fun c => (t.inverse c).isEmpty) = none ↔
      ∀ c, ∃ k, (k, c) ∈ t.entries := by
    simp only [List.find?_eq_none, Bool.not_eq_true, List.isEmpty_eq_false_iff_exists_mem,
      t.mem_inverse, Category.mem_all, true_imp_iff]
  rw [← hplaces, ← hempty]
  unfold inconsistency?
  cases (t.entries.zip Kind.all.zipIdx).findSome? fun p => t.misfit? p.1 p.2 with
  | some e => simp
  | none => simp only [Option.map_eq_none_iff, true_and]

end CategoryTable

theorem Taxonomy.table_consistent : table.inconsistency? = none := by
  refine table.inconsistency?_eq_none_iff.mpr ⟨rfl, fun c => ?_⟩
  have hall : Category.all.all fun c => table.entries.any fun e => e.2 == c := by decide
  obtain ⟨⟨k, d⟩, hmem, hd⟩ := List.any_eq_true.mp (List.all_eq_true.mp hall c c.mem_all)
  obtain rfl := beq_iff_eq.mp hd
  exact ⟨k, hmem⟩

namespace Category

/-- The kinds of a category by scope, and within a scope in the order of all kinds. -/
theorem kinds_eq (c : Category) :
    c.kinds = Scope.all.flatMap fun s => Kind.all.filter fun k => k.scope == s && k.category == c := by
  have htable : Taxonomy.table.entries = Kind.all.map fun k => (k, k.category) := by decide
  rw [kinds, CategoryTable.inverse_eq, CategoryTable.sortByScope_eq, htable]
  simp [List.filter_flatMap, List.map_flatMap, List.filter_map, Function.comp_def, List.filter_filter,
    Bool.and_comm]

theorem mem_kinds (c : Category) (k : Kind) : k ∈ c.kinds ↔ k.category = c := by
  have hscope : k.scope ∈ Scope.all := by cases k <;> decide
  simp only [kinds_eq, List.mem_flatMap, List.mem_filter, Bool.and_eq_true, beq_iff_eq]
  exact ⟨fun ⟨_, _, _, _, hk⟩ => hk, fun hk => ⟨k.scope, hscope, k.mem_all, rfl, hk⟩⟩

end Category

end CloudDesk
