import CloudDesk.Proofs.Taxonomy.Expansion
import CloudDesk.Proofs.Text.Distance
import CloudDesk.Taxonomy.Suggestion

namespace CloudDesk.Taxonomy

open Text

theorem names_far_apart {c d : Category} (h : c ≠ d) :
    5 ≤ distance (lowered c.name) (lowered d.name) := by
  revert h
  cases c <;> cases d <;> decide

theorem ascii_of_mem_name (c : Category) : ∀ y ∈ lowered c.name, y.toNat < 128 := by
  have hall : (lowered c.name).all (fun y => decide (y.toNat < 128)) = true := by
    cases c <;> decide
  intro y hy
  exact of_decide_eq_true (List.all_eq_true.mp hall y hy)

/-- Two edits away from a text on either side, the names of two categories do not meet. -/
theorem eq_of_close {text : List Char} {c d : Category} (hc : Within 2 text (lowered c.name))
    (hd : Within 2 text (lowered d.name)) : c = d := by
  rw [within_iff] at hc hd
  by_contra hne
  have hfar := names_far_apart hne
  have hvia := distance_triangle (lowered c.name) text (lowered d.name)
  rw [distance_comm (lowered c.name) text] at hvia
  omega

theorem distanceTo_le_iff {name : String} {text : List Char} (h : AlikeInAscii (lowered name) text)
    (c : Category) : distanceTo name c ≤ maxDistance ↔ Within 2 text (lowered c.name) := by
  rw [within_iff, ← distance_congr h (ascii_of_mem_name c)]
  rfl

section

variable {name : String} {c : Category} {cs : List Category}

theorem nearest?_eq_none_iff : nearest? name cs = none ↔ cs = [] := by
  cases cs with
  | nil => exact iff_of_true rfl rfl
  | cons c rest =>
    rw [nearest?]
    split
    · split <;> simp
    · simp

theorem mem_of_nearest? (h : nearest? name cs = some c) : c ∈ cs := by
  induction cs with
  | nil => cases h
  | cons d rest ih =>
    rw [nearest?] at h
    split at h
    case h_1 e he =>
      split at h
      · cases h
        exact List.mem_cons_of_mem d (ih he)
      · cases h
        exact List.mem_cons_self
    case h_2 =>
      cases h
      exact List.mem_cons_self

theorem nearest?_close_iff :
    nearest? name (cs.filter fun d => distanceTo name d ≤ maxDistance) = some c ↔
      c ∈ cs ∧ distanceTo name c ≤ maxDistance := by
  have hmem : ∀ d, d ∈ cs.filter (fun d => distanceTo name d ≤ maxDistance) ↔
      d ∈ cs ∧ distanceTo name d ≤ maxDistance := fun d => by
    rw [List.mem_filter, decide_eq_true_eq]
  constructor
  · exact fun h => (hmem c).mp (mem_of_nearest? h)
  · intro h
    cases hd : nearest? name (cs.filter fun d => distanceTo name d ≤ maxDistance) with
    | none =>
      have hc := (hmem c).mpr h
      rw [nearest?_eq_none_iff.mp hd] at hc
      cases hc
    | some d =>
      have hclose := ((hmem d).mp (mem_of_nearest? hd)).2
      exact congrArg some (eq_of_close (within_iff.mpr hclose) (within_iff.mpr h.2))

theorem closest?_eq_some_iff : closest? name = some c ↔ distanceTo name c ≤ maxDistance :=
  nearest?_close_iff.trans (and_iff_right c.mem_all)

theorem nearest?_eq_closest? (hcs : cs.Perm Category.all) (name : String) :
    nearest? name (cs.filter fun d => distanceTo name d ≤ maxDistance) = closest? name := by
  apply Option.ext
  intro c
  rw [closest?_eq_some_iff, nearest?_close_iff]
  exact and_iff_right (hcs.mem_iff.mpr c.mem_all)

end

theorem suggestions_cons (name : String) (names : List String) :
    suggestions (name :: names) = suggestions [name] ++ suggestions names := by
  rw [← List.singleton_append, suggestions, List.filterMap_append]
  rfl

theorem suggestions_category {name : String} {c : Category} (h : Category.ofName? name = some c) :
    suggestions [name] = [] := by
  simp [suggestions, h]

theorem suggestions_unknown {name : String} (h : Category.ofName? name = none) :
    suggestions [name] = ((closest? name).map fun c => (name, c)).toList := by
  cases hc : closest? name <;> simp [suggestions, h, hc]

theorem mem_suggestions {names : List String} {name : String} {c : Category} :
    (name, c) ∈ suggestions names ↔
      name ∈ names ∧ Category.ofName? name = none ∧ closest? name = some c := by
  rw [suggestions, List.mem_filterMap]
  constructor
  · rintro ⟨other, hmem, h⟩
    split at h
    · cases h
    case h_2 hunknown =>
      obtain ⟨d, hd, hpair⟩ := Option.map_eq_some_iff.mp h
      cases hpair
      exact ⟨hmem, hunknown, hd⟩
  · rintro ⟨hmem, hunknown, hc⟩
    refine ⟨name, hmem, ?_⟩
    rw [hunknown, hc]
    rfl

theorem suggestions_sublist (names : List String) :
    ((suggestions names).map Prod.fst).Sublist
      (names.filter fun name => (Category.ofName? name).isNone) := by
  induction names with
  | nil => exact .slnil
  | cons name names ih =>
    rw [suggestions_cons, List.map_append]
    cases h : Category.ofName? name with
    | some c =>
      rw [suggestions_category h, List.filter_cons_of_neg (by simp [h])]
      exact ih
    | none =>
      rw [suggestions_unknown h, List.filter_cons_of_pos (by simp [h])]
      cases closest? name with
      | none => exact ih.cons name
      | some c => exact ih.cons_cons name

section

variable {m : Type → Type} [Monad m] [LawfulMonad m] (announce : String → Category → m Unit)

theorem expandStep_eq (kinds : List String) (name : String) :
    expandStep announce kinds name = (do
      (suggestions [name]).forM fun (n, c) => announce n c
      pure (kinds ++ expandName name)) := by
  rw [expandStep, expandName]
  cases h : Category.ofName? name with
  | some c => simp [suggestions_category h]
  | none =>
    rw [suggestions_unknown h]
    cases closest? name <;> simp

theorem foldlM_expandStep (names kinds : List String) :
    names.foldlM (expandStep announce) kinds = (do
      (suggestions names).forM fun (n, c) => announce n c
      pure (kinds ++ expand names)) := by
  induction names generalizing kinds with
  | nil => simp [suggestions, expand]
  | cons name names ih =>
    rw [suggestions_cons, List.foldlM_cons, expandStep_eq, expand, List.flatMap_cons]
    simp [ih, expand]

/-- The announcements are made in the order of the names, and what the names expand to does not
depend on them. -/
theorem expandAnnouncing_eq (names : List String) :
    expandAnnouncing announce names = (do
      (suggestions names).forM fun (n, c) => announce n c
      pure (expand names)) :=
  foldlM_expandStep announce names []

end

/-- No text is within two edits of the lower case of two names of categories. What is suggested for
a name is the category that is so close to it, whatever the lower case is of what is beyond ASCII
and in whatever order the categories are tried. An unknown name has one suggestion at most, any
other name has none, and the names expand to the same whatever an announcement of them does. -/
theorem suggestion_is_unambiguous {name : String} {text : List Char}
    (htext : AlikeInAscii (lowered name) text) (names : List String) {m : Type → Type} [Monad m]
    [LawfulMonad m] (announce : String → Category → m Unit) :
    (∀ (t : List Char) (c d : Category), Within 2 t (lowered c.name) →
        Within 2 t (lowered d.name) → c = d) ∧
      (∀ c, closest? name = some c ↔ Within 2 text (lowered c.name)) ∧
      (∀ cs : List Category, cs.Perm Category.all →
        nearest? name (cs.filter fun c => distanceTo name c ≤ maxDistance) = closest? name) ∧
      ((suggestions names).map Prod.fst).Sublist
        (names.filter fun n => (Category.ofName? n).isNone) ∧
      (∀ n c, (n, c) ∈ suggestions names ↔
        n ∈ names ∧ Category.ofName? n = none ∧ closest? n = some c) ∧
      expandAnnouncing announce names = (do
        (suggestions names).forM fun (n, c) => announce n c
        pure (expand names)) := by
  refine ⟨fun _ _ _ => eq_of_close, fun c => ?_, fun _ hcs => nearest?_eq_closest? hcs name,
    suggestions_sublist names, fun _ _ => mem_suggestions, expandAnnouncing_eq announce names⟩
  exact closest?_eq_some_iff.trans (distanceTo_le_iff htext c)

def noteDown (name : String) (c : Category) : StateM (List (String × Category)) Unit :=
  modify fun notes => notes ++ [(name, c)]

/-- A name with a letter beyond ASCII in the place of another is suggested for, as is one with a
superfluous letter; the name of a category and one that is close to none are not. -/
theorem misspelt_names_are_announced :
    AlikeInAscii (lowered "BÜCKET") "bücket".toList ∧ Within 2 "bücket".toList "bucket".toList ∧
      closest? "BÜCKET" = some .bucket ∧
      ((expandAnnouncing noteDown ["SSN", "BÜCKET", "clusters", "gpu"]).run []).run =
        (["SSN", "BÜCKET", "clusters", "gpu"], [("BÜCKET", .bucket), ("clusters", .cluster)]) := by
  have hlike : AlikeInAscii (lowered "BÜCKET") "bücket".toList := by
    unfold AlikeInAscii
    decide
  obtain ⟨-, hclosest, -, -, -, hexpand⟩ :=
    suggestion_is_unambiguous hlike ["SSN", "BÜCKET", "clusters", "gpu"] noteDown
  have hbucket : closest? "BÜCKET" = some .bucket := by decide
  refine ⟨hlike, (hclosest .bucket).mp hbucket, hbucket, ?_⟩
  rw [hexpand]
  decide +kernel

end CloudDesk.Taxonomy
