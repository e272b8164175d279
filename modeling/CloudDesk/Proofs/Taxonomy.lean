import CloudDesk.Proofs.Taxonomy.Table

namespace CloudDesk

open Text

namespace Kind

@[simp] theorem parse?_name (k : Kind) : parse? k.name = some k := by cases k <;> rfl

/-- No two kinds have names that differ in case only. -/
theorem lower_name_injective {j k : Kind} (h : lower j.name = lower k.name) : j = k := by
  revert h
  cases j <;> cases k <;> decide

theorem parse?_eq_some_iff {text : String} {k : Kind} :
    parse? text = some k ↔ sameIgnoringCase k.name text = true := by
  constructor
  · exact fun h => List.find?_some (p := fun k : Kind => sameIgnoringCase k.name text) h
  · intro h
    obtain ⟨j, hj⟩ := Option.isSome_iff_exists.mp
      (List.find?_isSome (p := fun k : Kind => sameIgnoringCase k.name text) |>.mpr ⟨k, k.mem_all, h⟩)
    have hsame := List.find?_some hj
    rw [sameIgnoringCase, beq_iff_eq] at h hsame
    rw [parse?, hj, lower_name_injective (hsame.trans h.symm)]

theorem name_injective {j k : Kind} (h : j.name = k.name) : j = k := by
  have hp := parse?_name j
  rw [h, parse?_name] at hp
  exact (Option.some.inj hp).symm

theorem canonical_of_some {text : String} {k : Kind} (h : parse? text = some k) :
    canonical text = k.name := by rw [canonical, h]

theorem canonical_of_none {text : String} (h : parse? text = none) : canonical text = text := by
  rw [canonical, h]

@[simp] theorem parse?_canonical (text : String) : parse? (canonical text) = parse? text := by
  cases h : parse? text with
  | some k => rw [canonical_of_some h, parse?_name]
  | none => rw [canonical_of_none h, h]

theorem canonical_canonical (text : String) : canonical (canonical text) = canonical text := by
  cases h : parse? text with
  | some k => rw [canonical_of_some h, canonical_of_some (parse?_name k)]
  | none => rw [canonical_of_none h, canonical_of_none h]

theorem name_of_canonical {text : String} {k : Kind} (hc : canonical text = text)
    (h : parse? text = some k) : k.name = text := by
  rw [← hc, canonical_of_some h]

end Kind

namespace Category

@[simp] theorem ofName?_name (c : Category) : ofName? c.name = some c := by cases c <;> rfl

theorem name_injective {c d : Category} (h : c.name = d.name) : c = d := by
  have hn := ofName?_name c
  rw [h, ofName?_name] at hn
  exact (Option.some.inj hn).symm

end Category

namespace Taxonomy

theorem mem_expand_name (c : Category) (text : String) :
    text ∈ expand [c.name] ↔ ∃ k : Kind, k.category = c ∧ k.name = text := by
  simp [expand, expandName, Category.mem_kinds]

theorem typeName_of_some {text : String} {k : Kind} (h : Kind.parse? text = some k) :
    typeName text = k.category.name := by rw [typeName, h]

theorem typeName_of_none {text : String} (h : Kind.parse? text = none) : typeName text = text := by
  rw [typeName, h]

/-- What goes by the name of a category: the kinds of the category, and its own name where that is
read as no kind. -/
theorem typeName_eq_name (c : Category) {text : String} (hc : Kind.canonical text = text) :
    typeName text = c.name ↔
      text ∈ expand [c.name] ∨ (text = c.name ∧ Kind.parse? text = none) := by
  rw [mem_expand_name]
  cases h : Kind.parse? text with
  | some k =>
    rw [typeName_of_some h]
    constructor
    · exact fun hn => Or.inl ⟨k, Category.name_injective hn, Kind.name_of_canonical hc h⟩
    · rintro (⟨j, rfl, rfl⟩ | ⟨-, hn⟩)
      · rw [Kind.parse?_name] at h
        rw [Option.some.inj h]
      · cases hn
  | none =>
    rw [typeName_of_none h]
    constructor
    · exact fun hn => Or.inr ⟨hn, rfl⟩
    · rintro (⟨j, -, rfl⟩ | ⟨hn, -⟩)
      · rw [Kind.parse?_name] at h
        cases h
      · exact hn

end Taxonomy

end CloudDesk
