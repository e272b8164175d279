import CloudDesk.Json.Reading
import CloudDesk.Proofs.Json.Value

namespace CloudDesk.Json

variable {measure : Decimal.Parts → Float}

theorem numberValue_hasNumber (p : Decimal.Parts) (isWhole : Bool) :
    (numberValue measure p isWhole).Everywhere HasNumber := by
  unfold numberValue
  dsimp only
  split_ifs with hnatural hnegative hfinite
  · simp only [Bool.and_eq_true, decide_eq_true_eq] at hnatural
    refine (everywhere_leaf_iff rfl).mpr ⟨?_, ?_⟩
    · omega
    · exact_mod_cast hnatural.2
  · simp only [Bool.and_eq_true, decide_eq_true_eq] at hnegative
    refine (everywhere_leaf_iff rfl).mpr ⟨?_, ?_⟩
    · have hle := hnegative.2
      simp at hle
      omega
    · omega
  · exact (everywhere_leaf_iff rfl).mpr hfinite
  · exact (everywhere_leaf_iff rfl).mpr trivial

theorem readNumber_hasNumber {cs rest : List Char} {j : Json} (h : readNumber measure cs = some (j, rest)) :
    j.Everywhere HasNumber := by
  unfold readNumber at h
  dsimp only at h
  split_ifs at h
  obtain ⟨_, -, h⟩ := Option.bind_eq_some_iff.mp h
  obtain ⟨_, -, h⟩ := Option.bind_eq_some_iff.mp h
  cases h
  exact numberValue_hasNumber _ _

@[simp] theorem fault_hasNumber (f : Fault) : (fault f).Everywhere HasNumber := (everywhere_leaf_iff rfl).mpr trivial

theorem readWord_hasNumber {word cs : List Char} {j : Json} (h : j.Everywhere HasNumber) :
    (readWord word j cs).1.Everywhere HasNumber := by
  unfold readWord
  split_ifs
  · exact h
  · exact fault_hasNumber .stop

section

variable {steps : Nat}

theorem readValue_succ (hitems : ∀ cs, ∀ j ∈ (readItems measure steps cs).1, j.Everywhere HasNumber)
    (hfields : ∀ cs, ∀ f ∈ (readFields measure steps cs).1, f.2.Everywhere HasNumber) (cs : List Char) :
    (readValue measure (steps + 1) cs).1.Everywhere HasNumber := by
  rw [readValue]
  split
  · exact fault_hasNumber .stop
  · split_ifs
    · split
      · exact fault_hasNumber .stop
      · split
        · exact (everywhere_leaf_iff rfl).mpr trivial
        · exact fault_hasNumber .value
    · split
      · exact (everywhere_leaf_iff rfl).mpr trivial
      · exact everywhere_array_iff.mpr ⟨trivial, hitems _⟩
    · split
      · exact (everywhere_leaf_iff rfl).mpr trivial
      · exact everywhere_object_iff.mpr ⟨trivial, hfields _⟩
    · exact readWord_hasNumber ((everywhere_leaf_iff rfl).mpr trivial)
    · exact readWord_hasNumber ((everywhere_leaf_iff rfl).mpr trivial)
    · exact readWord_hasNumber ((everywhere_leaf_iff rfl).mpr trivial)
    · split
      · next h => exact readNumber_hasNumber h
      · exact fault_hasNumber .stop

theorem readItems_succ (hvalue : ∀ cs, (readValue measure steps cs).1.Everywhere HasNumber)
    (hitems : ∀ cs, ∀ j ∈ (readItems measure steps cs).1, j.Everywhere HasNumber) (cs : List Char) :
    ∀ j ∈ (readItems measure (steps + 1) cs).1, j.Everywhere HasNumber := by
  have hfirst := hvalue cs
  rw [readItems]
  split
  · next value heq =>
    rw [heq] at hfirst
    simpa using hfirst
  · next value rest heq =>
    rw [heq] at hfirst
    split
    · simpa using hfirst
    · exact List.forall_mem_cons.mpr ⟨hfirst, hitems _⟩
    · simpa using hfirst

theorem readFields_succ (hvalue : ∀ cs, (readValue measure steps cs).1.Everywhere HasNumber)
    (hfields : ∀ cs, ∀ f ∈ (readFields measure steps cs).1, f.2.Everywhere HasNumber) (cs : List Char) :
    ∀ f ∈ (readFields measure (steps + 1) cs).1, f.2.Everywhere HasNumber := by
  rw [readFields]
  split
  · split
    · simp
    · next s _ _ =>
      split
      · next rest _ =>
        -- the field with the text as its name, or a fault where the text is none
        have hfirst := hvalue rest
        have hname : (if (readValue measure steps rest).1.isComplete then fault .name
            else fault .stop).Everywhere HasNumber := by
          split_ifs <;> simp
        cases s.text? <;> dsimp only <;> split <;> try split
        all_goals simp only [List.forall_mem_cons, hfirst, hname, fault_hasNumber, true_and]
        all_goals first | exact hfields _ | exact List.forall_mem_nil _
      · simp
  · simp

end

/-- By the steps, for values, items and fields at once. -/
theorem read_hasNumber (steps : Nat) :
    (∀ cs, (readValue measure steps cs).1.Everywhere HasNumber) ∧
      (∀ cs, ∀ j ∈ (readItems measure steps cs).1, j.Everywhere HasNumber) ∧
      ∀ cs, ∀ f ∈ (readFields measure steps cs).1, f.2.Everywhere HasNumber := by
  induction steps with
  | zero => simp [readValue, readItems, readFields]
  | succ steps ih =>
    obtain ⟨hvalue, hitems, hfields⟩ := ih
    exact ⟨readValue_succ hitems hfields, readItems_succ hvalue hitems, readFields_succ hvalue hfields⟩

theorem readWith_hasNumber (s : String) : (readWith measure s).Everywhere HasNumber := by
  have hvalue := (@read_hasNumber measure (2 * s.toList.length + 2)).1 s.toList
  unfold readWith readStart
  dsimp only
  split
  · next heq =>
    rw [heq] at hvalue
    split_ifs
    · exact hvalue
    · exact fault_hasNumber .stop
  · next heq =>
    rw [heq] at hvalue
    exact hvalue

end CloudDesk.Json
