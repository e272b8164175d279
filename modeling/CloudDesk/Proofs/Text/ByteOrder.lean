import CloudDesk.Text.Utf8
import Mathlib.Data.String.Basic

namespace CloudDesk.Text

/-- Where two characters differ, their bytes decide, whatever follows. -/
theorem utf8Char_lt {c d : Char} (h : c < d) (rest rest' : List UInt8) :
    utf8Char c ++ rest < utf8Char d ++ rest' := by
  have hlt : c.toNat < d.toNat := h
  have hd : d.toNat < 1114112 := by
    obtain hd | ⟨-, hd⟩ := d.valid
    · exact lt_trans hd (by decide)
    · exact hd
  simp only [utf8Char]
  generalize c.toNat = m, d.toNat = n at *
  split_ifs <;>
    simp (disch := omega) only [List.cons_append, List.nil_append, List.cons_lt_cons_iff,
      UInt8.lt_iff_toNat_lt, ← UInt8.toNat_inj, UInt8.toNat_ofNat', Nat.mod_eq_of_lt] <;>
    omega

theorem utf8Char_ne_nil (c : Char) : utf8Char c ≠ [] := by
  simp only [utf8Char]
  split_ifs <;> exact List.cons_ne_nil _ _

theorem flatMap_utf8Char_lt {cs ds : List Char} (h : cs < ds) :
    cs.flatMap utf8Char < ds.flatMap utf8Char := by
  induction h with
  | @nil c rest =>
    obtain ⟨b, more, hb⟩ := List.exists_cons_of_ne_nil (utf8Char_ne_nil c)
    rw [List.flatMap_cons, hb]
    exact List.Lex.nil
  | @cons c cs ds _ ih =>
    rw [List.flatMap_cons, List.flatMap_cons]
    exact List.append_left_lt ih
  | rel h => exact utf8Char_lt h _ _

theorem utf8_lt_utf8 {s t : String} : utf8 s < utf8 t ↔ s < t := by
  constructor
  · intro h
    obtain hlt | rfl | hgt := lt_trichotomy s t
    · exact hlt
    · exact absurd h (List.lt_irrefl _)
    · exact absurd h (List.lt_asymm (flatMap_utf8Char_lt (String.lt_iff_toList_lt.mp hgt)))
  · intro h
    exact flatMap_utf8Char_lt (String.lt_iff_toList_lt.mp h)

end CloudDesk.Text
