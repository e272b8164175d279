import CloudDesk.Text.Basic
import Mathlib.Algebra.Group.Nat.Defs
import Mathlib.Data.List.Induction

namespace CloudDesk.Text

theorem isDigit_iff {c : Char} : isDigit c = true ↔ 48 ≤ c.toNat ∧ c.toNat ≤ 57 := by
  unfold isDigit digitValue?
  split <;> simp_all

theorem not_isBlank_of_isDigit {c : Char} (h : isDigit c = true) : isBlank c = false := by
  have hc := isDigit_iff.mp h
  simp [isBlank]
  omega

theorem isDigit_of_mem_digits {n : Nat} {c : Char} (h : c ∈ digits n) : isDigit c = true := by
  have hc : c.isDigit = true := Nat.isDigit_of_mem_toDigits (by decide) (by decide) h
  rw [isDigit_iff]
  simpa [Char.isDigit, UInt32.le_iff_toNat_le] using hc

theorem isDigit_of_mem_padded {width n : Nat} {c : Char} (h : c ∈ padded width n) : isDigit c = true := by
  obtain h | h := List.mem_append.mp h
  · rw [List.eq_of_mem_replicate h]
    rfl
  · exact isDigit_of_mem_digits h

theorem length_padded {width n : Nat} (hwidth : 0 < width) (h : n < 10 ^ width) :
    (padded width n).length = width := by
  have hle : (digits n).length ≤ width := (Nat.length_toDigits_le_iff (by decide) hwidth).mpr h
  simp only [padded, List.length_append, List.length_replicate]
  omega

theorem padded_ne_nil (width n : Nat) : padded width n ≠ [] :=
  List.append_ne_nil_of_right_ne_nil _ Nat.toDigits_ne_nil

theorem digitValue?_getD {c : Char} (h : isDigit c = true) : (digitValue? c).getD 0 = c.toNat - '0'.toNat := by
  rw [digitValue?, if_pos (by simpa using isDigit_iff.mp h)]
  rfl

theorem foldl_digits {cs : List Char} (h : ∀ c ∈ cs, isDigit c = true) (n : Nat) :
    cs.foldl (fun n c => 10 * n + (digitValue? c).getD 0) n = Nat.ofDigitChars 10 cs n := by
  induction cs generalizing n with
  | nil => rfl
  | cons c cs ih =>
    obtain ⟨hc, hcs⟩ := List.forall_mem_cons.mp h
    rw [List.foldl_cons, digitValue?_getD hc, Nat.ofDigitChars_cons]
    exact ih hcs _

theorem ofDigits_padded (width n : Nat) : ofDigits (padded width n) = n := by
  rw [ofDigits, foldl_digits fun c => isDigit_of_mem_padded, padded, Nat.ofDigitChars_append,
    Nat.ofDigitChars_replicate_zero, Nat.mul_zero]
  exact Nat.ofDigitChars_ten_toDigits

theorem ofDigits_lt {cs : List Char} (h : ∀ c ∈ cs, isDigit c = true) : ofDigits cs < 10 ^ cs.length := by
  induction cs using List.reverseRecOn with
  | nil => decide
  | append_singleton cs c ih =>
    have hc := isDigit_iff.mp (h c (by simp))
    have hcs := ih fun c hc => h c (by simp [hc])
    have hvalue := digitValue?_getD (h c (by simp))
    have hzero : '0'.toNat = 48 := rfl
    simp only [ofDigits, List.foldl_append, List.foldl_cons, List.foldl_nil, List.length_append,
      List.length_singleton, Nat.pow_succ] at hcs ⊢
    omega

theorem hexValue?_digitChar {d : Nat} (h : d < 16) : hexValue? (digitChar d) = some d := by
  revert d
  decide

theorem ofNat_halves (b : UInt8) : UInt8.ofNat (16 * (b.toNat / 16) + b.toNat % 16) = b := by
  rw [Nat.div_add_mod, UInt8.ofNat_toNat]

end CloudDesk.Text
