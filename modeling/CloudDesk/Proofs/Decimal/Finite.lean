import Mathlib

namespace CloudDesk.Decimal

open Float.Model Float.Model.UnpackedFloat

abbrev binary : Format := Format.binary64

/-- A finite number with a mantissa of at most so many bits and an exponent of at most `k`. -/
def Bounded (bits : Nat) (k : Int) : UnpackedFloat → Prop
  | .zero _ => True
  | .finite _ m e _ => m < 2 ^ bits ∧ e ≤ k
  | _ => False

theorem bounded_finite {s : Sign} {m bits : Nat} {e k : Int} {hpos : 0 < m} (hm : m < 2 ^ bits)
    (he : e ≤ k) : Bounded bits k (.finite s m e hpos) := ⟨hm, he⟩

theorem Bounded.mono {u : UnpackedFloat} {bits : Nat} {k k' : Int} (h : Bounded bits k u)
    (hle : k ≤ k') : Bounded bits k' u := by
  cases u with
  | finite s m e hpos => exact ⟨h.1, h.2.trans hle⟩
  | zero s => exact trivial
  | infinity s => exact h
  | notANumber => exact h

theorem Bounded.isFinite {u : UnpackedFloat} {bits : Nat} {k : Int} (h : Bounded bits k u) :
    u.isFinite = true := by
  cases u with
  | finite s m e hpos => rfl
  | zero s => rfl
  | infinity s => exact absurd h id
  | notANumber => exact absurd h id

theorem log2_le {m bits : Nat} (h : m < 2 ^ bits) : (m.log2 : Int) ≤ bits := by
  by_cases hm : m = 0
  · subst hm
    simp
  · have := (Nat.log2_lt hm).mpr h
    omega

theorem mantissa_shift_le (n : Nat) (em : ExtendedMantissa) : (em >>> n).mantissa ≤ em.mantissa := by
  change (n.repeat ExtendedMantissa.shiftRightOne em).mantissa ≤ em.mantissa
  induction n with
  | zero => exact Nat.le_refl _
  | succ n ih => exact (Nat.div_le_self _ 2).trans ih

theorem mantissa_ofAccuracy (m : Nat) (a : Accuracy) :
    (ExtendedMantissa.ofMantissaAndAccuracy m a).mantissa = m := by
  unfold ExtendedMantissa.ofMantissaAndAccuracy
  split <;> rfl

theorem roundedMantissa_le (em : ExtendedMantissa) : em.roundedMantissa ≤ em.mantissa + 1 := by
  unfold ExtendedMantissa.roundedMantissa Accuracy.roundToNearestEven
  split <;> omega

theorem shift_mantissa_le (m : Nat) (e : Int) (a : Accuracy) :
    (shiftToTargetExponent binary m e a).1.mantissa ≤ m := by
  have h := mantissa_shift_le ((binary.targetExponent (totalExponent m e) - e).toNat)
    (ExtendedMantissa.ofMantissaAndAccuracy m a)
  rw [mantissa_ofAccuracy] at h
  exact h

theorem shift_exponent_le {m bits : Nat} {e k : Int} (hm : m < 2 ^ bits) (he : e ≤ k) (hk : 0 ≤ k)
    (a : Accuracy) : (shiftToTargetExponent binary m e a).2 ≤ k + bits + 1 := by
  have hlog := log2_le hm
  simp only [shiftToTargetExponent, shiftToExponent, Format.targetExponent, totalExponent,
    Format.mantissaBits, Format.minExponent]
  omega

theorem round_bounded {m bits : Nat} {e k : Int} (hm : m < 2 ^ bits) (he : e ≤ k) (hk : 0 ≤ k)
    (s : Sign) (a : Accuracy) :
    Bounded (bits + 1) (k + 2 * bits + 3) (roundWithAccuracy binary s m e a) := by
  have hm₁ := shift_mantissa_le m e a
  have he₁ := shift_exponent_le hm he hk a
  unfold roundWithAccuracy
  generalize shiftToTargetExponent binary m e a = first at hm₁ he₁ ⊢
  have hround : first.1.roundedMantissa < 2 ^ (bits + 1) := by
    have := roundedMantissa_le first.1
    have hpow := Nat.pow_succ 2 bits
    omega
  have hm₂ := shift_mantissa_le first.1.roundedMantissa first.2 .exact
  have he₂ := shift_exponent_le hround he₁ (by omega) .exact
  dsimp only
  split
  · exact trivial
  · refine ⟨Nat.lt_of_le_of_lt hm₂ hround, ?_⟩
    push_cast at he₂
    omega

theorem mul_bounded {u v : UnpackedFloat} {bits bits' : Nat} {k k' : Int} (hu : Bounded bits k u)
    (hv : Bounded bits' k' v) (h : 0 ≤ k) (h' : 0 ≤ k') :
    Bounded (bits + bits' + 1) (k + k' + 2 * (bits + bits') + 3) (UnpackedFloat.mul binary u v) := by
  cases u with
  | infinity s => exact absurd hu id
  | notANumber => exact absurd hu id
  | zero s => cases v <;> first | exact trivial | exact absurd hv id
  | finite s m e hpos =>
    cases v with
    | infinity s => exact absurd hv id
    | notANumber => exact absurd hv id
    | zero s => exact trivial
    | finite s' m' e' hpos' =>
      have hm : m * m' < 2 ^ (bits + bits') := by
        rw [Nat.pow_add]
        exact Nat.mul_lt_mul'' hu.1 hv.1
      exact_mod_cast round_bounded hm (Int.add_le_add hu.2 hv.2) (Int.add_nonneg h h') (s * s') .exact

theorem unpack_bounded {w : BitVec 64} {exponent : BitVec 11} (hw : @unpackExponent binary w = exponent)
    (h : exponent ≠ -1#11) :
    Bounded 53 (max (exponent.toNat - 1075) (-1074)) (UnpackedFloat.unpack binary w) := by
  simp only [UnpackedFloat.unpack, hw]
  rw [if_neg h]
  have hbias : (binary.exponentBias : Int) = 1023 := rfl
  split
  · next hzero =>
    split
    · exact trivial
    · subst hzero
      refine bounded_finite ?_ ?_
      · have hlt : (@unpackMantissa binary w).toNat < 2 ^ 52 := (@unpackMantissa binary w).isLt
        omega
      · rw [hbias]
        decide
  · refine bounded_finite (1#1 ++ @unpackMantissa binary w).isLt ?_
    rw [hbias]
    omega

theorem unpack_bounded_of_isFinite {w : BitVec 64} (h : (UnpackedFloat.unpack binary w).isFinite = true) :
    Bounded 53 971 (UnpackedFloat.unpack binary w) := by
  by_cases hexponent : @unpackExponent binary w = -1#11
  · simp only [UnpackedFloat.unpack, hexponent, if_true] at h
    split at h <;> cases h
  · have hne : (@unpackExponent binary w).toNat ≠ 2047 := fun heq =>
      hexponent (BitVec.eq_of_toNat_eq heq)
    have hlt : (@unpackExponent binary w).toNat < 2048 := (@unpackExponent binary w).isLt
    exact (unpack_bounded rfl hexponent).mono (by omega)

theorem unpack_pack_bounded {u : UnpackedFloat} {bits : Nat} {k : Int} (h : Bounded bits k u)
    (hk : 0 ≤ k) (hless : k < 972) :
    Bounded 53 k (UnpackedFloat.unpack binary (UnpackedFloat.pack binary u)) := by
  have hzero : ∀ s mantissa,
      Bounded 53 k (UnpackedFloat.unpack binary (packComponents binary s 0#11 mantissa)) := fun s mantissa =>
    (unpack_bounded unpackExponent_packComponents (by decide)).mono (by simp; omega)
  cases u with
  | infinity s => exact absurd h id
  | notANumber => exact absurd h id
  | zero s => exact hzero s 0#52
  | finite s m e hpos =>
    obtain ⟨-, he⟩ := h
    have hbias : (binary.exponentBias : Int) = 1023 := rfl
    simp only [UnpackedFloat.pack, hbias]
    generalize hb : (e + 1023 + (52 : Nat)).toNat = biased
    have hsmall : biased < 2047 := by omega
    rw [if_neg (by omega)]
    split
    · have hnat : (BitVec.ofNat 11 biased).toNat = biased := by
        rw [BitVec.toNat_ofNat]
        omega
      refine (unpack_bounded unpackExponent_packComponents fun heq => ?_).mono ?_
      · have h2047 : biased = 2047 := hnat.symm.trans (congrArg BitVec.toNat heq)
        omega
      · rw [hnat]
        omega
    · exact hzero s _

theorem isFinite_pack {u : UnpackedFloat} {bits : Nat} {k : Int} (h : Bounded bits k u)
    (hk : 0 ≤ k) (hless : k < 972) : (Float.Model.pack u).isFinite = true :=
  (unpack_pack_bounded h hk hless).isFinite

theorem isFinite_pack_mul {u v : UnpackedFloat} {bits bits' : Nat} {k : Int} (hu : Bounded bits k u)
    (hv : Bounded bits' 0 v) (hk : 0 ≤ k) (hless : k + 2 * (bits + bits') + 3 < 972) :
    (Float.Model.pack (UnpackedFloat.mul binary u v)).isFinite = true :=
  isFinite_pack (mul_bounded hu hv hk (Int.le_refl 0)) (by omega) (by omega)

theorem isFinite_ofScientific {n : Nat} (h : n < 2 ^ 65) : (Float.Model.ofScientific n 0).isFinite = true := by
  unfold Float.Model.ofScientific UnpackedFloat.ofScientific
  split
  · have hzero : Bounded 0 0 (.zero .positive) := trivial
    exact isFinite_pack hzero (by decide) (by decide)
  · have hbits : (2 : Int) ^ binary.exponentBits = 2048 := rfl
    rw [hbits, if_neg (by decide), if_neg (by omega), if_pos (by decide)]
    have hm : n <<< binary.mantissaBits < 2 ^ 118 := by
      rw [Nat.shiftLeft_eq, show 118 = 65 + binary.mantissaBits from rfl, Nat.pow_add]
      exact Nat.mul_lt_mul_of_pos_right h (Nat.two_pow_pos _)
    refine @isFinite_pack_mul _ _ 118 1 0 ?_ ?_ (by decide) (by decide)
    · exact bounded_finite hm (by decide)
    · exact bounded_finite (by decide) (by decide)

theorem ofNat_bounded {n : Nat} (h : n < 2 ^ 53) : Bounded 107 215 (UnpackedFloat.ofNat binary n) := by
  unfold UnpackedFloat.ofNat UnpackedFloat.ofInt UnpackedFloat.normalize
  split
  · next hlt => exact absurd (compare_lt_iff_lt.mp hlt) (by omega)
  · exact trivial
  · have hlog := log2_le h
    have hshift : (0 - binary.targetExponent (totalExponent n 0)).toNat ≤ 53 := by
      simp only [Format.targetExponent, totalExponent, Format.mantissaBits, Format.minExponent]
      omega
    rw [Int.toNat_natCast]
    unfold UnpackedFloat.round decreaseExponent
    dsimp only
    generalize (0 - binary.targetExponent (totalExponent n 0)).toNat = shift at hshift ⊢
    have hm : n <<< shift < 2 ^ 106 := by
      rw [Nat.shiftLeft_eq, show 106 = 53 + 53 from rfl, Nat.pow_add]
      exact Nat.mul_lt_mul_of_lt_of_le h (Nat.pow_le_pow_right (by decide) hshift) (Nat.two_pow_pos _)
    have he : 0 - (shift : Int) ≤ 0 := by omega
    exact (round_bounded hm he (Int.le_refl 0) .positive .exact).mono (by decide)

theorem isFinite_ofNat {n : Nat} (h : n < 2 ^ 65) : (Float.ofNat n).isFinite = true := by
  change (Float.ofScientific n false 0).isFinite = true
  unfold Float.ofScientific
  split
  · next hfast =>
    have hn : n.toUInt64.toNat = n := by
      simp
      omega
    have hleft := unpack_pack_bounded (ofNat_bounded hfast.1) (by decide) (by decide)
    have hunpack : (Float.exactlyRepresentablePowersOfTen[0]).toModel.unpack =
        .finite .positive (2 ^ 52) (-52) (by decide) := by rfl
    have hone : Bounded 53 0 (Float.exactlyRepresentablePowersOfTen[0]).toModel.unpack := by
      rw [hunpack]
      exact bounded_finite (by decide) (by decide)
    rw [← hn] at hleft
    exact isFinite_pack_mul hleft hone (by decide) (by decide)
  · exact isFinite_ofScientific h

theorem isFinite_neg {x : Float} (h : x.isFinite = true) : (-x).isFinite = true := by
  have hx : Bounded 53 971 x.toModel.unpack := unpack_bounded_of_isFinite h
  have hneg : Bounded 53 971 x.toModel.unpack.neg := by
    cases hu : x.toModel.unpack with
    | zero s => exact trivial
    | _ =>
      rw [hu] at hx
      exact hx
  exact isFinite_pack hneg (by decide) (by decide)

theorem isFinite_ofInt {n : Int} (h : n.natAbs < 2 ^ 65) : (Float.ofInt n).isFinite = true := by
  cases n with
  | ofNat n => exact isFinite_ofNat h
  | negSucc n => exact isFinite_neg (isFinite_ofNat h)

end CloudDesk.Decimal
