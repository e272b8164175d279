import CloudDesk.Text.Utf8
import Mathlib.Algebra.Ring.Nat

namespace CloudDesk.Text

variable {n b second : Nat} {rest : List UInt8}

theorem leading?_two (h : 0xC2 ≤ b) (h' : b ≤ 0xDF) : leading? b = some (1, 0x80, 0xBF) := by
  simp [leading?, h, h']

/-- A second byte that is too low or too high for the first one is no part of a character of three
bytes. -/
theorem leading?_three (h : 0xE0 ≤ b) (h' : b ≤ 0xEF) (hs : 0x80 ≤ second) (hs' : second ≤ 0xBF)
    (hfirst : b = 0xE0 → 0xA0 ≤ second) (hsurrogate : b = 0xED → second ≤ 0x9F) :
    ∃ least greatest, leading? b = some (2, least, greatest) ∧ least ≤ second ∧ second ≤ greatest := by
  by_cases hb : b = 0xE0
  · exact ⟨0xA0, 0xBF, by rw [hb]; rfl, hfirst hb, hs'⟩
  · by_cases hb' : b = 0xED
    · exact ⟨0x80, 0x9F, by rw [hb']; rfl, hs, hsurrogate hb'⟩
    · have hmore : ¬ b ≤ 0xDF := by omega
      have hrange : 0xE1 ≤ b := by omega
      exact ⟨0x80, 0xBF, by simp [leading?, hmore, hb, hb', hrange, h'], hs, hs'⟩

theorem leading?_four (h : 0xF0 ≤ b) (h' : b ≤ 0xF4) (hs : 0x80 ≤ second) (hs' : second ≤ 0xBF)
    (hfirst : b = 0xF0 → 0x90 ≤ second) (hlast : b = 0xF4 → second ≤ 0x8F) :
    ∃ least greatest, leading? b = some (3, least, greatest) ∧ least ≤ second ∧ second ≤ greatest := by
  by_cases hb : b = 0xF0
  · exact ⟨0x90, 0xBF, by rw [hb]; rfl, hfirst hb, hs'⟩
  · by_cases hb' : b = 0xF4
    · exact ⟨0x80, 0x8F, by rw [hb']; rfl, hs, hlast hb'⟩
    · have hmore : ¬ b ≤ 0xDF ∧ ¬ b ≤ 0xEF ∧ b ≠ 0xE0 ∧ b ≠ 0xED := by omega
      have hrange : 0xF1 ≤ b ∧ b ≤ 0xF3 := by omega
      exact ⟨0x80, 0xBF, by simp [leading?, hmore, hb, hrange], hs, hs'⟩

theorem toNat_byte (h : n < 256) : (UInt8.ofNat n).toNat = n := by
  rw [UInt8.toNat_ofNat']
  exact Nat.mod_eq_of_lt h

theorem decodeFrom_plain (h : n < 0x80) :
    decodeFrom none (UInt8.ofNat n :: rest) = some (Char.ofNat n) :: decodeFrom none rest := by
  rw [decodeFrom, toNat_byte (by omega), decodeFrom.beginWith, if_pos h]

theorem decodeFrom_leading {left least greatest : Nat} (h : 0x80 ≤ b) (h' : b < 256)
    (hleading : leading? b = some (left, least, greatest)) :
    decodeFrom none (UInt8.ofNat b :: rest) =
      decodeFrom (some ⟨left, least, greatest, b % 2 ^ (6 - left)⟩) rest := by
  rw [decodeFrom, toNat_byte h', decodeFrom.beginWith, if_neg (by omega), hleading]
  rfl

theorem decodeFrom_next {left least greatest value : Nat} (h : b < 256) (hleast : least ≤ b)
    (hgreatest : b ≤ greatest) :
    decodeFrom (some ⟨left + 2, least, greatest, value⟩) (UInt8.ofNat b :: rest) =
      decodeFrom (some ⟨left + 1, 0x80, 0xBF, value * 64 + b % 64⟩) rest := by
  simp [decodeFrom, toNat_byte h, hleast, hgreatest]

theorem decodeFrom_last {least greatest value : Nat} (h : b < 256) (hleast : least ≤ b)
    (hgreatest : b ≤ greatest) :
    decodeFrom (some ⟨1, least, greatest, value⟩) (UInt8.ofNat b :: rest) =
      some (Char.ofNat (value * 64 + b % 64)) :: decodeFrom none rest := by
  simp [decodeFrom, toNat_byte h, hleast, hgreatest]

theorem decodeFrom_two (h : 0x80 ≤ n) (h' : n < 0x800) :
    decodeFrom none (UInt8.ofNat (0xC0 + n / 64) :: UInt8.ofNat (0x80 + n % 64) :: rest) =
      some (Char.ofNat n) :: decodeFrom none rest := by
  have hvalue : (0xC0 + n / 64) % 2 ^ (6 - 1) * 64 + (0x80 + n % 64) % 64 = n := by omega
  rw [decodeFrom_leading (by omega) (by omega) (leading?_two (by omega) (by omega)),
    decodeFrom_last (by omega) (by omega) (by omega), hvalue]

theorem decodeFrom_three (h : 0x800 ≤ n) (h' : n < 0x10000) (hvalid : n < 0xD800 ∨ 0xDFFF < n) :
    decodeFrom none (UInt8.ofNat (0xE0 + n / 4096) :: UInt8.ofNat (0x80 + n / 64 % 64) ::
      UInt8.ofNat (0x80 + n % 64) :: rest) = some (Char.ofNat n) :: decodeFrom none rest := by
  have hvalue : ((0xE0 + n / 4096) % 2 ^ (6 - 2) * 64 + (0x80 + n / 64 % 64) % 64) * 64 +
      (0x80 + n % 64) % 64 = n := by omega
  obtain ⟨least, greatest, hleading, hleast, hgreatest⟩ : ∃ least greatest,
      leading? (0xE0 + n / 4096) = some (2, least, greatest) ∧ least ≤ 0x80 + n / 64 % 64 ∧
        0x80 + n / 64 % 64 ≤ greatest := by
    apply leading?_three <;> omega
  rw [decodeFrom_leading (by omega) (by omega) hleading, decodeFrom_next (by omega) hleast hgreatest,
    decodeFrom_last (by omega) (by omega) (by omega), hvalue]

theorem decodeFrom_four (h : 0x10000 ≤ n) (h' : n < 0x110000) :
    decodeFrom none (UInt8.ofNat (0xF0 + n / 262144) :: UInt8.ofNat (0x80 + n / 4096 % 64) ::
      UInt8.ofNat (0x80 + n / 64 % 64) :: UInt8.ofNat (0x80 + n % 64) :: rest) =
        some (Char.ofNat n) :: decodeFrom none rest := by
  have hvalue : (((0xF0 + n / 262144) % 2 ^ (6 - 3) * 64 + (0x80 + n / 4096 % 64) % 64) * 64 +
      (0x80 + n / 64 % 64) % 64) * 64 + (0x80 + n % 64) % 64 = n := by omega
  obtain ⟨least, greatest, hleading, hleast, hgreatest⟩ : ∃ least greatest,
      leading? (0xF0 + n / 262144) = some (3, least, greatest) ∧ least ≤ 0x80 + n / 4096 % 64 ∧
        0x80 + n / 4096 % 64 ≤ greatest := by
    apply leading?_four <;> omega
  rw [decodeFrom_leading (by omega) (by omega) hleading, decodeFrom_next (by omega) hleast hgreatest,
    decodeFrom_next (by omega) (by omega) (by omega),
    decodeFrom_last (by omega) (by omega) (by omega), hvalue]

theorem decodeFrom_utf8Char (c : Char) (rest : List UInt8) :
    decodeFrom none (utf8Char c ++ rest) = some c :: decodeFrom none rest := by
  have hvalid : c.toNat < 0xD800 ∨ (0xDFFF < c.toNat ∧ c.toNat < 0x110000) := c.valid
  have hchar : some (Char.ofNat c.toNat) :: decodeFrom none rest = some c :: decodeFrom none rest := by
    rw [Char.ofNat_toNat]
  simp only [utf8Char]
  rw [← hchar]
  split_ifs with h h' h''
  · exact decodeFrom_plain h
  · exact decodeFrom_two (by omega) h'
  · exact decodeFrom_three (by omega) h'' (by omega)
  · exact decodeFrom_four (by omega) (by omega)

theorem decodeFrom_flatMap (cs : List Char) :
    decodeFrom none (cs.flatMap utf8Char) = cs.map some := by
  induction cs with
  | nil => rfl
  | cons c cs ih => rw [List.flatMap_cons, decodeFrom_utf8Char, ih, List.map_cons]

theorem decodeLossy_utf8 (s : String) : decodeLossy (utf8 s) = s := by
  have hchars : (s.toList.map some).map (fun c => c.getD replacement) = s.toList := by
    rw [List.map_map]
    exact List.map_id s.toList
  rw [decodeLossy, utf8, decodeFrom_flatMap, hchars, String.ofList_toList]

end CloudDesk.Text
