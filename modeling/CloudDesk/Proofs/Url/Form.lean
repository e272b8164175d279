import CloudDesk.Proofs.Text
import CloudDesk.Proofs.Text.Digits
import CloudDesk.Proofs.Text.Utf8
import CloudDesk.Url.Percent
import Mathlib.Tactic.SplitIfs

namespace CloudDesk.Url

open Text

theorem hexValue?_upperHex {d : Nat} (h : d < 16) : hexValue? (upperHex d) = some d := by
  revert d
  decide

theorem isFormPlain_upperHex {d : Nat} (h : d < 16) : isFormPlain (upperHex d) = true := by
  revert d
  decide

theorem percentDecode_byte (b : UInt8) (rest : List Char) :
    percentDecode (percentByte b ++ rest) = b :: percentDecode rest := by
  have hb := b.toNat_lt
  rw [percentByte, List.cons_append, List.cons_append, List.cons_append, List.nil_append, percentDecode,
    hexValue?_upperHex (by omega), hexValue?_upperHex (Nat.mod_lt _ (by decide))]
  simp only [ofNat_halves]

theorem percentDecode_bytes (bytes : List UInt8) (rest : List Char) :
    percentDecode (bytes.flatMap percentByte ++ rest) = bytes ++ percentDecode rest := by
  induction bytes with
  | nil => rfl
  | cons b bytes ih =>
    rw [List.flatMap_cons, List.append_assoc, percentDecode_byte, ih, List.cons_append]

theorem percentDecode_other {c : Char} (h : c ≠ '%') (rest : List Char) :
    percentDecode (c :: rest) = utf8Char c ++ percentDecode rest := by
  rw [percentDecode]
  rintro a b more rfl
  exact absurd rfl h

theorem mem_percentByte {b : UInt8} {c : Char} (h : c ∈ percentByte b) :
    isFormPlain c = true ∨ c = '%' := by
  have hb := b.toNat_lt
  simp only [percentByte, List.mem_cons, List.not_mem_nil, or_false] at h
  obtain rfl | rfl | rfl := h
  · exact .inr rfl
  · exact .inl (isFormPlain_upperHex (by omega))
  · exact .inl (isFormPlain_upperHex (Nat.mod_lt _ (by decide)))

theorem mem_formEncode {s : String} {c : Char} (h : c ∈ formEncode s) :
    isFormPlain c = true ∨ c = '%' ∨ c = '+' := by
  obtain ⟨a, -, hc⟩ := List.mem_flatMap.mp h
  unfold formChar at hc
  split_ifs at hc with hspace hplain
  · exact .inr (.inr (List.mem_singleton.mp hc))
  · rw [List.mem_singleton.mp hc]
    exact .inl hplain
  · obtain ⟨b, -, hc⟩ := List.mem_flatMap.mp hc
    exact (mem_percentByte hc).imp_right .inl

theorem not_mem_formEncode {mark : Char} (h : isFormPlain mark = false) (hpercent : mark ≠ '%')
    (hplus : mark ≠ '+') (s : String) : mark ∉ formEncode s := by
  intro hmem
  obtain hplain | hsign | hsign := mem_formEncode hmem
  · rw [h] at hplain
    cases hplain
  · exact hpercent hsign
  · exact hplus hsign

def spaced (cs : List Char) : List Char := cs.map fun c => if c == '+' then ' ' else c

theorem spaced_of_not_mem {cs : List Char} (h : '+' ∉ cs) : spaced cs = cs := by
  simp only [spaced, beq_iff_eq]
  exact replace_of_not_mem h ' '

theorem plus_not_mem_bytes (bytes : List UInt8) : '+' ∉ bytes.flatMap percentByte := by
  intro h
  obtain ⟨b, -, hb⟩ := List.mem_flatMap.mp h
  obtain hplain | hsign := mem_percentByte hb
  · exact absurd hplain (by decide)
  · exact absurd hsign (by decide)

theorem percentDecode_formChar (c : Char) (rest : List Char) :
    percentDecode (spaced (formChar c) ++ rest) = utf8Char c ++ percentDecode rest := by
  by_cases hspace : c = ' '
  · subst hspace
    exact percentDecode_other (by decide) rest
  · have hsingle : isFormPlain c = true → c ≠ '+' ∧ c ≠ '%' := by
      rintro hplain
      constructor
      · rintro rfl
        exact absurd hplain (by decide)
      · rintro rfl
        exact absurd hplain (by decide)
    rw [formChar, if_neg (by rwa [beq_iff_eq])]
    split_ifs with hplain
    · obtain ⟨hplus, hpercent⟩ := hsingle hplain
      rw [spaced_of_not_mem (by rw [List.mem_singleton]; exact Ne.symm hplus)]
      exact percentDecode_other hpercent rest
    · rw [spaced_of_not_mem (plus_not_mem_bytes _), percentDecode_bytes]

theorem percentDecode_formEncode (s : String) : percentDecode (spaced (formEncode s)) = utf8 s := by
  rw [formEncode, utf8]
  induction s.toList with
  | nil => rfl
  | cons c cs ih =>
    have hfront : spaced ((c :: cs).flatMap formChar) =
        spaced (formChar c) ++ spaced (cs.flatMap formChar) := by
      rw [List.flatMap_cons, spaced, List.map_append]
      rfl
    rw [hfront, percentDecode_formChar, ih, List.flatMap_cons]

theorem formDecode_formEncode (s : String) : formDecode (formEncode s) = s := by
  have hbytes : formDecode (formEncode s) = decodeLossy (percentDecode (spaced (formEncode s))) := rfl
  rw [hbytes, percentDecode_formEncode, decodeLossy_utf8]

theorem not_mem_formPair {mark : Char} (h : isFormPlain mark = false) (hpercent : mark ≠ '%')
    (hplus : mark ≠ '+') (hequal : mark ≠ '=') (name value : String) : mark ∉ formPair name value := by
  rw [formPair, List.mem_append, List.mem_cons]
  rintro (hname | hsign | hvalue)
  · exact not_mem_formEncode h hpercent hplus name hname
  · exact hequal hsign
  · exact not_mem_formEncode h hpercent hplus value hvalue

/-- A query of one name with its value is read as just this pair, whatever signs the two hold. -/
theorem formPairs_formPair (name value : String) :
    formPairs (formPair name value) = [(name, value)] := by
  have hequal : '=' ∉ formEncode name := not_mem_formEncode (by decide) (by decide) (by decide) name
  have hand : '&' ∉ formPair name value :=
    not_mem_formPair (by decide) (by decide) (by decide) (by decide) name value
  rw [formPairs, splitAt_of_not_mem hand, formPair]
  simp [takeWhile_mark hequal, dropWhile_mark hequal, formDecode_formEncode]

end CloudDesk.Url
