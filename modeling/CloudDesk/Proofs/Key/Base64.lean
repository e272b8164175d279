import CloudDesk.Key.Base64
import CloudDesk.Proofs.Text

namespace CloudDesk.Base64

theorem value?_digit {v : Nat} (h : v < 64) : value? (digit v) = some v := by
  revert v
  decide +kernel

theorem value?_eq_some {c : Char} {v : Nat} (h : value? c = some v) : v < 64 ∧ digit v = c := by
  have hchar : ∀ n, n = c.toNat → Char.ofNat n = c := fun n hn => by rw [hn, Char.ofNat_toNat]
  simp only [value?, Bool.and_eq_true, decide_eq_true_eq] at h
  split_ifs at h with hupper hlower hdigit hplus hslash
  all_goals obtain rfl := Option.some.inj h
  · refine ⟨by omega, ?_⟩
    rw [digit, if_pos (by omega)]
    exact hchar _ (by omega)
  · refine ⟨by omega, ?_⟩
    rw [digit, if_neg (by omega), if_pos (by omega)]
    exact hchar _ (by omega)
  · refine ⟨by omega, ?_⟩
    rw [digit, if_neg (by omega), if_neg (by omega), if_pos (by omega)]
    exact hchar _ (by omega)
  · exact ⟨by decide, hplus.symm⟩
  · exact ⟨by decide, hslash.symm⟩

theorem isDigit_digit {v : Nat} (h : v < 64) : isDigit (digit v) = true := by
  rw [isDigit, value?_digit h]
  rfl

theorem values_digits {vs : List Nat} (h : ∀ v ∈ vs, v < 64) :
    (vs.map digit).filterMap value? = vs := by
  induction vs with
  | nil => rfl
  | cons v rest ih =>
    obtain ⟨hv, hrest⟩ := List.forall_mem_cons.mp h
    rw [List.map_cons, List.filterMap_cons_some (value?_digit hv), ih hrest]

theorem digits_values {ds : List Char} (h : ∀ c ∈ ds, isDigit c = true) :
    (ds.filterMap value?).map digit = ds := by
  induction ds with
  | nil => rfl
  | cons c rest ih =>
    obtain ⟨hc, hrest⟩ := List.forall_mem_cons.mp h
    obtain ⟨v, hv⟩ := Option.isSome_iff_exists.mp hc
    rw [List.filterMap_cons_some hv, List.map_cons, ih hrest, (value?_eq_some hv).2]

def values : List UInt8 → List Nat
  | [] => []
  | [a] => [a.toNat / 4, a.toNat % 4 * 16]
  | [a, b] =>
    let n := a.toNat * 256 + b.toNat
    [n / 1024, n / 16 % 64, n % 16 * 4]
  | a :: b :: c :: rest =>
    let n := a.toNat * 65536 + b.toNat * 256 + c.toNat
    n / 262144 :: n / 4096 % 64 :: n / 64 % 64 :: n % 64 :: values rest

theorem encodeUnpadded_eq (bs : List UInt8) : encodeUnpadded bs = (values bs).map digit := by
  induction bs using values.induct with
  | case1 => rfl
  | case2 a => rfl
  | case3 a b => rfl
  | case4 a b c rest ih => rw [encodeUnpadded, ih]; rfl

/-- Values of which each is one digit, and which fill bytes with no bit left over that is set. -/
structure Packed (vs : List Nat) : Prop where
  small : ∀ v ∈ vs, v < 64
  count : vs.length % 4 ≠ 1
  spare : spareBits vs.length (vs.getLast?.getD 0) = 0

theorem ofNat_eq {n : Nat} {b : UInt8} (h : n % 256 = b.toNat) : UInt8.ofNat n = b := by
  apply UInt8.toNat_inj.mp
  rw [UInt8.toNat_ofNat']
  exact h

theorem bytes_values (bs : List UInt8) : bytes (values bs) = bs := by
  induction bs using values.induct with
  | case1 => rfl
  | case2 a =>
    have ha : (a.toNat / 4 * 64 + a.toNat % 4 * 16) / 16 % 256 = a.toNat := by
      have := a.toNat_lt
      omega
    simp only [values, bytes, ofNat_eq ha]
  | case3 a b =>
    have ha := a.toNat_lt
    have hb := b.toNat_lt
    simp only [values, bytes]
    obtain ⟨n, hn⟩ : ∃ n, n = a.toNat * 256 + b.toNat := ⟨_, rfl⟩
    rw [← hn]
    have hm : n / 1024 * 4096 + n / 16 % 64 * 64 + n % 16 * 4 = n * 4 := by omega
    have hfirst : n * 4 / 1024 % 256 = a.toNat := by omega
    have hsecond : n * 4 / 4 % 256 = b.toNat := by omega
    rw [hm, ofNat_eq hfirst, ofNat_eq hsecond]
  | case4 a b c rest ih =>
    have ha := a.toNat_lt
    have hb := b.toNat_lt
    have hc := c.toNat_lt
    simp only [values, bytes, ih]
    obtain ⟨n, hn⟩ : ∃ n, n = a.toNat * 65536 + b.toNat * 256 + c.toNat := ⟨_, rfl⟩
    rw [← hn]
    have hm : n / 262144 * 262144 + n / 4096 % 64 * 4096 + n / 64 % 64 * 64 + n % 64 = n := by omega
    have hfirst : n / 65536 % 256 = a.toNat := by omega
    have hsecond : n / 256 % 256 = b.toNat := by omega
    have hthird : n % 256 = c.toNat := by omega
    rw [hm, ofNat_eq hfirst, ofNat_eq hsecond, ofNat_eq hthird]

theorem spareBits_four (a b c d : Nat) (rest : List Nat) :
    spareBits (a :: b :: c :: d :: rest).length ((a :: b :: c :: d :: rest).getLast?.getD 0) =
      spareBits rest.length (rest.getLast?.getD 0) := by
  have hcount : (a :: b :: c :: d :: rest).length % 4 = rest.length % 4 := by
    simp only [List.length_cons]
    omega
  unfold spareBits
  rw [hcount]
  cases rest with
  | nil => rfl
  | cons e rest => simp only [List.getLast?_cons_cons]

theorem packed_four {a b c d : Nat} {rest : List Nat} :
    Packed (a :: b :: c :: d :: rest) ↔
      (a < 64 ∧ b < 64 ∧ c < 64 ∧ d < 64) ∧ Packed rest := by
  have hcount : (a :: b :: c :: d :: rest).length % 4 = rest.length % 4 := by
    simp only [List.length_cons]
    omega
  have hspare := spareBits_four a b c d rest
  constructor
  · intro h
    have hsmall := h.small
    simp only [List.forall_mem_cons] at hsmall
    obtain ⟨ha, hb, hc, hd, hrest⟩ := hsmall
    exact ⟨⟨ha, hb, hc, hd⟩, hrest, hcount ▸ h.count, hspare ▸ h.spare⟩
  · rintro ⟨⟨ha, hb, hc, hd⟩, h⟩
    refine ⟨?_, hcount ▸ h.count, hspare ▸ h.spare⟩
    simp only [List.forall_mem_cons]
    exact ⟨ha, hb, hc, hd, h.small⟩

theorem packed_values (bs : List UInt8) : Packed (values bs) := by
  induction bs using values.induct with
  | case1 => exact ⟨by simp [values], by decide, rfl⟩
  | case2 a =>
    have ha := a.toNat_lt
    refine ⟨?_, by simp [values], ?_⟩
    · simp only [values, List.forall_mem_cons]
      exact ⟨by omega, by omega, by simp⟩
    · have hspare : a.toNat % 4 * 16 % 16 = 0 := by omega
      exact hspare
  | case3 a b =>
    have ha := a.toNat_lt
    have hb := b.toNat_lt
    refine ⟨?_, by simp [values], ?_⟩
    · simp only [values, List.forall_mem_cons]
      exact ⟨by omega, by omega, by omega, by simp⟩
    · have hspare : (a.toNat * 256 + b.toNat) % 16 * 4 % 4 = 0 := by omega
      exact hspare
  | case4 a b c rest ih =>
    have ha := a.toNat_lt
    have hb := b.toNat_lt
    have hc := c.toNat_lt
    exact packed_four.mpr ⟨⟨by omega, by omega, by omega, by omega⟩, ih⟩

theorem values_bytes : ∀ {vs : List Nat}, Packed vs → values (bytes vs) = vs
  | [], _ => rfl
  | [a], h => absurd rfl h.count
  | [a, b], h => by
    have ha := h.small a (by simp)
    have hb := h.small b (by simp)
    have hspare : b % 16 = 0 := h.spare
    simp only [bytes, values, UInt8.toNat_ofNat']
    have hfirst : (a * 64 + b) / 16 % 2 ^ 8 / 4 = a := by omega
    have hsecond : (a * 64 + b) / 16 % 2 ^ 8 % 4 * 16 = b := by omega
    rw [hfirst, hsecond]
  | [a, b, c], h => by
    have ha := h.small a (by simp)
    have hb := h.small b (by simp)
    have hc := h.small c (by simp)
    have hspare : c % 4 = 0 := h.spare
    simp only [bytes, values, UInt8.toNat_ofNat']
    obtain ⟨n, hn⟩ : ∃ n, n = a * 4096 + b * 64 + c := ⟨_, rfl⟩
    rw [← hn]
    have hm : n / 1024 % 2 ^ 8 * 256 + n / 4 % 2 ^ 8 = n / 4 := by omega
    have hfirst : n / 4 / 1024 = a := by omega
    have hsecond : n / 4 / 16 % 64 = b := by omega
    have hthird : n / 4 % 16 * 4 = c := by omega
    rw [hm, hfirst, hsecond, hthird]
  | a :: b :: c :: d :: rest, h => by
    obtain ⟨⟨ha, hb, hc, hd⟩, hrest⟩ := packed_four.mp h
    simp only [bytes, values, UInt8.toNat_ofNat', values_bytes hrest]
    obtain ⟨n, hn⟩ : ∃ n, n = a * 262144 + b * 4096 + c * 64 + d := ⟨_, rfl⟩
    rw [← hn]
    have hm : n / 65536 % 2 ^ 8 * 65536 + n / 256 % 2 ^ 8 * 256 + n % 2 ^ 8 = n := by omega
    have hfirst : n / 262144 = a := by omega
    have hsecond : n / 4096 % 64 = b := by omega
    have hthird : n / 64 % 64 = c := by omega
    have hfourth : n % 64 = d := by omega
    rw [hm, hfirst, hsecond, hthird, hfourth]

theorem encodeUnpadded_isDigit (bs : List UInt8) : ∀ c ∈ encodeUnpadded bs, isDigit c = true := by
  intro c hc
  rw [encodeUnpadded_eq] at hc
  obtain ⟨v, hv, rfl⟩ := List.mem_map.mp hc
  exact isDigit_digit ((packed_values bs).small v hv)

theorem encodeUnpadded_ne_nil {bs : List UInt8} (h : bs ≠ []) : encodeUnpadded bs ≠ [] := by
  intro hnil
  rw [encodeUnpadded_eq, List.map_eq_nil_iff] at hnil
  apply h
  rw [← bytes_values bs, hnil]
  rfl

theorem pads_le_two (bs : List UInt8) : (4 - (encodeUnpadded bs).length % 4) % 4 ≤ 2 := by
  have hcount := (packed_values bs).count
  rw [encodeUnpadded_eq, List.length_map]
  omega

theorem values_encodeUnpadded (bs : List UInt8) :
    (encodeUnpadded bs).filterMap value? = values bs := by
  rw [encodeUnpadded_eq, values_digits (packed_values bs).small]

theorem digits_padded_inj {ds ds' : List Char} (hds : ∀ c ∈ ds, isDigit c = true)
    (hds' : ∀ c ∈ ds', isDigit c = true) {pads pads' : Nat}
    (h : ds ++ List.replicate pads '=' = ds' ++ List.replicate pads' '=') : ds = ds' ∧ pads = pads' := by
  have hstop : ∀ n, ∀ c ∈ (List.replicate n '=').head?, isDigit c = false := by
    intro n c hc
    rw [List.eq_of_mem_replicate (List.mem_of_mem_head? hc)]
    decide
  have hdigits : ds = ds' := by
    rw [← Text.takeWhile_run hds (hstop pads), h, Text.takeWhile_run hds' (hstop pads')]
  rw [hdigits, List.append_cancel_left_eq] at h
  exact ⟨hdigits, by simpa using congrArg List.length h⟩

section

variable {core : List Char} (hcore : ∀ c ∈ core, isDigit c = true)
include hcore

theorem length_values : (core.filterMap value?).length = core.length := by
  have hlength := congrArg List.length (digits_values hcore)
  rwa [List.length_map] at hlength

theorem last_value :
    (value? (core.getLast?.getD 'A')).getD 0 = (core.filterMap value?).getLast?.getD 0 := by
  obtain rfl | ⟨front, c, rfl⟩ := core.eq_nil_or_concat
  · rfl
  · obtain ⟨v, hv⟩ := Option.isSome_iff_exists.mp (hcore c (by simp))
    simp [hv]

theorem decode_ok_iff_packed {pads : Nat} (hpads : pads ≤ 2) {blob : List UInt8} :
    decode core pads = .ok blob ↔ Packed (core.filterMap value?) ∧
      pads = (4 - core.length % 4) % 4 ∧ bytes (core.filterMap value?) = blob := by
  have hpacked : Packed (core.filterMap value?) ↔ core.length % 4 ≠ 1 ∧
      spareBits core.length ((value? (core.getLast?.getD 'A')).getD 0) = 0 := by
    rw [last_value hcore, ← length_values hcore]
    refine ⟨fun h => ⟨h.count, h.spare⟩, fun ⟨hcount, hspare⟩ => ⟨?_, hcount, hspare⟩⟩
    intro v hv
    obtain ⟨c, -, hc⟩ := List.mem_filterMap.mp hv
    exact (value?_eq_some hc).1
  rw [hpacked]
  simp only [decode, bne_iff_ne, Bool.and_eq_true, decide_eq_true_eq]
  split_ifs with hremainder hearly hpadding hspare
  · exact iff_of_false (by simp) (by omega)
  · exact iff_of_false (by simp) (by omega)
  · exact iff_of_false (by simp) (by omega)
  · exact iff_of_false (by simp) fun h => hspare h.1.2
  · have hcount : core.length % 4 ≠ 1 := by omega
    have hcomplete : pads = (4 - core.length % 4) % 4 := by omega
    simp only [Except.ok.injEq, ne_eq, hcount, not_false_eq_true, not_not.mp hspare, and_self,
      ← hcomplete, true_and]

/-- What is read as some bytes is what they are written as. -/
theorem decode_ok_iff {pads : Nat} (hpads : pads ≤ 2) {blob : List UInt8} :
    decode core pads = .ok blob ↔ core ++ List.replicate pads '=' = encode blob := by
  rw [decode_ok_iff_packed hcore hpads]
  constructor
  · rintro ⟨hpacked, rfl, rfl⟩
    simp only [encode, padding, encodeUnpadded_eq, values_bytes hpacked, digits_values hcore]
  · intro h
    obtain ⟨rfl, rfl⟩ := digits_padded_inj hcore (encodeUnpadded_isDigit blob) h
    rw [values_encodeUnpadded]
    exact ⟨packed_values blob, rfl, bytes_values blob⟩

end

example : encode [102, 111, 111, 98, 97] = "Zm9vYmE=".toList := by decide

theorem encode_injective {bs bs' : List UInt8} (h : encode bs = encode bs') : bs = bs' := by
  obtain ⟨hdigits, -⟩ :=
    digits_padded_inj (encodeUnpadded_isDigit bs) (encodeUnpadded_isDigit bs') h
  rw [← bytes_values bs, ← values_encodeUnpadded, hdigits, values_encodeUnpadded, bytes_values]

end CloudDesk.Base64
