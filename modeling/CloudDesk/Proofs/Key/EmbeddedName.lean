import CloudDesk.Key.PublicKey
import CloudDesk.Proofs.Key.Base64

namespace CloudDesk.PublicKey

def lengthPrefixed (name : List UInt8) : List UInt8 := Sha256.bigEndian 4 name.length ++ name

theorem lengthField_bigEndian {n : Nat} (h : n < UInt32.size) (rest : List UInt8) :
    lengthField (Sha256.bigEndian 4 n ++ rest) = some (n, rest) := by
  have hsize : UInt32.size = 4294967296 := rfl
  have hn : n / 256 / 256 / 256 % 2 ^ 8 * 16777216 + n / 256 / 256 % 2 ^ 8 * 65536 +
      n / 256 % 2 ^ 8 * 256 + n % 2 ^ 8 = n := by omega
  simp only [Sha256.bigEndian, List.nil_append, List.cons_append, lengthField,
    UInt8.toNat_ofNat', hn]

theorem bigEndian_of_lengthField {blob rest : List UInt8} {n : Nat}
    (h : lengthField blob = some (n, rest)) : n < UInt32.size ∧ Sha256.bigEndian 4 n ++ rest = blob := by
  match blob with
  | [] | [_] | [_, _] | [_, _, _] => cases h
  | a :: b :: c :: d :: bytes =>
    have ha := a.toNat_lt
    have hb := b.toNat_lt
    have hc := c.toNat_lt
    have hd := d.toNat_lt
    obtain ⟨hn, rfl⟩ := Prod.mk.inj (Option.some.inj h)
    have hsize : UInt32.size = 4294967296 := rfl
    refine ⟨by omega, ?_⟩
    have hfirst : n / 256 / 256 / 256 % 256 = a.toNat := by omega
    have hsecond : n / 256 / 256 % 256 = b.toNat := by omega
    have hthird : n / 256 % 256 = c.toNat := by omega
    have hfourth : n % 256 = d.toNat := by omega
    simp only [Sha256.bigEndian, Base64.ofNat_eq hfirst, Base64.ofNat_eq hsecond,
      Base64.ofNat_eq hthird, Base64.ofNat_eq hfourth, List.nil_append, List.cons_append]

theorem embeddedName_eq_some_iff {blob name : List UInt8} :
    embeddedName blob = some name ↔ name.length < UInt32.size ∧ lengthPrefixed name <+: blob := by
  constructor
  · intro h
    obtain ⟨⟨n, rest⟩, hfield, hname⟩ := Option.bind_eq_some_iff.mp h
    obtain ⟨hn, rfl⟩ := bigEndian_of_lengthField hfield
    obtain ⟨hle, hname⟩ := Option.ite_none_right_eq_some.mp hname
    obtain rfl := Option.some.inj hname
    have hlength : (rest.take n).length = n := List.length_take_of_le hle
    refine ⟨hlength.symm ▸ hn, rest.drop n, ?_⟩
    rw [lengthPrefixed, hlength, List.append_assoc, List.take_append_drop]
  · rintro ⟨hlength, key, rfl⟩
    rw [embeddedName, lengthPrefixed, List.append_assoc, lengthField_bigEndian hlength]
    simp

/-- What stops a machine: an index past the end, or a sum past the largest word. -/
inductive Fault
  | index
  | overflow
  deriving DecidableEq

def byteAt (blob : List UInt8) (i : Nat) : Except Fault UInt8 :=
  match blob[i]? with
  | some b => .ok b
  | none => .error .index

def addWords (x y : UInt64) : Except Fault UInt64 :=
  if x.toNat + y.toNat < UInt64.size then .ok (x + y) else .error .overflow

def slice (blob : List UInt8) (start stop : UInt64) : Option (List UInt8) :=
  if start ≤ stop ∧ stop.toNat ≤ blob.length then
    some ((blob.take stop.toNat).drop start.toNat)
  else none

/-- The embedded name by indices and sums of words, any of which might stop the machine. -/
def embeddedNameInWords (blob : List UInt8) : Except Fault (Option (List UInt8)) :=
  if blob.length < 4 then .ok none
  else do
    let a ← byteAt blob 0
    let b ← byteAt blob 1
    let c ← byteAt blob 2
    let d ← byteAt blob 3
    let count := a.toUInt32 <<< 24 ||| b.toUInt32 <<< 16 ||| c.toUInt32 <<< 8 ||| d.toUInt32
    let stop ← addWords 4 count.toUInt64
    return slice blob 4 stop

theorem toNat_word (a b c d : UInt8) :
    (a.toUInt32 <<< 24 ||| b.toUInt32 <<< 16 ||| c.toUInt32 <<< 8 ||| d.toUInt32).toNat =
      a.toNat * 16777216 + b.toNat * 65536 + c.toNat * 256 + d.toNat := by
  have hb := b.toNat_lt
  have hc := c.toNat_lt
  have hd := d.toNat_lt
  have hshift : ∀ (x : UInt8) (k : Nat), k ≤ 24 → x.toNat <<< k % 2 ^ 32 = x.toNat <<< k := by
    intro x k hk
    apply Nat.mod_eq_of_lt
    calc x.toNat <<< k = x.toNat * 2 ^ k := Nat.shiftLeft_eq _ _
      _ < 2 ^ 8 * 2 ^ k := Nat.mul_lt_mul_of_pos_right x.toNat_lt (Nat.two_pow_pos k)
      _ = 2 ^ (8 + k) := (Nat.pow_add 2 8 k).symm
      _ ≤ 2 ^ 32 := Nat.pow_le_pow_right (by decide) (by omega)
  have hlow : c.toNat <<< 8 ||| d.toNat = c.toNat * 256 + d.toNat := by
    rw [← Nat.shiftLeft_add_eq_or_of_lt hd, Nat.shiftLeft_eq]
  have hmiddle : b.toNat <<< 16 ||| (c.toNat * 256 + d.toNat) =
      b.toNat * 65536 + (c.toNat * 256 + d.toNat) := by
    rw [← Nat.shiftLeft_add_eq_or_of_lt (by omega), Nat.shiftLeft_eq]
  have hhigh : a.toNat <<< 24 ||| (b.toNat * 65536 + (c.toNat * 256 + d.toNat)) =
      a.toNat * 16777216 + (b.toNat * 65536 + (c.toNat * 256 + d.toNat)) := by
    rw [← Nat.shiftLeft_add_eq_or_of_lt (by omega), Nat.shiftLeft_eq]
  have h24 : (24 : UInt32).toNat % 32 = 24 := rfl
  have h16 : (16 : UInt32).toNat % 32 = 16 := rfl
  have h8 : (8 : UInt32).toNat % 32 = 8 := rfl
  simp only [UInt32.toNat_or, UInt32.toNat_shiftLeft, UInt8.toNat_toUInt32, Nat.or_assoc]
  rw [h24, h16, h8, hshift a 24 (by decide), hshift b 16 (by decide), hshift c 8 (by decide),
    hlow, hmiddle, hhigh, Nat.add_assoc, Nat.add_assoc]

theorem addWords_four (count : UInt32) :
    ∃ stop, addWords 4 count.toUInt64 = .ok stop ∧ stop.toNat = count.toNat + 4 := by
  have hcount : count.toNat < 2 ^ 32 := count.toNat_lt
  have hfour : (4 : UInt64).toNat = 4 := rfl
  have hsize : UInt64.size = 2 ^ 64 := rfl
  refine ⟨4 + count.toUInt64, if_pos ?_, ?_⟩
  · rw [UInt32.toNat_toUInt64]
    omega
  · rw [UInt64.toNat_add, UInt32.toNat_toUInt64]
    omega

theorem slice_four {stop : UInt64} {n : Nat} (h : stop.toNat = n + 4) (a b c d : UInt8)
    (rest : List UInt8) :
    slice (a :: b :: c :: d :: rest) 4 stop = if n ≤ rest.length then some (rest.take n) else none := by
  have hfour : (4 : UInt64).toNat = 4 := rfl
  simp only [slice, UInt64.le_iff_toNat_le, h, hfour, Nat.le_add_left, true_and, List.length_cons,
    Nat.add_le_add_iff_right, List.take_succ_cons, List.drop_succ_cons, List.drop_zero]

/-- Whatever length the bytes claim, nothing stops the machine, and it finds the embedded name. -/
theorem embeddedNameInWords_eq (blob : List UInt8) :
    embeddedNameInWords blob = .ok (embeddedName blob) := by
  match blob with
  | [] | [_] | [_, _] | [_, _, _] => rfl
  | a :: b :: c :: d :: rest =>
    obtain ⟨count, hcount⟩ : ∃ count, count =
        a.toUInt32 <<< 24 ||| b.toUInt32 <<< 16 ||| c.toUInt32 <<< 8 ||| d.toUInt32 := ⟨_, rfl⟩
    have hread : embeddedNameInWords (a :: b :: c :: d :: rest) =
        (addWords 4 count.toUInt64).map (slice (a :: b :: c :: d :: rest) 4) := by
      rw [hcount]
      rfl
    have hfield : lengthField (a :: b :: c :: d :: rest) = some (count.toNat, rest) := by
      rw [hcount, toNat_word, lengthField]
    have hname : embeddedName (a :: b :: c :: d :: rest) =
        if count.toNat ≤ rest.length then some (rest.take count.toNat) else none := by
      rw [embeddedName, hfield, Option.bind_some]
    obtain ⟨stop, hstop, hplace⟩ := addWords_four count
    rw [hread, hstop, hname, ← slice_four hplace a b c d rest, Except.map]

end CloudDesk.PublicKey
