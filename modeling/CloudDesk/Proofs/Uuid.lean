import CloudDesk.Uuid
import CloudDesk.Proofs.Except
import CloudDesk.Proofs.Text.Digits
import Mathlib.Algebra.Ring.Nat

namespace CloudDesk.Uuid

open Text

theorem readBytes_hex (bytes : List UInt8) : readBytes (bytes.flatMap hexByte) = some bytes := by
  induction bytes with
  | nil => rfl
  | cons b bytes ih =>
    have hb := b.toNat_lt
    rw [List.flatMap_cons, hexByte, List.cons_append, List.cons_append, List.nil_append, readBytes,
      hexValue?_digitChar (by omega), hexValue?_digitChar (Nat.mod_lt _ (by decide)), ih]
    exact congrArg (fun c => some (c :: bytes)) (ofNat_halves b)

theorem length_of_readBytes {cs : List Char} {bytes : List UInt8} (h : readBytes cs = some bytes) :
    cs.length = 2 * bytes.length := by
  fun_induction readBytes cs generalizing bytes with
  | case1 => cases h; rfl
  | case2 => cases h
  | case3 a b rest x y more hmore hx hy ih =>
    cases h
    have hlength := ih hmore
    simp only [List.length_cons]
    omega
  | case4 => cases h

theorem length_hex (bytes : List UInt8) : (bytes.flatMap hexByte).length = 2 * bytes.length :=
  length_of_readBytes (readBytes_hex bytes)

theorem unhyphened_hyphened {sizes : List Nat} (hne : sizes ≠ []) {cs : List Char} (h : cs.length = sizes.sum) :
    unhyphened sizes (hyphened sizes cs) = some cs := by
  induction sizes generalizing cs with
  | nil => exact absurd rfl hne
  | cons n more ih =>
    rw [List.sum_cons] at h
    cases more with
    | nil =>
      rw [hyphened, unhyphened]
      exact if_pos h
    | cons m more =>
      have htake : (cs.take n).length = n := by
        rw [List.length_take]
        omega
      have hrest := @ih (by simp) (cs.drop n) (by rw [List.length_drop]; omega)
      rw [hyphened, unhyphened, List.drop_left' htake, List.take_left' htake]
      · change (unhyphened (m :: more) (hyphened (m :: more) (cs.drop n))).map (cs.take n ++ ·) = some cs
        rw [hrest, Option.map_some, List.take_append_drop]
      · simp
      · simp

theorem length_of_unhyphened {sizes : List Nat} {cs ds : List Char} (h : unhyphened sizes cs = some ds) :
    ds.length = sizes.sum := by
  fun_induction unhyphened sizes cs generalizing ds with
  | case1 cs hempty =>
    cases h
    rfl
  | case3 cs =>
    cases h
    exact (Nat.add_zero _).symm
  | case5 n more cs hmore rest hrest ih =>
    obtain ⟨digits, hdigits, rfl⟩ := Option.map_eq_some_iff.mp h
    have hlong := congrArg List.length hrest
    rw [List.length_drop, List.length_cons] at hlong
    rw [List.length_append, List.length_take, ih hdigits, List.sum_cons]
    omega
  | _ => cases h

theorem length_hyphened {sizes : List Nat} {cs : List Char} (h : cs.length = sizes.sum) :
    (hyphened sizes cs).length = cs.length + (sizes.length - 1) := by
  fun_induction hyphened sizes cs with
  | case1 => rfl
  | case2 => rfl
  | case3 n more cs hmore ih =>
    rw [List.sum_cons] at h
    have hrest := ih (by rw [List.length_drop]; omega)
    have hpos : 0 < more.length := List.length_pos_iff.mpr hmore
    rw [List.length_append, List.length_cons, hrest, List.length_take, List.length_drop, List.length_cons]
    omega

theorem read?_write {u : Uuid} (h : u.bytes.length = 16) : read? u.write = some u := by
  have hdigits : (u.bytes.flatMap hexByte).length = groups.sum := by
    rw [length_hex, h]
    rfl
  have hlength : (hyphened groups (u.bytes.flatMap hexByte)).length = 36 := by
    rw [length_hyphened hdigits, hdigits]
    rfl
  have hgroups := unhyphened_hyphened (by decide) hdigits
  simp [read?, write, hlength, hgroups, readBytes_hex]

theorem length_of_read? {s : String} {u : Uuid} (h : read? s = some u) : u.bytes.length = 16 := by
  obtain ⟨digits, hdigits, h⟩ := Option.bind_eq_some_iff.mp h
  obtain ⟨bytes, hbytes, rfl⟩ := Option.map_eq_some_iff.mp h
  have hlength := length_of_readBytes hbytes
  have hsum : groups.sum = 32 := rfl
  have hcount : digits.length = 32 := by
    split_ifs at hdigits with hplain
    · cases hdigits
      exact hplain
    · exact length_of_unhyphened hdigits
    · exact length_of_unhyphened hdigits
    · exact length_of_unhyphened hdigits
  change bytes.length = 16
  omega

end CloudDesk.Uuid
