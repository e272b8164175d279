import CloudDesk.Proofs.Calendar.Instant
import CloudDesk.Proofs.Decimal.Finite
import CloudDesk.Proofs.Json.Fields
import CloudDesk.Proofs.Json.Reading
import CloudDesk.Proofs.Uuid

namespace CloudDesk

open Json (HasNumber HasValue IsPlain)

/-- Decoding the encoding of a value succeeds, and what it gives is encoded to the same JSON again.
-/
def Survives {α : Type} [Wire α] (x : α) : Prop :=
  ∃ y : α, Wire.decode (Wire.encode x) = .ok y ∧ Wire.encode y = Wire.encode x

namespace Wire

class RefusesFaults (α : Type) [Wire α] : Prop where
  decode_fault (f : Json.Fault) (x : α) : Wire.decode (.fault f) ≠ .ok x

theorem survives_of_decode {α : Type} [Wire α] {x : α} (h : Wire.decode (Wire.encode x) = .ok x) :
    Survives x := ⟨x, h, rfl⟩

instance : RefusesFaults String := ⟨nofun⟩
instance : RefusesFaults Float := ⟨nofun⟩
instance : RefusesFaults Instant := ⟨nofun⟩
instance : RefusesFaults Uuid := ⟨nofun⟩

theorem decode_string (s : String) : Wire.decode (Wire.encode s) = .ok s := rfl

theorem encode_float {x : Float} (h : x.isFinite = true) : Wire.encode x = .float x := by
  change Json.ofFloat x = .float x
  rw [Json.ofFloat, if_pos h]

theorem decode_float {x : Float} (h : x.isFinite = true) : Wire.decode (Wire.encode x) = .ok x := by
  rw [encode_float h]
  rfl

theorem isFinite_of_decode {j : Json} {x : Float} (hj : j.Everywhere HasNumber)
    (h : Wire.decode j = .ok x) : x.isFinite = true := by
  obtain ⟨here, -⟩ := hj
  cases j with
  | float y =>
    cases h
    exact here
  | int n =>
    cases h
    obtain ⟨hleast, hgreatest⟩ := here
    exact Decimal.isFinite_ofInt (by omega)
  | _ => cases h

theorem decode_instant_iff {j : Json} {t : Instant} :
    Wire.decode j = .ok t ↔ ∃ s, j = .string s ∧ Instant.read? s = some t := by
  cases j with
  | string s =>
    simp only [Wire.decode]
    cases hread : Instant.read? s <;> simp [hread]
  | _ => simp [Wire.decode, Json.refuse]

theorem instant_survives {t : Instant} (h : t.Sound) : Survives t :=
  ⟨t.said, decode_instant_iff.mpr ⟨t.write, rfl, Instant.read?_write h⟩,
    congrArg Json.string (Instant.write_said h.nanos)⟩

theorem sound_of_decode {j : Json} {t : Instant} (h : Wire.decode j = .ok t) : t.Sound := by
  obtain ⟨s, rfl, hread⟩ := decode_instant_iff.mp h
  exact Instant.sound_of_read? hread

theorem decode_uuid_iff {j : Json} {u : Uuid} :
    Wire.decode j = .ok u ↔ ∃ s, j = .string s ∧ Uuid.read? s = some u := by
  cases j with
  | string s =>
    simp only [Wire.decode]
    cases hread : Uuid.read? s <;> simp [hread]
  | _ => simp [Wire.decode, Json.refuse]

theorem decode_uuid {u : Uuid} (h : u.bytes.length = 16) : Wire.decode (Wire.encode u) = .ok u :=
  decode_uuid_iff.mpr ⟨u.write, rfl, Uuid.read?_write h⟩

theorem length_of_decode {j : Json} {u : Uuid} (h : Wire.decode j = .ok u) : u.bytes.length = 16 := by
  obtain ⟨s, rfl, hread⟩ := decode_uuid_iff.mp h
  exact Uuid.length_of_read? hread

instance {α : Type} [Wire α] [RefusesFaults α] : RefusesFaults (Option α) := ⟨fun f x h => by
  obtain ⟨y, hy, -⟩ := map_eq_ok h
  exact RefusesFaults.decode_fault f y hy⟩

instance {α : Type} [Wire α] : RefusesFaults (List α) := ⟨nofun⟩

theorem decode_some {α : Type} [Wire α] {j : Json} (h : j ≠ .null) :
    Wire.decode j = (Wire.decode j).map (some : α → Option α) := by
  cases j with
  | null => exact absurd rfl h
  | _ => rfl

theorem option_survives {α : Type} [Wire α] {x : Option α}
    (h : ∀ y ∈ x, Survives y ∧ Wire.encode y ≠ .null) : Survives x := by
  cases x with
  | none => exact survives_of_decode rfl
  | some y =>
    obtain ⟨⟨z, hz, hsame⟩, hnull⟩ := h y rfl
    refine ⟨some z, ?_, hsame⟩
    change Wire.decode (Wire.encode y) = Except.ok (some z)
    rw [decode_some hnull, hz]
    rfl

theorem decode_of_option {α : Type} [Wire α] {j : Json} {x : Option α} (h : Wire.decode j = .ok x) :
    ∀ y ∈ x, Wire.decode j = .ok y := by
  rintro y rfl
  by_cases hnull : j = .null
  · subst hnull
    cases h
  · rw [decode_some hnull] at h
    obtain ⟨z, hz, hsome⟩ := map_eq_ok h
    rw [hz, Option.some.inj hsome]

theorem decode_list_iff {α : Type} [Wire α] {j : Json} {xs : List α} :
    Wire.decode j = .ok xs ↔
      ∃ items, j = .array items ∧ List.Forall₂ (fun j x => Wire.decode j = .ok x) items xs := by
  cases j with
  | array items => simp [Wire.decode, mapM_eq_ok_iff]
  | _ => simp [Wire.decode, Json.refuse]

theorem decode_list {α : Type} [Wire α] {xs : List α} (h : ∀ x ∈ xs, Wire.decode (Wire.encode x) = .ok x) :
    Wire.decode (Wire.encode xs) = .ok xs :=
  decode_list_iff.mpr ⟨_, rfl, List.forall₂_map_left_iff.mpr (List.forall₂_same.mpr h)⟩

theorem decode_json (j : Json) :
    Wire.decode j = Json.value (fun s => Json.valueOfText s.length s) Json.maxDepth j := rfl

instance : RefusesFaults Json := ⟨fun f x h => by
  rw [decode_json, Json.value] at h
  cases h⟩

/-- What a record can hold of values of any shape: nested no deeper than a record is read, and no
object in it begins with the name under which a text stands for its value. -/
structure Embeds (j : Json) : Prop where
  depth : j.height ≤ Json.maxDepth
  plain : j.Everywhere IsPlain

theorem decode_embedded_iff {j : Json} (h : j.Everywhere HasValue) :
    Wire.decode (Wire.encode j) = .ok j ↔ Embeds j :=
  (Json.value_self_iff (fun s => Json.valueOfText_ne_text s.length s) h).trans
    ⟨fun ⟨plain, depth⟩ => ⟨depth, plain⟩, fun ⟨depth, plain⟩ => ⟨plain, depth⟩⟩

theorem valueOfText_hasValue {steps : Nat} {s : String} {x : Json} (h : Json.valueOfText steps s = .ok x) :
    x.Everywhere HasValue := by
  induction steps generalizing s x with
  | zero => cases h
  | succ steps ih => exact Json.value_hasValue (fun s x => ih) (Json.readWith_hasNumber s) h

theorem hasValue_of_decode {j x : Json} (hj : j.Everywhere HasNumber) (h : Wire.decode j = .ok x) :
    x.Everywhere HasValue :=
  Json.value_hasValue (fun _ _ => valueOfText_hasValue) hj h

end Wire

end CloudDesk
