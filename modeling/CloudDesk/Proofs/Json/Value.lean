import CloudDesk.Json.Wire
import CloudDesk.Proofs.Except
import CloudDesk.Proofs.Table
import Mathlib.Algebra.Group.Int.Defs

namespace CloudDesk.Json

def parts : Json → List Json
  | .array items => items
  | .object fields => fields.map Prod.snd
  | _ => []

inductive Everywhere (P : Json → Prop) : Json → Prop
  | intro {j : Json} (here : P j) (inside : ∀ part ∈ j.parts, Everywhere P part) : Everywhere P j

theorem everywhere_leaf_iff {P : Json → Prop} {j : Json} (h : j.parts = []) : j.Everywhere P ↔ P j :=
  ⟨fun ⟨here, _⟩ => here, fun here => ⟨here, by simp [h]⟩⟩

theorem everywhere_array_iff {P : Json → Prop} {items : List Json} :
    (array items).Everywhere P ↔ P (.array items) ∧ ∀ j ∈ items, j.Everywhere P :=
  ⟨fun ⟨here, inside⟩ => ⟨here, inside⟩, fun ⟨here, inside⟩ => ⟨here, inside⟩⟩

theorem everywhere_object_iff {P : Json → Prop} {fields : List (String × Json)} :
    (object fields).Everywhere P ↔ P (.object fields) ∧ ∀ f ∈ fields, f.2.Everywhere P := by
  refine ⟨fun ⟨here, inside⟩ => ⟨here, fun f hf => inside f.2 (List.mem_map_of_mem hf)⟩, ?_⟩
  rintro ⟨here, inside⟩
  refine ⟨here, fun part hpart => ?_⟩
  obtain ⟨f, hf, rfl⟩ := List.mem_map.mp hpart
  exact inside f hf

/-- Numbers are finite binary numbers or integers of 64 bits. -/
def HasNumber : Json → Prop
  | .float x => x.isFinite = true
  | .int n => -2 ^ 63 ≤ n ∧ n < 2 ^ 64
  | _ => True

/-- Numbers are finite, the names of fields ascend, and nothing is at fault. -/
def HasValue : Json → Prop
  | .float x => x.isFinite = true
  | .object fields => fields.Pairwise fun a b => a.1 < b.1
  | .fault _ => False
  | _ => True

/-- An object does not begin with the name under which a text stands for its value. -/
def IsPlain : Json → Prop
  | .object fields => holdsText fields = false
  | _ => True

mutual

def height : Json → Nat
  | .array items => itemsHeight items + 1
  | .object fields => fieldsHeight fields + 1
  | _ => 0

def itemsHeight : List Json → Nat
  | [] => 0
  | j :: rest => max (height j) (itemsHeight rest)

def fieldsHeight : List (String × Json) → Nat
  | [] => 0
  | (_, j) :: rest => max (height j) (fieldsHeight rest)

end

theorem itemsHeight_le_iff {n : Nat} {items : List Json} :
    itemsHeight items ≤ n ↔ ∀ j ∈ items, j.height ≤ n := by
  induction items with
  | nil => simp [itemsHeight]
  | cons j rest ih => rw [itemsHeight, Nat.max_le, ih, List.forall_mem_cons]

theorem fieldsHeight_le_iff {n : Nat} {fields : List (String × Json)} :
    fieldsHeight fields ≤ n ↔ ∀ f ∈ fields, f.2.height ≤ n := by
  induction fields with
  | nil => simp [fieldsHeight]
  | cons f rest ih => rw [fieldsHeight, Nat.max_le, ih, List.forall_mem_cons]

section

variable {ofText : String → Except Refusal Json} {depth : Nat}

theorem itemValues_self_iff {items : List Json} :
    itemValues ofText depth items = .ok items ↔ ∀ j ∈ items, value ofText depth j = .ok j := by
  induction items with
  | nil => simp [itemValues]
  | cons j rest ih =>
    rw [itemValues, bind_eq_ok_iff, List.forall_mem_cons, ← ih]
    constructor
    · rintro ⟨x, hx, h⟩
      obtain ⟨xs, hxs, h⟩ := bind_eq_ok h
      cases h
      exact ⟨hx, hxs⟩
    · rintro ⟨hj, hrest⟩
      exact ⟨j, hj, bind_eq_ok_iff.mpr ⟨rest, hrest, rfl⟩⟩

theorem fieldValues_self_iff {fields : List (String × Json)} :
    fieldValues ofText depth fields = .ok fields ↔ ∀ f ∈ fields, value ofText depth f.2 = .ok f.2 := by
  induction fields with
  | nil => simp [fieldValues]
  | cons f rest ih =>
    obtain ⟨name, j⟩ := f
    rw [fieldValues, bind_eq_ok_iff, List.forall_mem_cons, ← ih]
    constructor
    · rintro ⟨x, hx, h⟩
      obtain ⟨xs, hxs, h⟩ := bind_eq_ok h
      cases h
      exact ⟨hx, hxs⟩
    · rintro ⟨hj, hrest⟩
      exact ⟨j, hj, bind_eq_ok_iff.mpr ⟨rest, hrest, rfl⟩⟩

theorem fieldValues_names {fields fs : List (String × Json)} (h : fieldValues ofText depth fields = .ok fs) :
    fs.map Prod.fst = fields.map Prod.fst := by
  induction fields generalizing fs with
  | nil =>
    rw [fieldValues] at h
    cases h
    rfl
  | cons f rest ih =>
    rw [fieldValues] at h
    obtain ⟨x, -, h⟩ := bind_eq_ok h
    obtain ⟨more, hmore, h⟩ := bind_eq_ok h
    cases h
    exact congrArg (f.1 :: ·) (ih hmore)

theorem object_self_iff {fields : List (String × Json)} (h : fields.Pairwise fun a b => a.1 < b.1) :
    (fieldValues ofText depth fields).map (fun fs => object (Table.ofList fs).entries) = .ok (.object fields) ↔
      fieldValues ofText depth fields = .ok fields := by
  constructor
  · intro hvalue
    obtain ⟨fs, hfs, hobject⟩ := map_eq_ok hvalue
    have hascending : fs.Pairwise fun a b => a.1 < b.1 := by
      rw [← List.pairwise_map (f := Prod.fst) (R := (· < ·)), fieldValues_names hfs, List.pairwise_map]
      exact h
    rw [Table.entries_ofList hascending] at hobject
    rw [hfs, object.inj hobject]
  · intro hfields
    rw [hfields, Except.map, Table.entries_ofList h]

theorem textValue_eq_ok_iff {fields : List (String × Json)} {x : Json} :
    textValue ofText fields = .ok x ↔ ∃ name s, fields = [(name, .string s)] ∧ ofText s = .ok x := by
  unfold textValue
  split
  · simp
  · next name s rest =>
    cases hs : ofText s with
    | error e => simp [hs]
    | ok j => cases rest <;> simp [hs]
  · next name j rest hj =>
    refine ⟨fun h => ?_, ?_⟩
    · cases j <;> cases h
    · rintro ⟨name, s, hfields, -⟩
      cases hfields
      exact absurd rfl (hj s)

/-- An object of nothing but such a field is no value: written in any other way, it is the value of
a text. -/
theorem value_ne_text (hofText : ∀ s x, ofText s ≠ .ok (.object [(textName, x)])) (j x : Json) :
    value ofText depth j ≠ .ok (.object [(textName, x)]) := by
  intro h
  cases j with
  | object fields =>
    rw [value] at h
    split_ifs at h with _ hholds
    · obtain ⟨name, s, -, hs⟩ := textValue_eq_ok_iff.mp h
      exact hofText s x hs
    · obtain ⟨fs, hfs, hobject⟩ := map_eq_ok h
      have hnames : (Table.ofList fs).names = [textName] := congrArg (List.map Prod.fst) (object.inj hobject)
      have hall : ∀ name ∈ fields.map Prod.fst, name = textName := by
        intro name hname
        rwa [← fieldValues_names hfs, ← Table.mem_names_ofList, hnames, List.mem_singleton] at hname
      cases fields with
      | nil =>
        rw [fieldValues] at hfs
        cases hfs
        cases hobject
      | cons f rest => exact hholds (beq_iff_eq.mpr (hall f.1 List.mem_cons_self))
  | array items =>
    rw [value] at h
    split_ifs at h
    obtain ⟨xs, -, harray⟩ := map_eq_ok h
    cases harray
  | _ =>
    rw [value] at h
    cases h

theorem valueOfText_ne_text (steps : Nat) (s : String) (x : Json) :
    valueOfText steps s ≠ .ok (.object [(textName, x)]) := by
  induction steps generalizing s x with
  | zero => exact nofun
  | succ steps ih => exact value_ne_text ih (read s) x

theorem value_self_iff (hofText : ∀ s x, ofText s ≠ .ok (.object [(textName, x)])) {j : Json}
    (h : j.Everywhere HasValue) :
    value ofText depth j = .ok j ↔ j.Everywhere IsPlain ∧ j.height ≤ depth := by
  induction h generalizing depth with
  | @intro j here inside ih =>
    cases j with
    | fault f => exact absurd here id
    | array items =>
      rw [value, height, everywhere_array_iff]
      split_ifs with hdepth
      · simp [hdepth]
      · have hitems : (itemValues ofText (depth - 1) items).map array = .ok (.array items) ↔
            itemValues ofText (depth - 1) items = .ok items := by
          cases itemValues ofText (depth - 1) items <;> simp [Except.map]
        have hheight : itemsHeight items + 1 ≤ depth ↔ itemsHeight items ≤ depth - 1 := by omega
        rw [hitems, itemValues_self_iff, hheight, itemsHeight_le_iff, and_iff_right (a := (array items).IsPlain) trivial,
          ← forall₂_and]
        exact forall₂_congr fun x hx => ih x hx
    | object fields =>
      rw [value, height, everywhere_object_iff]
      split_ifs with hdepth hholds
      · simp [hdepth]
      · refine ⟨fun htext => ?_, fun ⟨⟨hplain, _⟩, _⟩ => absurd (hholds.symm.trans hplain) nofun⟩
        obtain ⟨name, s, rfl, hs⟩ := textValue_eq_ok_iff.mp htext
        obtain rfl : name = textName := beq_iff_eq.mp hholds
        exact absurd hs (hofText s _)
      · have hheight : fieldsHeight fields + 1 ≤ depth ↔ fieldsHeight fields ≤ depth - 1 := by omega
        have hplain : (object fields).IsPlain := Bool.eq_false_of_not_eq_true hholds
        rw [object_self_iff here, fieldValues_self_iff, hheight, fieldsHeight_le_iff, and_iff_right hplain,
          ← forall₂_and]
        exact forall₂_congr fun f hf => ih f.2 (List.mem_map_of_mem hf)
    | _ =>
      rw [value, everywhere_leaf_iff rfl]
      simp [IsPlain, height]

theorem mem_itemValues {items xs : List Json} (h : itemValues ofText depth items = .ok xs) :
    ∀ x ∈ xs, ∃ j ∈ items, value ofText depth j = .ok x := by
  induction items generalizing xs with
  | nil =>
    rw [itemValues] at h
    cases h
    simp
  | cons j rest ih =>
    rw [itemValues] at h
    obtain ⟨x, hx, h⟩ := bind_eq_ok h
    obtain ⟨more, hmore, h⟩ := bind_eq_ok h
    cases h
    refine List.forall_mem_cons.mpr ⟨⟨j, List.mem_cons_self, hx⟩, fun y hy => ?_⟩
    obtain ⟨i, hi, hvalue⟩ := ih hmore y hy
    exact ⟨i, List.mem_cons_of_mem _ hi, hvalue⟩

theorem mem_fieldValues {fields fs : List (String × Json)} (h : fieldValues ofText depth fields = .ok fs) :
    ∀ f ∈ fs, ∃ j ∈ fields.map Prod.snd, value ofText depth j = .ok f.2 := by
  induction fields generalizing fs with
  | nil =>
    rw [fieldValues] at h
    cases h
    simp
  | cons f rest ih =>
    rw [fieldValues] at h
    obtain ⟨x, hx, h⟩ := bind_eq_ok h
    obtain ⟨more, hmore, h⟩ := bind_eq_ok h
    cases h
    refine List.forall_mem_cons.mpr ⟨⟨f.2, List.mem_cons_self, hx⟩, fun g hg => ?_⟩
    obtain ⟨i, hi, hvalue⟩ := ih hmore g hg
    exact ⟨i, List.mem_cons_of_mem _ hi, hvalue⟩

theorem value_hasValue (hofText : ∀ s x, ofText s = .ok x → x.Everywhere HasValue) {j x : Json}
    (hj : j.Everywhere HasNumber) (h : value ofText depth j = .ok x) : x.Everywhere HasValue := by
  induction hj generalizing depth x with
  | @intro j here inside ih =>
    cases j with
    | fault f => rw [value] at h; cases h
    | array items =>
      rw [value] at h
      split_ifs at h
      obtain ⟨xs, hxs, rfl⟩ := map_eq_ok h
      refine everywhere_array_iff.mpr ⟨trivial, fun y hy => ?_⟩
      obtain ⟨i, hi, hvalue⟩ := mem_itemValues hxs y hy
      exact ih i hi hvalue
    | object fields =>
      rw [value] at h
      split_ifs at h
      · obtain ⟨name, s, -, hs⟩ := textValue_eq_ok_iff.mp h
        exact hofText s x hs
      · obtain ⟨fs, hfs, rfl⟩ := map_eq_ok h
        refine everywhere_object_iff.mpr ⟨Table.ofList_sorted fs, fun f hf => ?_⟩
        obtain ⟨i, hi, hvalue⟩ := mem_fieldValues hfs f (Table.mem_ofList hf)
        exact ih i hi hvalue
    | float y =>
      rw [value] at h
      cases h
      exact (everywhere_leaf_iff rfl).mpr here
    | _ =>
      rw [value] at h
      cases h
      exact (everywhere_leaf_iff rfl).mpr trivial

end

end CloudDesk.Json
