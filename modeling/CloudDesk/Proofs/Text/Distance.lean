import CloudDesk.Text.Basic
import Mathlib.Data.List.Forall2
import Mathlib.Order.Bounds.Basic
import Mathlib.Order.MinMax

namespace CloudDesk.Text

variable {a b c : List Char} {m n : Nat}

theorem distancesCons_ne_nil {below : List Nat} (h : below ≠ []) (x : Char) (b : List Char) :
    distancesCons x b below ≠ [] := by
  fun_cases distancesCons x b below with
  | case1 => exact List.cons_ne_nil _ _
  | case2 => exact List.cons_ne_nil _ _
  | case3 => exact absurd rfl h

theorem distances_ne_nil (a b : List Char) : distances a b ≠ [] := by
  induction a with
  | nil => simp [distances]
  | cons x a ih => exact distancesCons_ne_nil ih x b

theorem distances_nil_right (a : List Char) : distances a [] = [a.length] := by
  induction a with
  | nil => rfl
  | cons x a ih =>
    rw [distances, ih]
    rfl

/-- The row of a text begins with its distance, and the rest is the row of what follows its first
character. -/
theorem distances_cons_right (a : List Char) (y : Char) (b : List Char) :
    distances a (y :: b) = distance a (y :: b) :: distances a b := by
  induction a with
  | nil => simp [distance, distances, List.range_succ]
  | cons x a ih =>
    obtain ⟨there, more, hbelow⟩ := List.exists_cons_of_ne_nil (distances_ne_nil a b)
    have hrow : distances (x :: a) (y :: b) =
        distancesCons x (y :: b) (distance a (y :: b) :: there :: more) := by
      rw [distances, ih, hbelow]
    have hrest : distances (x :: a) b = distancesCons x b (there :: more) := by
      rw [distances, hbelow]
    rw [distance, hrow, hrest]
    rfl

@[simp] theorem distance_nil_left (b : List Char) : distance [] b = b.length := by
  cases b with
  | nil => rfl
  | cons y b => simp [distance, distances, List.range_succ]

@[simp] theorem distance_nil_right (a : List Char) : distance a [] = a.length := by
  rw [distance, distances_nil_right]
  rfl

theorem distance_cons_cons (x y : Char) (a b : List Char) :
    distance (x :: a) (y :: b) =
      min (min (distance a (y :: b) + 1) (distance (x :: a) b + 1))
        (if x = y then distance a b else distance a b + 1) := by
  obtain ⟨there, more, hbelow⟩ := List.exists_cons_of_ne_nil (distances_ne_nil a b)
  have hthere : distance a b = there := by rw [distance, hbelow]; rfl
  have hrest : distance (x :: a) b = (distancesCons x b (there :: more)).headD 0 := by
    rw [distance, distances, hbelow]
  rw [distance, distances, distances_cons_right, hbelow, hthere, hrest]
  rfl

theorem distance_cons_left_le (x : Char) (a b : List Char) :
    distance (x :: a) b ≤ distance a b + 1 := by
  cases b with
  | nil => simp
  | cons y b =>
    rw [distance_cons_cons]
    omega

theorem distance_cons_right_le (a : List Char) (y : Char) (b : List Char) :
    distance a (y :: b) ≤ distance a b + 1 := by
  cases a with
  | nil => simp
  | cons x a =>
    rw [distance_cons_cons]
    omega

theorem distance_le_cons_left (x : Char) (a b : List Char) :
    distance a b ≤ distance (x :: a) b + 1 := by
  induction b with
  | nil => simp; omega
  | cons y b ih =>
    have hright := distance_cons_right_le a y b
    rw [distance_cons_cons]
    split <;> omega

theorem distance_self (a : List Char) : distance a a = 0 := by
  induction a with
  | nil => rfl
  | cons x a ih =>
    rw [distance_cons_cons, if_pos rfl, ih]
    exact Nat.min_zero _

/-- Two texts whose distances to every text are close keep that behind one more character. -/
theorem distance_cons_le (h : ∀ c, distance a c ≤ distance b c + 1) (x : Char) (c : List Char) :
    distance (x :: a) c ≤ distance (x :: b) c + 1 := by
  induction c with
  | nil => simpa using h []
  | cons z c ih =>
    have hwhole := h (z :: c)
    have hrest := h c
    rw [distance_cons_cons, distance_cons_cons]
    split <;> omega

theorem distance_append_le (h : ∀ c, distance a c ≤ distance b c + 1) (front c : List Char) :
    distance (front ++ a) c ≤ distance (front ++ b) c + 1 := by
  induction front generalizing c with
  | nil => exact h c
  | cons x front ih => exact distance_cons_le ih x c

theorem distance_replaced_le (x y : Char) (a c : List Char) :
    distance (x :: a) c ≤ distance (y :: a) c + 1 := by
  induction c with
  | nil => simp
  | cons z c ih =>
    rw [distance_cons_cons, distance_cons_cons]
    split <;> split <;> omega

/-- A character is put in, taken out, or replaced by another. -/
inductive Edit : List Char → List Char → Prop
  | insert (front : List Char) (x : Char) (back : List Char) :
    Edit (front ++ back) (front ++ x :: back)
  | delete (front : List Char) (x : Char) (back : List Char) :
    Edit (front ++ x :: back) (front ++ back)
  | replace (front : List Char) (x y : Char) (back : List Char) :
    Edit (front ++ x :: back) (front ++ y :: back)

inductive Edits : Nat → List Char → List Char → Prop
  | none (a : List Char) : Edits 0 a a
  | more {a b c : List Char} {n : Nat} : Edit a b → Edits n b c → Edits (n + 1) a c

theorem Edit.cons (h : Edit a b) (x : Char) : Edit (x :: a) (x :: b) := by
  cases h with
  | insert front y back => exact .insert (x :: front) y back
  | delete front y back => exact .delete (x :: front) y back
  | replace front y z back => exact .replace (x :: front) y z back

theorem Edit.symm (h : Edit a b) : Edit b a := by
  cases h with
  | insert front x back => exact .delete front x back
  | delete front x back => exact .insert front x back
  | replace front x y back => exact .replace front y x back

theorem Edit.distance_le (h : Edit a b) (c : List Char) : distance a c ≤ distance b c + 1 := by
  cases h with
  | insert front x back => exact distance_append_le (distance_le_cons_left x back) front c
  | delete front x back => exact distance_append_le (distance_cons_left_le x back) front c
  | replace front x y back => exact distance_append_le (distance_replaced_le x y back) front c

theorem Edit.single (h : Edit a b) : Edits 1 a b := .more h (.none b)

theorem Edits.cons (h : Edits n a b) (x : Char) : Edits n (x :: a) (x :: b) := by
  induction h with
  | none a => exact .none (x :: a)
  | more h _ ih => exact .more (h.cons x) ih

theorem Edits.trans (h : Edits m a b) (k : Edits n b c) : Edits (m + n) a c := by
  induction h with
  | none a =>
    rw [Nat.zero_add]
    exact k
  | more h _ ih =>
    rw [Nat.add_right_comm]
    exact .more h (ih k)

theorem Edits.symm (h : Edits n a b) : Edits n b a := by
  induction h with
  | none a => exact .none a
  | more h _ ih => exact ih.trans h.symm.single

theorem Edits.min (h : Edits m a b) (k : Edits n a b) : Edits (min m n) a b :=
  min_rec' (fun n => Edits n a b) h k

theorem Edits.distance_le (h : Edits n a b) : distance a b ≤ n := by
  induction h with
  | none a => exact Nat.le_of_eq (distance_self a)
  | @more a b c n h _ ih =>
    have hfirst := h.distance_le c
    omega

theorem edits_to_nil (a : List Char) : Edits a.length a [] := by
  induction a with
  | nil => exact .none []
  | cons x a ih => exact .more (.delete [] x a) ih

/-- The distance is reached: each term of the recurrence is the number of edits of one way to begin.
-/
theorem edits_distance (a b : List Char) : Edits (distance a b) a b := by
  induction a generalizing b with
  | nil =>
    rw [distance_nil_left]
    exact (edits_to_nil b).symm
  | cons x a iha =>
    induction b with
    | nil =>
      rw [distance_nil_right]
      exact edits_to_nil (x :: a)
    | cons y b ihb =>
      have hdelete : Edits (distance a (y :: b) + 1) (x :: a) (y :: b) :=
        .more (.delete [] x a) (iha (y :: b))
      have hinsert : Edits (distance (x :: a) b + 1) (x :: a) (y :: b) :=
        ihb.trans (Edit.insert [] y b).single
      have hreplace : Edits (if x = y then distance a b else distance a b + 1) (x :: a) (y :: b) := by
        split
        case isTrue h =>
          rw [h]
          exact (iha b).cons y
        case isFalse => exact .more (.replace [] x y a) ((iha b).cons y)
      rw [distance_cons_cons]
      exact (hdelete.min hinsert).min hreplace

/-- No fewer edits lead from one text to the other than their distance, since a single edit changes
the distance to a third text by one at most. -/
theorem distance_isLeast (a b : List Char) : IsLeast {n | Edits n a b} (distance a b) :=
  ⟨edits_distance a b, fun _ h => Edits.distance_le h⟩

theorem distance_comm (a b : List Char) : distance a b = distance b a :=
  Nat.le_antisymm (edits_distance b a).symm.distance_le (edits_distance a b).symm.distance_le

theorem distance_triangle (a b c : List Char) : distance a c ≤ distance a b + distance b c :=
  ((edits_distance a b).trans (edits_distance b c)).distance_le

def Within (n : Nat) (a b : List Char) : Prop := ∃ k ≤ n, Edits k a b

theorem within_iff : Within n a b ↔ distance a b ≤ n := by
  obtain ⟨hreached, hleast⟩ := distance_isLeast a b
  constructor
  · rintro ⟨k, hk, h⟩
    exact (hleast h).trans hk
  · exact fun h => ⟨_, h, hreached⟩

/-- Character by character the same, or both beyond ASCII. -/
def AlikeInAscii (a b : List Char) : Prop :=
  List.Forall₂ (fun x y : Char => x = y ∨ 128 ≤ x.toNat ∧ 128 ≤ y.toNat) a b

theorem distance_congr {a a' b : List Char} (h : AlikeInAscii a a') (hb : ∀ y ∈ b, y.toNat < 128) :
    distance a b = distance a' b := by
  induction h generalizing b with
  | nil => rfl
  | @cons x x' a a' hx h iha =>
    induction b with
    | nil => simp [h.length_eq]
    | cons y b ihb =>
      obtain ⟨hy, hb⟩ := List.forall_mem_cons.mp hb
      have hsame : x = y ↔ x' = y := by
        rcases hx with rfl | ⟨hx, hx'⟩
        · rfl
        · constructor
          · rintro rfl
            omega
          · rintro rfl
            omega
      have hall : ∀ z ∈ y :: b, z.toNat < 128 := List.forall_mem_cons.mpr ⟨hy, hb⟩
      simp only [distance_cons_cons, ihb hb, iha hall, iha hb, hsame]

end CloudDesk.Text
