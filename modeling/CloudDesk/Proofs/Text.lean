import CloudDesk.Text.Basic
import Mathlib.Data.List.Basic
import Mathlib.Data.List.TakeWhile

namespace CloudDesk.Text

variable {p : Char → Bool} {run rest : List Char}

theorem takeWhile_run (hrun : ∀ c ∈ run, p c = true) (hrest : ∀ c ∈ rest.head?, p c = false) :
    (run ++ rest).takeWhile p = run := by
  rw [List.takeWhile_append_of_pos hrun]
  cases rest with
  | nil => exact List.append_nil run
  | cons c rest =>
    have hc : p c = false := hrest c rfl
    rw [List.takeWhile_cons_of_neg (by simp [hc]), List.append_nil]

theorem dropWhile_run (hrun : ∀ c ∈ run, p c = true) (hrest : ∀ c ∈ rest.head?, p c = false) :
    (run ++ rest).dropWhile p = rest := by
  rw [List.dropWhile_append_of_pos hrun]
  cases rest with
  | nil => rfl
  | cons c rest =>
    have hc : p c = false := hrest c rfl
    exact List.dropWhile_cons_of_neg (by simp [hc])

theorem head?_dropWhile (cs : List Char) : ∀ c ∈ (cs.dropWhile p).head?, p c = false := by
  intro c hc
  have hhead := List.head?_dropWhile_not p cs
  rw [Option.mem_def.mp hc] at hhead
  exact hhead

theorem trim_eq_self {s : String} (hfirst : ∀ c ∈ s.toList.head?, isBlank c = false)
    (hlast : ∀ c ∈ s.toList.getLast?, isBlank c = false) : trim s = s := by
  have hstart : trimStart s.toList = s.toList := @dropWhile_run isBlank [] _ (by simp) hfirst
  have hend : trimEnd s.toList = s.toList := by
    rw [← List.head?_reverse] at hlast
    have hreverse : s.toList.reverse.dropWhile isBlank = s.toList.reverse :=
      @dropWhile_run isBlank [] _ (by simp) hlast
    rw [trimEnd, hreverse, List.reverse_reverse]
  rw [trim, hstart, hend, String.ofList_toList]

theorem toList_trim (s : String) : (trim s).toList = trimEnd (trimStart s.toList) :=
  String.toList_ofList

theorem head?_trim (s : String) : ∀ c ∈ (trim s).toList.head?, isBlank c = false := by
  intro c hc
  have hfront : trimEnd (trimStart s.toList) <+: trimStart s.toList := by
    apply List.reverse_suffix.mp
    rw [trimEnd, List.reverse_reverse]
    exact List.dropWhile_suffix isBlank
  obtain ⟨rest, hrest⟩ := hfront
  have hhead : (trimStart s.toList).head? = some c := by
    rw [toList_trim, Option.mem_def] at hc
    rw [← hrest, List.head?_append, hc, Option.some_or]
  exact head?_dropWhile s.toList c hhead

theorem getLast?_trim (s : String) : ∀ c ∈ (trim s).toList.getLast?, isBlank c = false := by
  intro c hc
  rw [toList_trim, trimEnd, List.getLast?_reverse] at hc
  exact head?_dropWhile _ c hc

theorem trim_trim (s : String) : trim (trim s) = trim s :=
  trim_eq_self (head?_trim s) (getLast?_trim s)

structure Filled (s : String) : Prop where
  nonempty : s ≠ ""
  trimmed : trim s = s

instance (s : String) : Decidable (Filled s) :=
  decidable_of_iff (s ≠ "" ∧ trim s = s) ⟨fun h => ⟨h.1, h.2⟩, fun h => ⟨h.1, h.2⟩⟩

namespace Filled

variable {s t : String}

theorem head? (h : Filled s) : ∀ c ∈ s.toList.head?, isBlank c = false := by
  rw [← h.trimmed]
  exact head?_trim s

theorem getLast? (h : Filled s) : ∀ c ∈ s.toList.getLast?, isBlank c = false := by
  rw [← h.trimmed]
  exact getLast?_trim s

theorem toList_ne_nil (h : Filled s) : s.toList ≠ [] := by
  intro hnil
  apply h.nonempty
  rwa [String.toList_eq_nil_iff] at hnil

theorem append (hs : Filled s) (ht : Filled t) : Filled (s ++ t) := by
  constructor
  · intro hempty
    have hnil := congrArg String.toList hempty
    rw [String.toList_append] at hnil
    exact hs.toList_ne_nil (List.append_eq_nil_iff.mp hnil).1
  · apply trim_eq_self
    · rw [String.toList_append, List.head?_append_of_ne_nil _ hs.toList_ne_nil]
      exact hs.head?
    · rw [String.toList_append, List.getLast?_append_of_ne_nil _ ht.toList_ne_nil]
      exact ht.getLast?

end Filled

theorem bne_of_not_mem {mark : Char} {cs : List Char} (h : mark ∉ cs) : ∀ c ∈ cs, (c != mark) = true := by
  intro c hc
  rw [bne_iff_ne]
  rintro rfl
  exact h hc

theorem takeWhile_mark {mark : Char} {front : List Char} (h : mark ∉ front) (rest : List Char) :
    (front ++ mark :: rest).takeWhile (· != mark) = front :=
  takeWhile_run (bne_of_not_mem h) (by simp)

theorem dropWhile_mark {mark : Char} {front : List Char} (h : mark ∉ front) (rest : List Char) :
    (front ++ mark :: rest).dropWhile (· != mark) = mark :: rest :=
  dropWhile_run (bne_of_not_mem h) (by simp)

theorem replace_of_not_mem {mark : Char} {cs : List Char} (h : mark ∉ cs) (other : Char) :
    cs.map (fun c => if c = mark then other else c) = cs := by
  have hsame : ∀ c ∈ cs, (if c = mark then other else c) = id c := by
    intro c hc
    have hne : c ≠ mark := fun he => h (he ▸ hc)
    exact if_neg hne
  rw [List.map_congr_left hsame, List.map_id]

theorem not_mem_of_mem_splitAt {mark : Char} {cs part : List Char} (h : part ∈ splitAt mark cs) :
    mark ∉ part := by
  induction cs generalizing part with
  | nil =>
    rw [List.mem_singleton.mp h]
    exact List.not_mem_nil
  | cons c rest ih =>
    rw [splitAt] at h
    split_ifs at h with hc
    · obtain rfl | hrest := List.mem_cons.mp h
      · exact List.not_mem_nil
      · exact ih hrest
    · cases hparts : splitAt mark rest with
      | nil =>
        rw [hparts] at h
        rw [List.mem_singleton.mp h, List.mem_singleton]
        exact Ne.symm hc
      | cons front parts =>
        rw [hparts] at h ih
        obtain rfl | hrest := List.mem_cons.mp h
        · rw [List.mem_cons, not_or]
          exact ⟨Ne.symm hc, ih List.mem_cons_self⟩
        · exact ih (List.mem_cons_of_mem front hrest)

theorem splitAt_of_not_mem {mark : Char} {part : List Char} (h : mark ∉ part) :
    splitAt mark part = [part] := by
  induction part with
  | nil => rfl
  | cons c rest ih =>
    obtain ⟨hc, hrest⟩ := not_or.mp (mt List.mem_cons.mpr h)
    simp only [splitAt, if_neg (Ne.symm hc), ih hrest]

theorem splitAt_append {mark : Char} {part : List Char} (h : mark ∉ part) (rest : List Char) :
    splitAt mark (part ++ mark :: rest) = part :: splitAt mark rest := by
  induction part with
  | nil => simp [splitAt]
  | cons c part ih =>
    obtain ⟨hc, hpart⟩ := not_or.mp (mt List.mem_cons.mpr h)
    simp only [List.cons_append, splitAt, if_neg (Ne.symm hc), ih hpart]

end CloudDesk.Text
