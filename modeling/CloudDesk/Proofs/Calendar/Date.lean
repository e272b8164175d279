import CloudDesk.Calendar.Date
import CloudDesk.Proofs.Text
import CloudDesk.Proofs.Text.Digits
import Mathlib.Tactic.IntervalCases

namespace CloudDesk.Date

open Text

/-- The year within a cycle of 400 years that begin in March, from the day within it. -/
def yearOfEra (day : Int) : Int := (day - day / 1460 + day / 36524 - day / 146096) / 365

def dayOfYear (day : Int) : Int :=
  day - (365 * yearOfEra day + yearOfEra day / 4 - yearOfEra day / 100)

theorem yearOfEra_bounds {day : Int} (h : 0 ≤ day) (h' : day < 146097) :
    0 ≤ yearOfEra day ∧ yearOfEra day ≤ 399 := by
  unfold yearOfEra
  omega

/-- The last day of the cycle is apart. Before it, the cases are the century by the days and the
century by the year, which differ at the turn of a century. -/
theorem dayOfYear_bounds {day : Int} (h : 0 ≤ day) (h' : day < 146097) :
    0 ≤ dayOfYear day ∧ dayOfYear day ≤ 365 := by
  unfold dayOfYear
  have hyear := yearOfEra_bounds h h'
  have hdef : yearOfEra day = (day - day / 1460 + day / 36524 - day / 146096) / 365 := rfl
  generalize yearOfEra day = y at hyear hdef ⊢
  obtain hlast | hlast := lt_or_ge day 146096
  · have hzero : day / 146096 = 0 := by omega
    have hcentury : 0 ≤ day / 36524 ∧ day / 36524 ≤ 3 := by omega
    have hcentury' : 0 ≤ y / 100 ∧ y / 100 ≤ 3 := by omega
    have hle : y / 4 ≤ day / 1460 := by omega
    have hge : day / 1460 ≤ y / 4 + 1 := by omega
    generalize hf : day / 36524 = f at *
    generalize hq : y / 100 = q at *
    obtain ⟨hf0, hf3⟩ := hcentury
    obtain ⟨hq0, hq3⟩ := hcentury'
    interval_cases f <;> interval_cases q <;> omega
  · obtain rfl : day = 146096 := by omega
    norm_num at hdef
    subst hdef
    norm_num

def ofMarch (era year month day : Int) : Date :=
  let m := (if month < 10 then month + 3 else month - 9).toNat
  ⟨year + era * 400 + (if m ≤ 2 then 1 else 0), m, day.toNat⟩

theorem toDays_ofMarch {era year month day : Int} (hyear : 0 ≤ year ∧ year ≤ 399)
    (hmonth : 0 ≤ month ∧ month ≤ 11) (hday : 0 ≤ day) :
    (ofMarch era year month day).toDays =
      era * 146097 + (year * 365 + year / 4 - year / 100 + ((153 * month + 2) / 5 + day - 1)) - 719468 := by
  dsimp only [toDays, ofMarch]
  split_ifs <;> omega

theorem ofDays_eq (days : Int) : ofDays days =
    let day := (days + 719468) % 146097
    let month := (5 * dayOfYear day + 2) / 153
    ofMarch ((days + 719468) / 146097) (yearOfEra day) month
      (dayOfYear day - (153 * month + 2) / 5 + 1) := rfl

theorem toDays_ofDays (days : Int) : (ofDays days).toDays = days := by
  have hday : 0 ≤ (days + 719468) % 146097 ∧ (days + 719468) % 146097 < 146097 := by omega
  have hyear := yearOfEra_bounds hday.1 hday.2
  have hbounds := dayOfYear_bounds hday.1 hday.2
  have hdef : dayOfYear ((days + 719468) % 146097) = (days + 719468) % 146097 - _ := rfl
  rw [ofDays_eq, toDays_ofMarch hyear (by omega) (by omega)]
  omega

section

variable {run rest : List Char} {most : Nat}

theorem readNumber_run (hrun : ∀ c ∈ run, isDigit c = true) (hne : run ≠ []) (hlength : run.length ≤ most)
    (hrest : run.length = most ∨ ∀ c ∈ rest.head?, isDigit c = false) :
    readNumber most (run ++ rest) = some (ofDigits run, rest) := by
  have htake : ((run ++ rest).take most).takeWhile isDigit = run := by
    rw [List.take_append, List.take_of_length_le hlength]
    refine takeWhile_run hrun fun c hc => ?_
    obtain heq | hstop := hrest
    · simp [heq] at hc
    · refine hstop c ?_
      rw [List.head?_take] at hc
      split at hc
      · cases hc
      · exact hc
  simp [readNumber, htake, hne]

theorem trimStart_run (hrun : ∀ c ∈ run, isDigit c = true) (hne : run ≠ []) :
    trimStart (run ++ rest) = run ++ rest := by
  obtain ⟨c, run, rfl⟩ := List.exists_cons_of_ne_nil hne
  have hc := not_isBlank_of_isDigit (hrun c List.mem_cons_self)
  rw [trimStart, List.cons_append, List.dropWhile_cons_of_neg (by simp [hc])]

theorem readField_padded {n : Nat} (h : n < 10 ^ most) (hmost : 0 < most) (rest : List Char) :
    readField most (padded most n ++ rest) = some (n, rest) := by
  have hdigits : ∀ c ∈ padded most n, isDigit c = true := fun c => isDigit_of_mem_padded
  have hlength := length_padded hmost h
  rw [readField, trimStart_run hdigits (padded_ne_nil most n),
    readNumber_run hdigits (padded_ne_nil most n) hlength.le (Or.inl hlength), ofDigits_padded]

theorem readMark_cons {mark : Char} (h : isBlank mark = false) (rest : List Char) :
    readMark mark (mark :: rest) = some rest := by
  simp [readMark, trimStart, h]

end

theorem readNumber_padded_mark (width n : Nat) (rest : List Char) :
    readNumber (padded width n ++ '-' :: rest).length (padded width n ++ '-' :: rest) =
      some (n, '-' :: rest) := by
  have hstop : ∀ c ∈ ('-' :: rest).head?, isDigit c = false := by
    rintro _ ⟨⟩
    rfl
  rw [readNumber_run (fun c => isDigit_of_mem_padded) (padded_ne_nil width n) (by simp) (Or.inr hstop),
    ofDigits_padded]

theorem readYear_unsigned {run : List Char} (hrun : ∀ c ∈ run, isDigit c = true) (hne : run ≠ [])
    (rest : List Char) : readYear (run ++ rest) = (readNumber 4 (run ++ rest)).map fun r => ((r.1 : Int), r.2) := by
  obtain ⟨c, run, rfl⟩ := List.exists_cons_of_ne_nil hne
  have hc : isDigit c = true := hrun c List.mem_cons_self
  rw [readYear, trimStart_run hrun hne]
  split
  · next heq =>
    cases heq
    cases hc
  · next heq =>
    cases heq
    cases hc
  · rfl

theorem readYear_writeYear (year : Int) (rest : List Char) :
    readYear (writeYear year ++ '-' :: rest) = some (year, '-' :: rest) := by
  by_cases hplain : 0 ≤ year ∧ year ≤ 9999
  · have hwrite : writeYear year = padded 4 year.toNat := by simp [writeYear, hplain]
    have hdigits : ∀ c ∈ padded 4 year.toNat, isDigit c = true := fun c => isDigit_of_mem_padded
    have hlength : (padded 4 year.toNat).length = 4 := length_padded (by decide) (by omega)
    rw [hwrite, readYear_unsigned hdigits (padded_ne_nil _ _),
      readNumber_run hdigits (padded_ne_nil _ _) hlength.le (Or.inl hlength), ofDigits_padded]
    simp [hplain.1]
  · have hwrite : writeYear year = (if year < 0 then '-' else '+') :: padded 4 year.natAbs := by
      simp [writeYear]
      omega
    rw [hwrite, List.cons_append]
    split_ifs with hneg
    · have htrim : trimStart ('-' :: (padded 4 year.natAbs ++ '-' :: rest)) =
          '-' :: (padded 4 year.natAbs ++ '-' :: rest) := rfl
      simp only [readYear, htrim, readNumber_padded_mark, Option.map_some]
      congr 2
      omega
    · have htrim : trimStart ('+' :: (padded 4 year.natAbs ++ '-' :: rest)) =
          '+' :: (padded 4 year.natAbs ++ '-' :: rest) := rfl
      simp only [readYear, htrim, readNumber_padded_mark, Option.map_some]
      congr 2
      omega

theorem readStart_write {d : Date} (h : d.isValid = true) (rest : List Char) :
    readStart (d.write ++ rest) = some (d, rest) := by
  have hvalid := h
  simp only [isValid, Bool.and_eq_true, decide_eq_true_eq] at h
  have hmonth : d.month < 10 ^ 2 := by omega
  have hday : d.day < 10 ^ 2 := by
    have : daysInMonth d.year d.month ≤ 31 := by
      unfold daysInMonth
      split_ifs <;> decide
    omega
  have hmark : isBlank '-' = false := rfl
  simp only [readStart, write, List.append_assoc, List.cons_append, readYear_writeYear, readMark_cons hmark,
    readField_padded hmonth (by decide), readField_padded hday (by decide), Option.bind_eq_bind,
    Option.bind_some]
  exact if_pos hvalid

end CloudDesk.Date
