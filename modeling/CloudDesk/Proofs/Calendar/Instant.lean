import CloudDesk.Calendar.Instant
import CloudDesk.Proofs.Calendar.Date

namespace CloudDesk.Instant

open Text

/-- Instants of the years that can be told apart, with less than two seconds of nanoseconds. -/
structure Sound (t : Instant) : Prop where
  inRange : t.inRange = true
  nanos : t.nanos < 2 * billion

theorem readFraction_padded {width : Nat} (hwidth : width ≤ 9) (hpos : 0 < width) {n : Nat}
    (h : n < 10 ^ width) :
    readFraction ('.' :: padded width n ++ ['Z']) = some (n * 10 ^ (9 - width), ['Z']) := by
  have hdigits : ∀ c ∈ padded width n, isDigit c = true := fun c => isDigit_of_mem_padded
  have hstop : ∀ c ∈ ['Z'].head?, isDigit c = false := by
    rintro _ ⟨⟩
    rfl
  have hlength := length_padded hpos h
  have htake : (padded width n).take 9 = padded width n := List.take_of_length_le (by omega)
  simp only [readFraction, List.cons_append, takeWhile_run hdigits hstop, dropWhile_run hdigits hstop,
    htake, ofDigits_padded, hlength]
  simp [padded_ne_nil]

theorem readFraction_write {n : Nat} (h : n < billion) :
    readFraction (writeFraction n ++ ['Z']) = some (n, ['Z']) := by
  have hbillion : billion = 1000000000 := rfl
  unfold writeFraction
  split_ifs with hzero hmillis hmicros
  · subst hzero
    rfl
  · rw [readFraction_padded (by decide) (by decide) (by omega)]
    congr 2
    omega
  · rw [readFraction_padded (by decide) (by decide) (by omega)]
    congr 2
    omega
  · rw [readFraction_padded (by decide) (by decide) (by omega)]
    congr 2
    omega

theorem readFraction_lt {cs rest : List Char} {n : Nat} (h : readFraction cs = some (n, rest)) :
    n < billion := by
  unfold readFraction at h
  split at h
  · next tail =>
    have hdigits : ∀ c ∈ (tail.takeWhile isDigit).take 9, isDigit c = true := fun c hc =>
      List.mem_takeWhile_imp (List.mem_of_mem_take hc)
    have hlt := ofDigits_lt hdigits
    generalize tail.takeWhile isDigit = ds at h hlt
    dsimp only at h
    split_ifs at h
    cases h
    calc ofDigits (ds.take 9) * 10 ^ (9 - ds.length)
        < 10 ^ (ds.take 9).length * 10 ^ (9 - ds.length) :=
          Nat.mul_lt_mul_of_pos_right hlt (Nat.pow_pos (by decide))
      _ = 10 ^ ((ds.take 9).length + (9 - ds.length)) := (Nat.pow_add ..).symm
      _ = billion := by
        rw [List.length_take, show min 9 ds.length + (9 - ds.length) = 9 by omega]
        rfl
  · cases h
    decide

def writeParts (d : Date) (hour minute second nanos : Nat) : String :=
  String.ofList <| d.write ++ 'T' :: padded 2 hour ++ ':' :: padded 2 minute ++ ':' :: padded 2 second ++
    writeFraction nanos ++ ['Z']

def ofParts (d : Date) (hour minute second nanos : Nat) : Instant :=
  let clock := hour * 3600 + minute * 60 + (second - second / 60)
  ⟨d.toDays * 86400 + clock, second / 60 * billion + nanos⟩

theorem read?_writeParts {d : Date} (hd : d.isValid = true) {hour minute second nanos : Nat} (hhour : hour < 24)
    (hminute : minute < 60) (hsecond : second ≤ 60) (hnanos : nanos < billion) :
    read? (writeParts d hour minute second nanos) =
      if (ofParts d hour minute second nanos).inRange then some (ofParts d hour minute second nanos)
      else none := by
  have hh : hour < 10 ^ 2 := by omega
  have hm : minute < 10 ^ 2 := by omega
  have hs : second < 10 ^ 2 := by omega
  have hmark : isBlank ':' = false := rfl
  have hoffset : readOffset (trimStart ['Z']) = some (0, []) := rfl
  have htwo : 0 < 2 := by decide
  simp only [read?, writeParts, String.toList_ofList, List.append_assoc, List.cons_append,
    Date.readStart_write hd, Date.readMark_cons hmark, Date.readField_padded hh htwo,
    Date.readField_padded hm htwo, Date.readField_padded hs htwo, readFraction_write hnanos, hoffset,
    Option.bind_eq_bind, Option.bind_some]
  simp [hhour, hminute, hsecond, ofParts]

def clock (t : Instant) : Nat := (t.seconds % 86400).toNat

/-- The second that is written, which counts a leap second as the second after it. -/
def shownSecond (t : Instant) : Nat := t.clock % 60 + t.nanos / billion

theorem write_eq (t : Instant) : t.write = writeParts (Date.ofDays (t.seconds / 86400)) (t.clock / 3600)
    (t.clock / 60 % 60) t.shownSecond (t.nanos % billion) := rfl

def said (t : Instant) : Instant :=
  ofParts (Date.ofDays (t.seconds / 86400)) (t.clock / 3600) (t.clock / 60 % 60) t.shownSecond
    (t.nanos % billion)

theorem leap_le {nanos : Nat} (h : nanos < 2 * billion) : nanos / billion ≤ 1 :=
  Nat.le_of_lt_succ (Nat.div_lt_of_lt_mul (Nat.mul_comm 2 billion ▸ h))

/-- Where a leap second ends a minute it stays one; elsewhere the text says the second after it. -/
theorem said_eq {t : Instant} (h : t.nanos < 2 * billion) :
    t.said = if t.shownSecond = 60 then t
      else ⟨t.seconds + (t.nanos / billion : Nat), t.nanos % billion⟩ := by
  have hleap := leap_le h
  have hsplit := Nat.div_add_mod t.nanos billion
  have hclock : t.seconds % 86400 = t.clock := by
    unfold clock
    omega
  have hsecond : t.shownSecond = t.clock % 60 + t.nanos / billion := rfl
  unfold said ofParts
  rw [Date.toDays_ofDays]
  generalize t.clock = clock at *
  generalize t.shownSecond = second at *
  obtain ⟨seconds, nanos⟩ := t
  dsimp only at *
  generalize nanos / billion = leap at *
  split_ifs with h60
  · have hone : leap = 1 := by omega
    subst hone h60
    rw [mk.injEq, Nat.mul_one] at *
    exact ⟨by omega, by omega⟩
  · have hzero : second / 60 = 0 := by omega
    rw [hzero, mk.injEq]
    exact ⟨by omega, by omega⟩

theorem shownSecond_le {t : Instant} (h : t.nanos < 2 * billion) : t.shownSecond ≤ 60 := by
  have hleap := leap_le h
  unfold shownSecond
  omega

theorem said_parts {t : Instant} (h : t.nanos < 2 * billion) :
    t.said.seconds / 86400 = t.seconds / 86400 ∧ t.said.clock / 60 = t.clock / 60 ∧
      t.said.shownSecond = t.shownSecond ∧ t.said.nanos % billion = t.nanos % billion := by
  rw [said_eq h]
  split_ifs with h60
  · exact ⟨rfl, rfl, rfl, rfl⟩
  · have hle := shownSecond_le h
    have hfraction := Nat.mod_lt t.nanos (show 0 < billion by decide)
    simp only [shownSecond, clock, Nat.div_eq_of_lt hfraction, Nat.mod_mod, and_true] at h60 hle ⊢
    generalize t.nanos / billion = leap at *
    omega

theorem write_said {t : Instant} (h : t.nanos < 2 * billion) : t.said.write = t.write := by
  obtain ⟨hday, hminutes, hsecond, hnanos⟩ := said_parts h
  have hhour : t.said.clock / 3600 = t.clock / 3600 := by omega
  rw [write_eq, write_eq, hday, hhour, hminutes, hsecond, hnanos]

theorem read?_write {t : Instant} (h : t.Sound) : read? t.write = some t.said := by
  have hclock : t.clock < 86400 := by
    unfold clock
    omega
  have hrange : t.said.inRange = true := by
    rw [inRange, (said_parts h.nanos).1]
    exact h.inRange
  rw [write_eq, read?_writeParts h.inRange (by omega) (by omega) (shownSecond_le h.nanos)
    (Nat.mod_lt _ (by decide))]
  exact if_pos hrange

theorem sound_of_read? {s : String} {t : Instant} (h : read? s = some t) : t.Sound := by
  obtain ⟨_, -, h⟩ := Option.bind_eq_some_iff.mp h
  dsimp only at h
  split at h
  · split at h
    · obtain ⟨_, -, h⟩ := Option.bind_eq_some_iff.mp h
      obtain ⟨hour, -, h⟩ := Option.bind_eq_some_iff.mp h
      obtain ⟨_, -, h⟩ := Option.bind_eq_some_iff.mp h
      obtain ⟨minute, -, h⟩ := Option.bind_eq_some_iff.mp h
      obtain ⟨_, -, h⟩ := Option.bind_eq_some_iff.mp h
      obtain ⟨second, -, h⟩ := Option.bind_eq_some_iff.mp h
      obtain ⟨fraction, hfraction, h⟩ := Option.bind_eq_some_iff.mp h
      obtain ⟨offset, -, h⟩ := Option.bind_eq_some_iff.mp h
      have hlt := readFraction_lt hfraction
      split_ifs at h with htime hrange
      cases h
      simp only [Bool.and_eq_true, decide_eq_true_eq] at htime
      have hleap : second.1 / 60 ≤ 1 := by omega
      refine ⟨hrange, ?_⟩
      calc second.1 / 60 * billion + fraction.1
          ≤ 1 * billion + fraction.1 := Nat.add_le_add_right (Nat.mul_le_mul_right _ hleap) _
        _ < 2 * billion := by omega
    · cases h
  · cases h

end CloudDesk.Instant
