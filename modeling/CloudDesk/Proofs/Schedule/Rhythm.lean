import CloudDesk.Proofs.Schedule.Lifecycle
import CloudDesk.Schedule.Script
import Mathlib.Order.Interval.Finset.Nat

namespace CloudDesk

def IsDeadline (interval delay time : Nat) : Prop := ∃ k, time = delay + k * interval

instance (interval delay time : Nat) : Decidable (IsDeadline interval delay time) :=
  decidable_of_iff (delay ≤ time ∧ interval ∣ time - delay) <| by
    constructor
    · rintro ⟨hle, k, hk⟩
      exact ⟨k, by rw [Nat.mul_comm, ← hk, Nat.add_sub_cancel' hle]⟩
    · rintro ⟨k, rfl⟩
      exact ⟨Nat.le_add_right _ _, by rw [Nat.add_sub_cancel_left]; exact Nat.dvd_mul_left _ _⟩

def deadlines (interval delay before now : Nat) : Finset Nat :=
  (Finset.Ioc before now).filter (IsDeadline interval delay)

theorem deadlines_card_add (interval delay : Nat) {a b c : Nat} (hab : a ≤ b) (hbc : b ≤ c) :
    (deadlines interval delay a b).card + (deadlines interval delay b c).card =
      (deadlines interval delay a c).card := by
  have hdisjoint : Disjoint (deadlines interval delay a b) (deadlines interval delay b c) :=
    Finset.disjoint_filter_filter (Finset.Ioc_disjoint_Ioc_of_le le_rfl)
  rw [← Finset.card_union_of_disjoint hdisjoint, deadlines, deadlines, ← Finset.filter_union,
    Finset.Ioc_union_Ioc_eq_Ioc hab hbc, deadlines]

theorem deadlines_from_start (interval delay now : Nat) :
    ((Finset.Iic now).filter (IsDeadline interval delay)).card =
      (if delay = 0 then 1 else 0) + (deadlines interval delay 0 now).card := by
  have hstart : IsDeadline interval delay 0 ↔ delay = 0 := by
    constructor
    · rintro ⟨k, hk⟩
      omega
    · rintro rfl
      exact ⟨0, by rw [Nat.zero_mul]⟩
  have hsplit : Finset.Iic now = insert 0 (Finset.Ioc 0 now) := by
    ext d
    simp only [Finset.mem_Iic, Finset.mem_insert, Finset.mem_Ioc]
    omega
  rw [hsplit, Finset.filter_insert, deadlines]
  simp only [hstart]
  split_ifs
  · rw [Finset.card_insert_of_notMem (by simp), Nat.add_comm]
  · rw [Nat.zero_add]

namespace Ticker

/-- The next tick is due at the first deadline after the time. -/
def OnBeat (t : Ticker) (delay before : Nat) : Prop :=
  IsLeast {d | IsDeadline t.interval delay d ∧ before < d} t.next

variable {t : Ticker} {delay before : Nat}

theorem lt_due_iff (h : 0 < t.interval) (now k : Nat) :
    k < t.due now ↔ t.next + k * t.interval ≤ now := by
  have hne : (t.interval != 0) = true := bne_iff_ne.mpr (Nat.ne_of_gt h)
  unfold due isDue
  rw [hne, Bool.true_and]
  by_cases hdue : t.next ≤ now
  · rw [if_pos (decide_eq_true hdue), Nat.lt_succ_iff, Nat.le_div_iff_mul_le h]
    omega
  · rw [if_neg (by simpa using hdue)]
    omega

theorem deadline_from_next (h : 0 < t.interval) (hnext : IsDeadline t.interval delay t.next) {d : Nat}
    (hd : IsDeadline t.interval delay d) (hle : t.next ≤ d) : ∃ k, d = t.next + k * t.interval := by
  obtain ⟨i, hi⟩ := hnext
  obtain ⟨j, rfl⟩ := hd
  have hij : i ≤ j := by
    rw [hi] at hle
    exact Nat.le_of_mul_le_mul_right (Nat.le_of_add_le_add_left hle) h
  exact ⟨j - i, by rw [hi, Nat.add_assoc, ← Nat.add_mul, Nat.add_sub_cancel' hij]⟩

theorem deadline_after_next (hnext : IsDeadline t.interval delay t.next) (k : Nat) :
    IsDeadline t.interval delay (t.next + k * t.interval) := by
  obtain ⟨i, hi⟩ := hnext
  exact ⟨i + k, by rw [hi, Nat.add_mul, Nat.add_assoc]⟩

/-- Once all deadlines before the next one have passed, the ticker is on its beat after its ticks.
-/
theorem after_onBeat (h : 0 < t.interval) (hnext : IsDeadline t.interval delay t.next) {now : Nat}
    (hpassed : ∀ d, IsDeadline t.interval delay d → d < t.next → d ≤ now) :
    (t.after now).OnBeat delay now := by
  refine ⟨⟨deadline_after_next hnext (t.due now), ?_⟩, ?_⟩
  · exact Nat.lt_of_not_le fun hle => Nat.lt_irrefl _ ((lt_due_iff h now _).mpr hle)
  · rintro d ⟨hd, hlater⟩
    have hle : t.next ≤ d :=
      Nat.le_of_not_lt fun hlt => Nat.not_le_of_lt hlater (hpassed d hd hlt)
    obtain ⟨k, rfl⟩ := deadline_from_next h hnext hd hle
    have hk : t.due now ≤ k :=
      Nat.le_of_not_lt fun hlt => Nat.not_le_of_lt hlater ((lt_due_iff h now k).mp hlt)
    exact Nat.add_le_add_left (Nat.mul_le_mul_right _ hk) _

theorem start_onBeat {interval : Nat} (h : 0 < interval) (delay now : Nat) :
    ((start interval delay).after now).OnBeat delay now := by
  have hfirst : IsDeadline interval delay delay := ⟨0, by rw [Nat.zero_mul, Nat.add_zero]⟩
  refine after_onBeat (t := start interval delay) h hfirst ?_
  rintro _ ⟨k, rfl⟩ hlt
  exact absurd hlt (Nat.not_lt_of_le (Nat.le_add_right _ _))

namespace OnBeat

theorem after (hbeat : t.OnBeat delay before) (h : 0 < t.interval) {now : Nat}
    (hle : before ≤ now) : (t.after now).OnBeat delay now := by
  refine after_onBeat h hbeat.1.1 fun d hd hlt => ?_
  by_contra hlater
  exact Nat.not_le_of_lt hlt (hbeat.2 ⟨hd, by omega⟩)

theorem due_eq_card (hbeat : t.OnBeat delay before) (h : 0 < t.interval) (now : Nat) :
    t.due now = (deadlines t.interval delay before now).card := by
  have hinj : Function.Injective fun k => t.next + k * t.interval := fun j k hjk =>
    Nat.eq_of_mul_eq_mul_right h (Nat.add_left_cancel hjk)
  have himage : deadlines t.interval delay before now =
      (Finset.range (t.due now)).image fun k => t.next + k * t.interval := by
    ext d
    simp only [deadlines, Finset.mem_filter, Finset.mem_Ioc, Finset.mem_image, Finset.mem_range,
      lt_due_iff h]
    constructor
    · rintro ⟨⟨hlater, hle⟩, hd⟩
      obtain ⟨k, rfl⟩ := deadline_from_next h hbeat.1.1 hd (hbeat.2 ⟨hd, hlater⟩)
      exact ⟨k, hle, rfl⟩
    · rintro ⟨k, hle, rfl⟩
      exact ⟨⟨Nat.lt_of_lt_of_le hbeat.1.2 (Nat.le_add_right _ _), hle⟩,
        deadline_after_next hbeat.1.1 k⟩
  rw [himage, Finset.card_image_of_injective _ hinj, Finset.card_range]

end OnBeat

theorem due_le_one (h : 0 < t.interval) {now : Nat} (hlt : now < t.next + t.interval) :
    t.due now ≤ 1 := by
  refine Nat.le_of_not_lt fun hmore => ?_
  have hsecond := (lt_due_iff h now 1).mp hmore
  omega

/-- One tick happens if the next one is late, and else all that are due. -/
theorem ticks_eq (h : 0 < t.interval) (now : Nat) :
    t.ticks now = if t.next + grace < now then 1 else t.due now := by
  unfold ticks
  by_cases hlate : t.next + grace < now
  · have hdue : 0 < t.due now := (lt_due_iff h now 0).mpr (by omega)
    rw [if_pos (by omega), if_pos hlate]
    exact Nat.min_eq_left hdue
  · rw [if_neg (by omega), if_neg hlate]

end Ticker

namespace Runner

theorem trigger_stopped (r : Runner) : r.trigger.2.stopped = r.stopped := by
  obtain ⟨-, ht⟩ | ⟨-, -, ht⟩ | ⟨-, -, ht⟩ := r.trigger_cases <;> rw [ht]

theorem begin_stopped (r : Runner) : r.begin.stopped = r.stopped := by
  unfold begin
  split_ifs <;> rfl

theorem finish_stopped (r : Runner) (succeeded : Bool) :
    (r.finish succeeded).stopped = r.stopped := by
  unfold finish
  split_ifs <;> rfl

theorem triggers_stopped (n : Nat) (r : Runner) : (r.triggers n).stopped = r.stopped := by
  induction n generalizing r with
  | zero => rfl
  | succ n ih => exact (ih r.trigger.2).trans r.trigger_stopped

end Runner

namespace Schedule

open Lifecycle (Act act)

variable {σ : Type}

def ticksOf (s : Schedule) : Act σ → Nat
  | .advance time => if s.runner.stopped then 0 else s.ticker.ticks (s.now + time)
  | _ => 0

def ticksDuring (job : Job σ) : Schedule × σ → List (Act σ) → Nat
  | _, [] => 0
  | p, a :: rest => p.1.ticksOf a + ticksDuring job (act job p a) rest

/-- What an act does that lets no time pass: the clock and the ticker are as they were, and a stop
is not taken back. -/
structure Waits (s s' : Schedule) : Prop where
  now : s'.now = s.now
  ticker : s'.ticker = s.ticker
  stopped : s.runner.stopped = true → s'.runner.stopped = true

theorem conclude_waits (s : Schedule) (r : Option Bool × σ) : Waits s (s.conclude r).1 := by
  obtain ⟨_ | succeeded, work⟩ := r
  · exact ⟨rfl, rfl, id⟩
  · exact ⟨rfl, rfl, fun h => (s.runner.finish_stopped succeeded).trans h⟩

theorem act_cases (job : Job σ) (p : Schedule × σ) (a : Act σ) :
    (∃ time, a = .advance time) ∨ (p.1.ticksOf a = 0 ∧ Waits p.1 (act job p a).1) := by
  cases a with
  | advance time => exact Or.inl ⟨time, rfl⟩
  | trigger => exact Or.inr ⟨rfl, rfl, rfl, fun h => p.1.runner.trigger_stopped.trans h⟩
  | stop => exact Or.inr ⟨rfl, rfl, rfl, fun _ => rfl⟩
  | change f => exact Or.inr ⟨rfl, rfl, rfl, id⟩
  | resume =>
    refine Or.inr ⟨rfl, ?_⟩
    simp only [act, resume]
    split_ifs
    · exact conclude_waits p.1 _
    · exact ⟨rfl, rfl, id⟩
  | settle =>
    refine Or.inr ⟨rfl, ?_⟩
    simp only [act, settle]
    split_ifs
    · have hwaits := conclude_waits { p.1 with runner := p.1.runner.begin } (job.begin p.2)
      exact ⟨hwaits.now, hwaits.ticker,
        fun h => hwaits.stopped (p.1.runner.begin_stopped.trans h)⟩
    · exact ⟨rfl, rfl, id⟩

theorem advance_stopped (s : Schedule) (time : Nat) :
    (s.advance time).runner.stopped = s.runner.stopped := by
  unfold advance tick
  split_ifs
  · rfl
  · exact s.runner.triggers_stopped _

theorem advance_now (s : Schedule) (time : Nat) : (s.advance time).now = s.now + time := by
  unfold advance tick
  split_ifs <;> rfl

theorem advance_running {s : Schedule} (h : s.runner.stopped = false) (time : Nat) :
    s.advance time =
      ⟨s.runner.triggers (s.ticker.ticks (s.now + time)), s.ticker.after (s.now + time), s.now + time⟩ :=
  if_neg (by simp [h])

/-- Ticks come at the interval, and unless it is stopped a schedule has its next one due at the
first deadline to come. -/
structure OnBeat (interval delay : Nat) (s : Schedule) : Prop where
  interval : s.ticker.interval = interval
  next : s.runner.stopped = false → s.ticker.OnBeat delay s.now

section

variable {interval delay : Nat}

theorem start_onBeat (h : 0 < interval) : OnBeat interval delay (start interval delay) :=
  ⟨rfl, fun _ => Ticker.start_onBeat h delay 0⟩

theorem OnBeat.pos {s : Schedule} (hbeat : OnBeat interval delay s) (h : 0 < interval) :
    0 < s.ticker.interval :=
  hbeat.interval.symm ▸ h

theorem OnBeat.waits {s s' : Schedule} (hbeat : OnBeat interval delay s) (hwaits : Waits s s') :
    OnBeat interval delay s' := by
  refine ⟨(congrArg Ticker.interval hwaits.ticker).trans hbeat.interval, fun hs' => ?_⟩
  have hs : s.runner.stopped = false := Bool.eq_false_iff.mpr fun hs =>
    Bool.eq_false_iff.mp hs' (hwaits.stopped hs)
  rw [hwaits.ticker, hwaits.now]
  exact hbeat.next hs

theorem OnBeat.advance {s : Schedule} (h : 0 < interval) (hbeat : OnBeat interval delay s)
    (time : Nat) : OnBeat interval delay (s.advance time) := by
  cases hs : s.runner.stopped with
  | true =>
    refine ⟨?_, fun hs' => ?_⟩
    · rw [Schedule.advance, tick, if_pos hs]
      exact hbeat.interval
    · rw [advance_stopped, hs] at hs'
      cases hs'
  | false =>
    rw [advance_running hs]
    exact ⟨hbeat.interval, fun _ => (hbeat.next hs).after (hbeat.pos h) (Nat.le_add_right _ _)⟩

theorem OnBeat.act {p : Schedule × σ} (h : 0 < interval) (hbeat : OnBeat interval delay p.1)
    (job : Job σ) (a : Act σ) : OnBeat interval delay (act job p a).1 := by
  obtain ⟨time, rfl⟩ | ⟨-, hwaits⟩ := act_cases job p a
  · exact hbeat.advance h time
  · exact hbeat.waits hwaits

theorem OnBeat.acts {p : Schedule × σ} (h : 0 < interval) (hbeat : OnBeat interval delay p.1)
    (job : Job σ) (acts : List (Act σ)) :
    OnBeat interval delay (acts.foldl (Lifecycle.act job) p).1 := by
  induction acts generalizing p with
  | nil => exact hbeat
  | cons a rest ih => exact ih (hbeat.act h job a)

theorem act_stopped (job : Job σ) {p : Schedule × σ} (h : p.1.runner.stopped = true) (a : Act σ) :
    (act job p a).1.runner.stopped = true := by
  obtain ⟨time, rfl⟩ | ⟨-, hwaits⟩ := act_cases job p a
  · exact (p.1.advance_stopped time).trans h
  · exact hwaits.stopped h

theorem acts_stopped (job : Job σ) {p : Schedule × σ} (h : p.1.runner.stopped = true)
    (acts : List (Act σ)) : (acts.foldl (act job) p).1.runner.stopped = true := by
  induction acts generalizing p with
  | nil => exact h
  | cons a rest ih => exact ih (act_stopped job h a)

theorem act_now (job : Job σ) (p : Schedule × σ) (a : Act σ) : p.1.now ≤ (act job p a).1.now := by
  obtain ⟨time, rfl⟩ | ⟨-, hwaits⟩ := act_cases job p a
  · exact (Nat.le_add_right _ _).trans (p.1.advance_now time).ge
  · exact hwaits.now.ge

theorem acts_now (job : Job σ) (p : Schedule × σ) (acts : List (Act σ)) :
    p.1.now ≤ (acts.foldl (act job) p).1.now := by
  induction acts generalizing p with
  | nil => exact Nat.le_refl _
  | cons a rest ih => exact (act_now job p a).trans (ih (act job p a))

theorem advance_runner {s : Schedule} (hs : s.runner.stopped = false) (time : Nat) :
    (s.advance time).runner = s.runner.triggers (s.ticksOf (.advance time : Act σ)) := by
  rw [advance_running hs, ticksOf, if_neg (by simp [hs])]

namespace OnBeat

variable {s : Schedule} (h : 0 < interval) (hbeat : OnBeat interval delay s)
  (hs : s.runner.stopped = false)

include h hbeat hs

theorem due_eq_card (now : Nat) :
    s.ticker.due now = (deadlines interval delay s.now now).card := by
  rw [(hbeat.next hs).due_eq_card (hbeat.pos h), hbeat.interval]

theorem due_iff (now : Nat) : (deadlines interval delay s.now now).Nonempty ↔ s.ticker.next ≤ now := by
  rw [← Finset.card_pos, ← hbeat.due_eq_card h hs, Ticker.lt_due_iff (hbeat.pos h), Nat.zero_mul,
    Nat.add_zero]

theorem card_of_lt {now : Nat} (hlt : now < s.ticker.next + interval) :
    (deadlines interval delay s.now now).card =
      if (deadlines interval delay s.now now).Nonempty then 1 else 0 := by
  have hone : s.ticker.due now ≤ 1 :=
    Ticker.due_le_one (hbeat.pos h) (by rwa [hbeat.interval])
  rw [hbeat.due_eq_card h hs] at hone
  split_ifs with hdue
  · exact Nat.le_antisymm hone (Finset.card_pos.mpr hdue)
  · rw [Finset.not_nonempty_iff_eq_empty.mp hdue, Finset.card_empty]

theorem ticks (time : Nat) :
    s.ticksOf (.advance time : Act σ) =
      if s.ticker.next + Ticker.grace < s.now + time then 1
      else (deadlines interval delay s.now (s.now + time)).card := by
  rw [ticksOf, if_neg (by simp [hs]), Ticker.ticks_eq (hbeat.pos h), hbeat.due_eq_card h hs]

theorem ticks_once {time : Nat} (hfar : Ticker.grace < interval ∨ time ≤ interval) :
    s.ticksOf (.advance time : Act σ) =
      if (deadlines interval delay s.now (s.now + time)).Nonempty then 1 else 0 := by
  have hlater : s.now < s.ticker.next := (hbeat.next hs).1.2
  rw [hbeat.ticks h hs]
  split_ifs with hlate hdue hdue
  · rfl
  · exact absurd ((hbeat.due_iff h hs _).mpr (by omega)) hdue
  · rw [hbeat.card_of_lt h hs (by omega), if_pos hdue]
  · rw [hbeat.card_of_lt h hs (by omega), if_neg hdue]

theorem ticks_all {time : Nat} (hshort : time ≤ interval) :
    s.ticksOf (.advance time : Act σ) = (deadlines interval delay s.now (s.now + time)).card := by
  have hlater : s.now < s.ticker.next := (hbeat.next hs).1.2
  rw [hbeat.ticks_once h hs (Or.inr hshort), hbeat.card_of_lt h hs (by omega)]

end OnBeat

/-- No deadline is missed in a run in which no more than an interval passes at a time. -/
theorem ticksDuring_eq_card (h : 0 < interval) (job : Job σ) {p : Schedule × σ}
    (hbeat : OnBeat interval delay p.1) (acts : List (Act σ))
    (hs : (acts.foldl (act job) p).1.runner.stopped = false)
    (hshort : ∀ time, .advance time ∈ acts → time ≤ interval) :
    ticksDuring job p acts =
      (deadlines interval delay p.1.now (acts.foldl (act job) p).1.now).card := by
  induction acts generalizing p with
  | nil => simp [ticksDuring, deadlines]
  | cons a rest ih =>
    have hrest := ih (hbeat.act h job a) hs fun time ht => hshort time (List.mem_cons_of_mem a ht)
    have hrunning : p.1.runner.stopped = false := Bool.eq_false_iff.mpr fun hstopped =>
      Bool.eq_false_iff.mp hs (acts_stopped job hstopped (a :: rest))
    have hfirst : p.1.ticksOf a = (deadlines interval delay p.1.now (act job p a).1.now).card := by
      obtain ⟨time, rfl⟩ | ⟨hnone, hwaits⟩ := act_cases job p a
      · rw [hbeat.ticks_all h hrunning (hshort time List.mem_cons_self)]
        exact congrArg (fun now => (deadlines interval delay p.1.now now).card)
          (p.1.advance_now time).symm
      · simp [hnone, hwaits.now, deadlines]
    rw [ticksDuring, hfirst, hrest, deadlines_card_add interval delay (act_now job p a)
      (acts_now job (act job p a) rest)]
    rfl

theorem start_runner (h : 0 < interval) (delay : Nat) :
    (start interval delay).runner = Runner.new.triggers (if delay = 0 then 1 else 0) := by
  have hone : (Ticker.start interval delay).due 0 ≤ 1 :=
    Ticker.due_le_one (t := Ticker.start interval delay) h (Nat.add_pos_right delay h)
  have hdue := Ticker.lt_due_iff (t := Ticker.start interval delay) h 0 0
  have hticks : (Ticker.start interval delay).ticks 0 = if delay = 0 then 1 else 0 := by
    rw [Ticker.ticks_eq (t := Ticker.start interval delay) h, if_neg (Nat.not_lt_zero _)]
    rw [Nat.zero_mul, Nat.add_zero, Nat.le_zero] at hdue
    split_ifs with hdelay
    · exact Nat.le_antisymm hone (hdue.mpr hdelay)
    · exact Nat.eq_zero_of_not_pos fun hpos => hdelay (hdue.mp hpos)
  rw [← hticks]
  rfl

end

/-- With an interval and any delay, and whatever runs, triggers by hand and late ticks there have
been, a schedule that is not stopped has its next tick at the first deadline to come. Time that
passes triggers the runner: once if the first deadline in it is late by more than the grace, and
else once for each deadline in it; so once if there is a deadline and not at all if there is none,
wherever the interval is longer than the grace or the time not longer than the interval. Without a
delay there is one more tick at the start. As long as no more than an interval passes at a time no
deadline is missed. -/
theorem ticks_keep_rhythm {interval : Nat} (h : 0 < interval) (delay : Nat) (job : Job σ) (work : σ)
    (acts : List (Act σ))
    (hs : (acts.foldl (act job) (start interval delay, work)).1.runner.stopped = false) :
    let s := (acts.foldl (act job) (start interval delay, work)).1
    IsLeast {d | IsDeadline interval delay d ∧ s.now < d} s.ticker.next ∧
      (∀ time,
        let due := deadlines interval delay s.now (s.now + time)
        let n := s.ticksOf (.advance time : Act σ)
        (s.advance time).runner = s.runner.triggers n ∧
          n = (if s.ticker.next + Ticker.grace < s.now + time then 1 else due.card) ∧
          (Ticker.grace < interval ∨ time ≤ interval → n = if due.Nonempty then 1 else 0)) ∧
      (start interval delay).runner = Runner.new.triggers (if delay = 0 then 1 else 0) ∧
      ((∀ time, .advance time ∈ acts → time ≤ interval) →
        (if delay = 0 then 1 else 0) + ticksDuring job (start interval delay, work) acts =
          ((Finset.Iic s.now).filter (IsDeadline interval delay)).card) := by
  intro s
  have hbeat : OnBeat interval delay s := (start_onBeat h).acts h job acts
  refine ⟨?_, fun time => ?_, start_runner h delay, fun hshort => ?_⟩
  · have hnext : s.ticker.OnBeat delay s.now := hbeat.next hs
    rwa [Ticker.OnBeat, hbeat.interval] at hnext
  · exact ⟨advance_runner hs time, hbeat.ticks h hs time, hbeat.ticks_once h hs⟩
  · rw [deadlines_from_start, ticksDuring_eq_card h job (start_onBeat h) acts hs hshort]
    rfl

/-- A waiting run, a trigger by hand and three missed deadlines do not shift the next one. -/
theorem rhythm_outlasts_waiting_run :
    let acts : List (Act Script) := [.advance 8, .settle, .trigger, .advance 39]
    let s := (acts.foldl (act Script.job) (start 10 3, ⟨true, [], 0⟩)).1
    s.runner.stopped = false ∧ s.runner.stats = ⟨1, 0, 2⟩ ∧
      IsLeast {d | IsDeadline 10 3 d ∧ 47 < d} 53 ∧
      (s.advance 25).runner.stats = ⟨1, 0, 3⟩ := by
  intro acts s
  have hs : s.runner.stopped = false := by decide
  obtain ⟨hnext, hadvance, -, -⟩ :=
    ticks_keep_rhythm (by decide : 0 < 10) 3 Script.job ⟨true, [], 0⟩ acts hs
  obtain ⟨hrunner, -, honce⟩ := hadvance 25
  have hdue : (deadlines 10 3 s.now (s.now + 25)).Nonempty := by decide
  have hone : s.ticksOf (.advance 25 : Act Script) = 1 :=
    (honce (Or.inl (by decide))).trans (if_pos hdue)
  refine ⟨hs, by decide, hnext, ?_⟩
  rw [hrunner, hone]
  decide

/-- A deadline that is hardly late ticks together with the one after it. -/
theorem close_deadlines_both_tick :
    let s := start 1 1
    s.runner.stopped = false ∧ deadlines 1 1 s.now (s.now + 2) = {1, 2} ∧
      s.ticksOf (.advance 2 : Act Script) = 2 ∧
      (s.advance 2).runner ≠ s.runner.trigger.2 ∧
      ((Script.Stage.start 1 1 false []).perform (.advance 2)).after.schedule.runner.stats =
        ⟨1, 0, 1⟩ := by
  decide

end Schedule

end CloudDesk
