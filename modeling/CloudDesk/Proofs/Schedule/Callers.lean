import CloudDesk.Schedule.Runner
import Mathlib.Logic.Function.Basic
import Mathlib.Tactic.SplitIfs

namespace CloudDesk

def Runner.InFlight (r : Runner) : Prop := r.lock = .launched ∨ r.lock = .running

def Runner.pending (r : Runner) : Nat := if r.lock = .launched then 1 else 0

inductive TriggerStage
  | called
  | looked
  | claimed
  | answered (answer : TriggerAnswer)
  deriving DecidableEq

inductive StopStage
  | called
  | raised
  | holding
  | returned
  deriving DecidableEq

/-- A runner with those who call it, by numbers: triggers, by hand and by the ticker, and stops. -/
structure Callers where
  runner : Runner
  triggers : Nat → TriggerStage
  stops : Nat → StopStage

namespace Callers

inductive Event
  | look (i : Nat)
  | claim (i : Nat)
  | launch (i : Nat)
  | begin
  | finish (succeeded : Bool)
  | raise (j : Nat)
  | acquire (j : Nat)
  | release (j : Nat)
  deriving DecidableEq

def opened : Callers := ⟨Runner.new, fun _ => .called, fun _ => .called⟩

def move (s : Callers) (i : Nat) (stage : TriggerStage) (runner : Runner) : Callers :=
  { s with runner, triggers := Function.update s.triggers i stage }

def moveStop (s : Callers) (j : Nat) (stage : StopStage) (runner : Runner) : Callers :=
  { s with runner, stops := Function.update s.stops j stage }

/-- A step of a caller who is not at the stage for it does nothing, and so does a stop that wants
the lock while somebody holds it. -/
def step (s : Callers) : Event → Callers
  | .look i =>
    if s.triggers i = .called then
      s.move i (if s.runner.stopped then .answered .stopped else .looked) s.runner
    else s
  | .claim i =>
    if s.triggers i = .looked then
      s.move i (if s.runner.claim.1 then .claimed else .answered .skipped) s.runner.claim.2
    else s
  | .launch i =>
    if s.triggers i = .claimed then s.move i (.answered s.runner.launch.1) s.runner.launch.2 else s
  | .begin => { s with runner := s.runner.begin }
  | .finish succeeded => { s with runner := s.runner.finish succeeded }
  | .raise j => if s.stops j = .called then s.moveStop j .raised s.runner.raise else s
  | .acquire j =>
    if s.stops j = .raised ∧ s.runner.lock = .free then s.moveStop j .holding s.runner.acquire else s
  | .release j => if s.stops j = .holding then s.moveStop j .returned s.runner.release else s

def run (s : Callers) (events : List Event) : Callers := events.foldl step s

theorem run_trigger (s : Callers) {i : Nat} (h : s.triggers i = .called) :
    s.run [.look i, .claim i, .launch i] =
      s.move i (.answered s.runner.trigger.1) s.runner.trigger.2 := by
  cases hstopped : s.runner.stopped with
  | true => simp [run, step, move, h, hstopped, Runner.trigger]
  | false =>
    by_cases hl : s.runner.lock = .free
    · simp [run, step, move, h, hstopped, hl, Runner.trigger, Runner.claim, Runner.launch]
    · simp [run, step, move, h, hstopped, hl, Runner.trigger, Runner.claim]

def Event.act (r : Runner) : Event → Runner
  | .look _ => r
  | .claim _ => r.claim.2
  | .launch _ => r.launch.2
  | .begin => r.begin
  | .finish succeeded => r.finish succeeded
  | .raise _ => r.raise
  | .acquire _ => r.acquire
  | .release _ => r.release

def Event.begins (r : Runner) : Event → Nat
  | .begin => r.pending
  | _ => 0

theorem step_runner (s : Callers) (e : Event) :
    (s.step e).runner = e.act s.runner ∨ (s.step e).runner = s.runner ∧ e.begins s.runner = 0 := by
  cases e with
  | begin => exact Or.inl rfl
  | finish succeeded => exact Or.inl rfl
  | _ =>
    simp only [step]
    split_ifs
    all_goals first
      | exact Or.inl rfl
      | exact Or.inr ⟨rfl, rfl⟩

def begun : Callers → List Event → Nat
  | _, [] => 0
  | s, e :: rest => e.begins s.runner + begun (s.step e) rest

theorem act_runs (r : Runner) (e : Event) :
    (e.act r).stats.runs = r.stats.runs + e.begins r := by
  cases e with
  | begin =>
    simp only [Event.act, Runner.begin, Event.begins, Runner.pending]
    split_ifs <;> rfl
  | finish succeeded =>
    simp only [Event.act, Runner.finish]
    split_ifs <;> rfl
  | claim i =>
    simp only [Event.act, Runner.claim]
    split_ifs <;> rfl
  | launch i =>
    simp only [Event.act, Runner.launch]
    split_ifs <;> rfl
  | acquire j =>
    simp only [Event.act, Runner.acquire]
    split_ifs <;> rfl
  | release j =>
    simp only [Event.act, Runner.release]
    split_ifs <;> rfl
  | _ => rfl

theorem step_runs (s : Callers) (e : Event) :
    (s.step e).runner.stats.runs = s.runner.stats.runs + e.begins s.runner := by
  obtain h | ⟨h, hnone⟩ := s.step_runner e
  · rw [h, act_runs]
  · rw [h, hnone, Nat.add_zero]

theorem run_runs (s : Callers) (events : List Event) :
    (s.run events).runner.stats.runs = s.runner.stats.runs + begun s events := by
  induction events generalizing s with
  | nil => rfl
  | cons e rest ih =>
    have h := ih (s.step e)
    rw [step_runs] at h
    rw [begun, ← Nat.add_assoc]
    exact h

/-- Whoever is at a stage where he holds the lock holds it alone. The flag stays raised once a stop
has raised it, and no run is in flight after a stop has returned. -/
structure Inv (s : Callers) : Prop where
  claimed : ∀ i, s.triggers i = .claimed →
    s.runner.lock = .claimed ∧ ∀ i', s.triggers i' = .claimed → i' = i
  holding : ∀ j, s.stops j = .holding →
    s.runner.lock = .stopping ∧ ∀ j', s.stops j' = .holding → j' = j
  raised : ∀ j, s.stops j ≠ .called → s.runner.stopped = true
  returned : ∀ j, s.stops j = .returned → ¬ s.runner.InFlight

/-- Who is at another stage than the one that somebody has come to was there before. -/
theorem of_update {α : Type} {f : Nat → α} {i i' : Nat} {x y : α} (hxy : x ≠ y)
    (h : Function.update f i x i' = y) : i' ≠ i ∧ f i' = y := by
  rw [Function.update_apply] at h
  by_cases hi : i' = i
  · rw [if_pos hi] at h
    exact absurd h hxy
  · rw [if_neg hi] at h
    exact ⟨hi, h⟩

theorem eq_of_update {α : Type} {f : Nat → α} {i i' : Nat} {x y : α} (hnone : ∀ k, f k ≠ y)
    (h : Function.update f i x i' = y) : i' = i := by
  rw [Function.update_apply] at h
  by_contra hi
  rw [if_neg hi] at h
  exact hnone i' h

namespace Inv

variable {s : Callers}

theorem nobody_claimed (h : Inv s) (hl : s.runner.lock ≠ .claimed) (i : Nat) :
    s.triggers i ≠ .claimed :=
  fun hi => hl (h.claimed i hi).1

theorem nobody_holding (h : Inv s) (hl : s.runner.lock ≠ .stopping) (j : Nat) :
    s.stops j ≠ .holding :=
  fun hj => hl (h.holding j hj).1

theorem pass (h : Inv s) (i : Nat) {stage : TriggerStage} {r : Runner} (hstage : stage ≠ .claimed)
    (hlock : r.lock = s.runner.lock) (hstopped : r.stopped = s.runner.stopped) :
    Inv (s.move i stage r) where
  claimed i' hi' := by
    obtain ⟨-, hi'⟩ := of_update hstage hi'
    obtain ⟨hl, hone⟩ := h.claimed i' hi'
    exact ⟨hlock.trans hl, fun i'' hi'' => hone i'' (of_update hstage hi'').2⟩
  holding j hj := by
    obtain ⟨hl, hone⟩ := h.holding j hj
    exact ⟨hlock.trans hl, hone⟩
  raised j hj := hstopped.trans (h.raised j hj)
  returned j hj := by
    have hquiet := h.returned j hj
    unfold Runner.InFlight at hquiet ⊢
    rw [← hlock] at hquiet
    exact hquiet

theorem claim (h : Inv s) (i : Nat) (hl : s.runner.lock = .free) :
    Inv (s.move i .claimed { s.runner with lock := .claimed }) := by
  have hclaimed := h.nobody_claimed (by rw [hl]; decide)
  have hholding := h.nobody_holding (by rw [hl]; decide)
  refine ⟨fun i' hi' => ⟨rfl, fun i'' hi'' => ?_⟩, fun j hj => ?_, h.raised, fun j hj => ?_⟩
  · rw [eq_of_update hclaimed hi', eq_of_update hclaimed hi'']
  · exact absurd hj (hholding j)
  · exact not_or.mpr ⟨nofun, nofun⟩

theorem launch (h : Inv s) {i : Nat} (hi : s.triggers i = .claimed) :
    Inv (s.move i (.answered s.runner.launch.1) s.runner.launch.2) := by
  obtain ⟨hl, hone⟩ := h.claimed i hi
  have hholding := h.nobody_holding (by rw [hl]; decide)
  refine ⟨fun i' hi' => ?_, fun j hj => absurd hj (hholding j), fun j hj => ?_, fun j hj => ?_⟩
  · obtain ⟨hne, hi'⟩ := of_update (by simp) hi'
    exact absurd (hone i' hi') hne
  · have hstopped := h.raised j hj
    simp [move, Runner.launch, hstopped]
  · -- a stop that has returned has raised the flag before, so nothing is launched
    have hstopped := h.raised j fun hc => by cases hj.symm.trans hc
    simp [Runner.InFlight, move, Runner.launch, hstopped]

theorem begin (h : Inv s) : Inv { s with runner := s.runner.begin } := by
  unfold Runner.begin
  split_ifs with hl
  · have hclaimed := h.nobody_claimed (by rw [hl]; decide)
    have hholding := h.nobody_holding (by rw [hl]; decide)
    exact ⟨fun i hi => absurd hi (hclaimed i), fun j hj => absurd hj (hholding j), h.raised,
      fun j hj => absurd (Or.inl hl) (h.returned j hj)⟩
  · exact h

theorem finish (h : Inv s) (succeeded : Bool) :
    Inv { s with runner := s.runner.finish succeeded } := by
  by_cases hl : s.runner.lock = .running
  · have hclaimed := h.nobody_claimed (by rw [hl]; decide)
    have hholding := h.nobody_holding (by rw [hl]; decide)
    have hstopped : (s.runner.finish succeeded).stopped = s.runner.stopped := by
      unfold Runner.finish
      split_ifs <;> rfl
    exact ⟨fun i hi => absurd hi (hclaimed i), fun j hj => absurd hj (hholding j),
      fun j hj => hstopped.trans (h.raised j hj), fun j hj => absurd (Or.inr hl) (h.returned j hj)⟩
  · have hsame : s.runner.finish succeeded = s.runner := by rw [Runner.finish, if_neg hl]
    rw [hsame]
    exact h

theorem raise (h : Inv s) (j : Nat) : Inv (s.moveStop j .raised s.runner.raise) := by
  refine ⟨h.claimed, fun j' hj' => ?_, fun j' hj' => rfl, fun j' hj' => ?_⟩
  · obtain ⟨-, hj'⟩ := of_update (by decide) hj'
    obtain ⟨hl, hone⟩ := h.holding j' hj'
    exact ⟨hl, fun j'' hj'' => hone j'' (of_update (by decide) hj'').2⟩
  · obtain ⟨-, hj'⟩ := of_update (by decide) hj'
    exact h.returned j' hj'

theorem acquire (h : Inv s) {j : Nat} (hj : s.stops j = .raised) (hl : s.runner.lock = .free) :
    Inv (s.moveStop j .holding s.runner.acquire) := by
  have hclaimed := h.nobody_claimed (by rw [hl]; decide)
  have hholding := h.nobody_holding (by rw [hl]; decide)
  have hlock : s.runner.acquire = { s.runner with lock := .stopping } := by
    rw [Runner.acquire, if_pos hl]
  have hstopped : s.runner.stopped = true := h.raised j (by rw [hj]; decide)
  rw [hlock]
  refine ⟨fun i hi => absurd hi (hclaimed i), fun j' hj' => ⟨rfl, fun j'' hj'' => ?_⟩,
    fun _ _ => hstopped, fun j' hj' => ?_⟩
  · rw [eq_of_update hholding hj', eq_of_update hholding hj'']
  · exact not_or.mpr ⟨nofun, nofun⟩

theorem release (h : Inv s) {j : Nat} (hj : s.stops j = .holding) :
    Inv (s.moveStop j .returned s.runner.release) := by
  obtain ⟨hl, hone⟩ := h.holding j hj
  have hclaimed := h.nobody_claimed (by rw [hl]; decide)
  have hlock : s.runner.release = { s.runner with lock := .free } := by
    rw [Runner.release, if_pos hl]
  have hstopped : s.runner.stopped = true := h.raised j (by rw [hj]; decide)
  rw [hlock]
  refine ⟨fun i hi => absurd hi (hclaimed i), fun j' hj' => ?_, fun _ _ => hstopped,
    fun j' hj' => ?_⟩
  · obtain ⟨hne, hj'⟩ := of_update (by decide) hj'
    exact absurd (hone j' hj') hne
  · exact not_or.mpr ⟨nofun, nofun⟩

theorem opened : Inv Callers.opened where
  claimed _ h := by cases h
  holding _ h := by cases h
  raised _ h := absurd rfl h
  returned _ h := by cases h

theorem step (h : Inv s) (e : Event) : Inv (s.step e) := by
  cases e with
  | look i =>
    simp only [Callers.step]
    split_ifs
    · exact h.pass i (by decide) rfl rfl
    · exact h.pass i (by decide) rfl rfl
    · exact h
  | claim i =>
    simp only [Callers.step]
    split_ifs with hi hc
    · have hl : s.runner.lock = .free := by
        by_contra hl
        simp [Runner.claim, hl] at hc
      have hclaim : s.runner.claim.2 = { s.runner with lock := .claimed } := by
        rw [Runner.claim, if_pos hl]
      rw [hclaim]
      exact h.claim i hl
    · have hl : s.runner.lock ≠ .free := fun hl => by simp [Runner.claim, hl] at hc
      apply h.pass i (by decide)
      · rw [Runner.claim, if_neg hl]
      · rw [Runner.claim, if_neg hl]
    · exact h
  | launch i =>
    simp only [Callers.step]
    split_ifs with hi
    · exact h.launch hi
    · exact h
  | begin => exact h.begin
  | finish succeeded => exact h.finish succeeded
  | raise j =>
    simp only [Callers.step]
    split_ifs
    · exact h.raise j
    · exact h
  | acquire j =>
    simp only [Callers.step]
    split_ifs with hj
    · exact h.acquire hj.1 hj.2
    · exact h
  | release j =>
    simp only [Callers.step]
    split_ifs with hj
    · exact h.release hj
    · exact h

theorem run (h : Inv s) (events : List Event) : Inv (s.run events) := by
  induction events generalizing s with
  | nil => exact h
  | cons e rest ih => exact ih (h.step e)

end Inv

theorem act_stopped {r : Runner} (h : r.stopped = true) (e : Event) :
    (e.act r).stopped = true ∧ e.begins r + (e.act r).pending ≤ r.pending := by
  cases e with
  | look i => exact ⟨h, by simp [Event.begins, Event.act]⟩
  | claim i =>
    simp only [Event.act, Runner.claim, Event.begins, Runner.pending]
    split_ifs <;> simp_all
  | launch i => simp [Event.act, Runner.launch, Event.begins, Runner.pending, h]
  | begin =>
    by_cases hl : r.lock = .launched
    · simp [Event.act, Runner.begin, Event.begins, Runner.pending, hl, h]
    · simp [Event.act, Runner.begin, Event.begins, Runner.pending, hl, h]
  | finish succeeded =>
    by_cases hl : r.lock = .running
    · cases succeeded <;> simp [Event.act, Runner.finish, Event.begins, Runner.pending, hl, h]
    · simp [Event.act, Runner.finish, Event.begins, hl, h]
  | raise j => exact ⟨rfl, Nat.le_of_eq (Nat.zero_add r.pending)⟩
  | acquire j =>
    by_cases hl : r.lock = .free
    · simp [Event.act, Runner.acquire, Event.begins, Runner.pending, hl, h]
    · simp [Event.act, Runner.acquire, Event.begins, hl, h]
  | release j =>
    by_cases hl : r.lock = .stopping
    · simp [Event.act, Runner.release, Event.begins, Runner.pending, hl, h]
    · simp [Event.act, Runner.release, Event.begins, hl, h]

/-- Without a run in flight a runner that is stopped stays so, and its record of runs with it. -/
theorem act_quiet {r : Runner} (h : r.stopped = true) (hf : ¬ r.InFlight) (e : Event) :
    ¬ (e.act r).InFlight ∧ (e.act r).state = r.state ∧
      (e.act r).stats.failures = r.stats.failures := by
  have hlaunched : r.lock ≠ .launched := fun hl => hf (Or.inl hl)
  have hrunning : r.lock ≠ .running := fun hl => hf (Or.inr hl)
  cases e with
  | look i => exact ⟨hf, rfl, rfl⟩
  | claim i =>
    by_cases hl : r.lock = .free
    · simp [Event.act, Runner.claim, Runner.InFlight, hl]
    · simp [Event.act, Runner.claim, Runner.InFlight, hl, hlaunched, hrunning]
  | launch i => simp [Event.act, Runner.launch, Runner.InFlight, h]
  | begin => simp [Event.act, Runner.begin, hlaunched, hf]
  | finish succeeded => simp [Event.act, Runner.finish, hrunning, hf]
  | raise j => exact ⟨hf, rfl, rfl⟩
  | acquire j =>
    by_cases hl : r.lock = .free
    · simp [Event.act, Runner.acquire, Runner.InFlight, hl]
    · simp [Event.act, Runner.acquire, hl, hf]
  | release j =>
    by_cases hl : r.lock = .stopping
    · simp [Event.act, Runner.release, Runner.InFlight, hl]
    · simp [Event.act, Runner.release, hl, hf]

theorem run_stopped {s : Callers} (h : s.runner.stopped = true) (events : List Event) :
    (s.run events).runner.stopped = true ∧
      begun s events + (s.run events).runner.pending ≤ s.runner.pending := by
  induction events generalizing s with
  | nil => exact ⟨h, by simp [begun, run]⟩
  | cons e rest ih =>
    have hstep : (s.step e).runner.stopped = true ∧
        e.begins s.runner + (s.step e).runner.pending ≤ s.runner.pending := by
      obtain hr | ⟨hr, hnone⟩ := s.step_runner e
      · rw [hr]
        exact act_stopped h e
      · rw [hr, hnone, Nat.zero_add]
        exact ⟨h, Nat.le_refl _⟩
    obtain ⟨hstopped, hpending⟩ := ih hstep.1
    refine ⟨hstopped, ?_⟩
    have hbegins := hstep.2
    simp only [begun, run, List.foldl_cons] at hpending ⊢
    omega

theorem run_quiet {s : Callers} (h : s.runner.stopped = true) (hf : ¬ s.runner.InFlight)
    (events : List Event) :
    ¬ (s.run events).runner.InFlight ∧ (s.run events).runner.state = s.runner.state ∧
      (s.run events).runner.stats.failures = s.runner.stats.failures := by
  induction events generalizing s with
  | nil => exact ⟨hf, rfl, rfl⟩
  | cons e rest ih =>
    have hstopped : (s.step e).runner.stopped = true := (run_stopped h [e]).1
    have hstep : ¬ (s.step e).runner.InFlight ∧ (s.step e).runner.state = s.runner.state ∧
        (s.step e).runner.stats.failures = s.runner.stats.failures := by
      obtain hr | ⟨hr, -⟩ := s.step_runner e
      · rw [hr]
        exact act_quiet h hf e
      · rw [hr]
        exact ⟨hf, rfl, rfl⟩
    obtain ⟨hquiet, hstate, hfailures⟩ := ih hstopped hstep.1
    exact ⟨hquiet, hstate.trans hstep.2.1, hfailures.trans hstep.2.2⟩

def Event.isOf (i : Nat) (e : Event) : Prop := e = .look i ∨ e = .claim i ∨ e = .launch i

theorem step_triggers (s : Callers) {i : Nat} {e : Event} (he : ¬ e.isOf i) :
    (s.step e).triggers i = s.triggers i := by
  have hmove : ∀ i' stage runner, i' ≠ i → (s.move i' stage runner).triggers i = s.triggers i :=
    fun i' stage runner hne => by
      rw [move]
      exact Function.update_of_ne (Ne.symm hne) stage s.triggers
  cases e with
  | look i' =>
    have hne : i' ≠ i := fun h => he (Or.inl (congrArg Event.look h))
    simp only [step]
    split_ifs
    · exact hmove i' _ _ hne
    · exact hmove i' _ _ hne
    · rfl
  | claim i' =>
    have hne : i' ≠ i := fun h => he (Or.inr (Or.inl (congrArg Event.claim h)))
    simp only [step]
    split_ifs
    · exact hmove i' _ _ hne
    · exact hmove i' _ _ hne
    · rfl
  | launch i' =>
    have hne : i' ≠ i := fun h => he (Or.inr (Or.inr (congrArg Event.launch h)))
    simp only [step]
    split_ifs
    · exact hmove i' _ _ hne
    · rfl
  | begin => rfl
  | finish succeeded => rfl
  | _ =>
    simp only [step]
    split_ifs <;> rfl

theorem step_answered {s : Callers} {i : Nat} {answer : TriggerAnswer}
    (h : s.triggers i = .answered answer) {e : Event} (he : e.isOf i) : s.step e = s := by
  obtain rfl | rfl | rfl := he <;> simp [step, h]

theorem run_answered {s : Callers} {i : Nat} {answer : TriggerAnswer}
    (h : s.triggers i = .answered answer) (events : List Event) :
    (s.run events).triggers i = .answered answer := by
  induction events generalizing s with
  | nil => exact h
  | cons e rest ih =>
    apply ih
    by_cases he : e.isOf i
    · rw [step_answered h he, h]
    · rw [step_triggers s he, h]

theorem step_called {s : Callers} {i : Nat} (h : s.runner.stopped = true)
    (hi : s.triggers i = .called) {e : Event} (he : e.isOf i) :
    (s.step e).runner = s.runner ∧
      (s.step e).triggers i = if e = .look i then .answered .stopped else .called := by
  obtain rfl | rfl | rfl := he
  · simp [step, hi, h, move]
  · simp [step, hi]
  · simp [step, hi]

theorem run_called {s : Callers} {i : Nat} (h : s.runner.stopped = true)
    (hi : s.triggers i = .called) (events : List Event) :
    (s.run events).triggers i = if .look i ∈ events then .answered .stopped else .called := by
  induction events generalizing s with
  | nil =>
    rw [if_neg List.not_mem_nil]
    exact hi
  | cons e rest ih =>
    have hstopped : (s.step e).runner.stopped = true := (run_stopped h [e]).1
    by_cases he : e.isOf i
    · have hstep := (step_called h hi he).2
      by_cases hlook : e = .look i
      · rw [if_pos hlook] at hstep
        rw [if_pos (by rw [hlook]; exact List.mem_cons_self)]
        exact run_answered hstep rest
      · rw [if_neg hlook] at hstep
        simpa [run, Ne.symm hlook] using ih hstopped hstep
    · have hlook : Event.look i ≠ e := fun hl => he (Or.inl hl.symm)
      have hstep := (step_triggers s he).trans hi
      simpa [run, hlook] using ih hstopped hstep

theorem run_late {s : Callers} {i : Nat} (h : s.runner.stopped = true)
    (hi : s.triggers i = .called) (events : List Event) {e : Event} (he : e.isOf i) :
    ((s.run events).step e).runner = (s.run events).runner := by
  have hlate := run_called h hi events
  by_cases hlook : .look i ∈ events
  · rw [if_pos hlook] at hlate
    rw [step_answered hlate he]
  · rw [if_neg hlook] at hlate
    exact (step_called (run_stopped h events).1 hlate he).1

theorem begun_stopped {s : Callers} (h : s.runner.stopped = true) (events : List Event) :
    begun s events ≤ 1 ∧ (0 < begun s events → s.runner.lock = .launched) := by
  have hle := (run_stopped h events).2
  by_cases hl : s.runner.lock = .launched
  · have hone : s.runner.pending = 1 := if_pos hl
    exact ⟨by omega, fun _ => hl⟩
  · have hzero : s.runner.pending = 0 := if_neg hl
    exact ⟨by omega, fun hpos => by omega⟩

theorem begun_quiet {s : Callers} (h : s.runner.stopped = true) (hf : ¬ s.runner.InFlight)
    (events : List Event) : begun s events = 0 := by
  by_contra hne
  have hl := (begun_stopped h events).2 (by omega)
  exact hf (Or.inl hl)

/-- A stop is final, however the steps of triggers, runs and stops come. Once a stop has returned no
run is in flight and none begins, and the record of runs does not change. Once the flag is raised a
run begins only if it was launched by then, and a trigger that has not looked yet is turned away and
does nothing to the runner. The steps of a trigger in a row are a trigger as others see it. -/
theorem stop_is_final (before after : List Event) :
    let s := opened.run before
    let s' := s.run after
    (∀ j, s.stops j = .returned →
      ¬ s'.runner.InFlight ∧ begun s after = 0 ∧ s'.runner.state = s.runner.state ∧
        s'.runner.stats.runs = s.runner.stats.runs ∧
        s'.runner.stats.failures = s.runner.stats.failures) ∧
    (∀ j, s.stops j ≠ .called →
      s'.runner.stopped = true ∧ begun s after ≤ 1 ∧
        (0 < begun s after → s.runner.lock = .launched) ∧
        ∀ i, s.triggers i = .called →
          s'.triggers i = (if .look i ∈ after then .answered .stopped else .called) ∧
            ∀ e : Event, e.isOf i → (s'.step e).runner = s'.runner) ∧
    ∀ i, s.triggers i = .called → s.run [.look i, .claim i, .launch i] =
      s.move i (.answered s.runner.trigger.1) s.runner.trigger.2 := by
  intro s s'
  have hinv : Inv s := Inv.opened.run before
  refine ⟨fun j hj => ?_, fun j hj => ?_, fun i hi => s.run_trigger hi⟩
  · have hstopped := hinv.raised j (by rw [hj]; decide)
    have hflight := hinv.returned j hj
    have hnone := begun_quiet hstopped hflight after
    obtain ⟨hquiet, hstate, hfailures⟩ := run_quiet hstopped hflight after
    refine ⟨hquiet, hnone, hstate, ?_, hfailures⟩
    rw [run_runs, hnone, Nat.add_zero]
  · have hstopped := hinv.raised j hj
    obtain ⟨hone, hlaunched⟩ := begun_stopped hstopped after
    refine ⟨(run_stopped hstopped after).1, hone, hlaunched, fun i hi => ⟨?_, fun e he => ?_⟩⟩
    · exact run_called hstopped hi after
    · exact run_late hstopped hi after he

/-- A trigger looks at the flag, a stop comes and returns, and the trigger takes the lock after it.
-/
theorem stop_between_look_and_claim :
    (opened.run [.look 0, .raise 0, .acquire 0, .release 0]).stops 0 = .returned ∧
      begun (opened.run [.look 0, .raise 0, .acquire 0, .release 0])
        [.claim 0, .launch 0, .begin] = 0 := by
  have hreturned : (opened.run [.look 0, .raise 0, .acquire 0, .release 0]).stops 0 = .returned := by
    decide
  have h := (stop_is_final [.look 0, .raise 0, .acquire 0, .release 0]
    [.claim 0, .launch 0, .begin]).1 0 hreturned
  exact ⟨hreturned, h.2.1⟩

end Callers

end CloudDesk
