import CloudDesk.Proofs.Schedule.Callers
import CloudDesk.Schedule.Basic

namespace CloudDesk

inductive RunStage
  | launched
  | running
  | ended (succeeded : Bool)
  deriving DecidableEq

def RunStage.isLive : RunStage → Bool
  | .launched | .running => true
  | .ended _ => false

/-- What has happened: a trigger came, found the flag and the runs like this, and got its answer; a
run began; a run ended. -/
inductive Happening
  | trigger (stopped : Bool) (runs : List RunStage) (answer : TriggerAnswer)
  | begin (i : Nat)
  | finish (i : Nat) (succeeded : Bool)

namespace Happening

def isStarted : Happening → Bool
  | .trigger _ _ answer => answer = .started
  | _ => false

def metRun : Happening → Bool
  | .trigger stopped runs _ => !stopped && runs.any RunStage.isLive
  | _ => false

def isBegin : Happening → Bool
  | .begin _ => true
  | _ => false

def result? : Happening → Option Bool
  | .finish _ succeeded => some succeeded
  | _ => none

end Happening

theorem Runner.trigger_cases (r : Runner) :
    (r.stopped = true ∧ r.trigger = (.stopped, r)) ∨
      (r.stopped = false ∧ r.lock = .free ∧ r.trigger = (.started, { r with lock := .launched })) ∨
      (r.stopped = false ∧ r.lock ≠ .free ∧
        r.trigger = (.skipped, { r with stats := { r.stats with skipped := r.stats.skipped + 1 } })) := by
  cases hs : r.stopped with
  | true => exact Or.inl ⟨rfl, by simp [Runner.trigger, hs]⟩
  | false =>
    by_cases hl : r.lock = .free
    · exact Or.inr (Or.inl ⟨rfl, hl, by simp [Runner.trigger, Runner.claim, Runner.launch, hs, hl]⟩)
    · exact Or.inr (Or.inr ⟨rfl, hl, by simp [Runner.trigger, Runner.claim, hs, hl]⟩)

/-- A runner, the runs that triggers have launched, how many stops wait for the lock, and the log.
-/
structure Lifecycle where
  runner : Runner
  runs : List RunStage
  waiting : Nat
  log : List Happening

namespace Lifecycle

inductive Event
  | trigger
  | tick
  | begin (i : Nat)
  | finish (i : Nat) (succeeded : Bool)
  | stop
  | acquire
  | release

def opened : Lifecycle := ⟨Runner.new, [], 0, []⟩

def ask (s : Lifecycle) : Lifecycle where
  runner := s.runner.trigger.2
  runs := if s.runner.trigger.1 = .started then s.runs ++ [.launched] else s.runs
  waiting := s.waiting
  log := s.log ++ [.trigger s.runner.stopped s.runs s.runner.trigger.1]

def step (s : Lifecycle) : Event → Lifecycle
  | .trigger | .tick => s.ask
  | .begin i =>
    if s.runs[i]? = some .launched then
      { s with runner := s.runner.begin, runs := s.runs.set i .running, log := s.log ++ [.begin i] }
    else s
  | .finish i succeeded =>
    if s.runs[i]? = some .running then
      { s with
        runner := s.runner.finish succeeded
        runs := s.runs.set i (.ended succeeded)
        log := s.log ++ [.finish i succeeded] }
    else s
  | .stop => { s with runner := s.runner.raise, waiting := s.waiting + 1 }
  | .acquire =>
    if 0 < s.waiting ∧ s.runner.lock = .free then
      { s with runner := s.runner.acquire, waiting := s.waiting - 1 }
    else s
  | .release => { s with runner := s.runner.release }

def run (s : Lifecycle) (events : List Event) : Lifecycle := events.foldl step s

def Live (s : Lifecycle) (i : Nat) : Prop := s.runs[i]? = some .launched ∨ s.runs[i]? = some .running

def Underway (s : Lifecycle) : Prop := ∃ i : Nat, s.runs[i]? = some RunStage.running

def results (log : List Happening) : List Bool := log.filterMap Happening.result?

def holder : RunLock → List RunStage
  | .launched => [.launched]
  | .running => [.running]
  | _ => []

@[simp] theorem results_trigger (log : List Happening) (stopped : Bool) (runs : List RunStage)
    (answer : TriggerAnswer) :
    results (log ++ [.trigger stopped runs answer]) = results log := by
  simp [results, Happening.result?]

@[simp] theorem results_begin (log : List Happening) (i : Nat) :
    results (log ++ [.begin i]) = results log := by
  simp [results, Happening.result?]

@[simp] theorem results_finish (log : List Happening) (i : Nat) (succeeded : Bool) :
    results (log ++ [.finish i succeeded]) = results log ++ [succeeded] := by
  simp [results, Happening.result?]

def restState : Option Bool → JobState
  | none => .registered
  | some true => .idle
  | some false => .failed

/-- All runs have ended but the one that holds the lock, which is the last. -/
structure Inv (s : Lifecycle) : Prop where
  runs : s.runs = (results s.log).map .ended ++ holder s.runner.lock
  state : s.runner.state =
    if s.runner.lock = .running then .running else restState (results s.log).getLast?
  started : s.log.countP Happening.isStarted = s.runs.length
  begun : s.log.countP Happening.isBegin = s.runner.stats.runs
  stats : s.runner.stats.runs = (results s.log).length + if s.runner.lock = .running then 1 else 0
  failures : s.runner.stats.failures = (results s.log).count false
  skipped : s.runner.stats.skipped = s.log.countP Happening.metRun
  unclaimed : s.runner.lock ≠ .claimed
  raised : 0 < s.waiting ∨ s.runner.lock = .stopping → s.runner.stopped = true

theorem stage_iff (rs : List Bool) (lock : RunLock) (i : Nat) {stage : RunStage}
    (hstage : ∀ b, stage ≠ .ended b) :
    (rs.map RunStage.ended ++ holder lock)[i]? = some stage ↔
      i = rs.length ∧ holder lock = [stage] := by
  rw [List.getElem?_append]
  split_ifs with hi
  · rw [List.length_map] at hi
    simp only [List.getElem?_map, List.getElem?_eq_getElem hi, Option.map_some, Option.some.injEq]
    exact iff_of_false (fun h => hstage _ h.symm) fun h => absurd h.1 (by omega)
  · rw [List.length_map] at hi ⊢
    have hle : i = rs.length ↔ i - rs.length = 0 := by omega
    rw [hle]
    cases lock <;> cases hk : i - rs.length <;> simp [holder]

theorem holder_launched (lock : RunLock) : holder lock = [.launched] ↔ lock = .launched := by
  cases lock <;> simp [holder]

theorem holder_running (lock : RunLock) : holder lock = [.running] ↔ lock = .running := by
  cases lock <;> simp [holder]

namespace Inv

variable {s : Lifecycle}

theorem launched_iff (h : Inv s) (i : Nat) :
    s.runs[i]? = some .launched ↔ i = (results s.log).length ∧ s.runner.lock = .launched := by
  rw [h.runs, stage_iff _ _ _ (by simp), holder_launched]

theorem running_iff (h : Inv s) (i : Nat) :
    s.runs[i]? = some .running ↔ i = (results s.log).length ∧ s.runner.lock = .running := by
  rw [h.runs, stage_iff _ _ _ (by simp), holder_running]

theorem live_iff (h : Inv s) (i : Nat) : s.Live i ↔ i = (results s.log).length ∧ s.runner.InFlight := by
  rw [Live, h.launched_iff, h.running_iff, ← and_or_left]
  rfl

theorem any_live (h : Inv s) : s.runs.any RunStage.isLive = true ↔ s.runner.InFlight := by
  have hended : ((results s.log).map RunStage.ended).any RunStage.isLive = false := by
    simp [RunStage.isLive]
  rw [h.runs, List.any_append, hended, Bool.false_or, Runner.InFlight]
  cases s.runner.lock <;> simp [holder, RunStage.isLive]

theorem opened : Inv Lifecycle.opened where
  runs := rfl
  state := rfl
  started := rfl
  begun := rfl
  stats := rfl
  failures := rfl
  skipped := rfl
  unclaimed := by decide
  raised := by decide

theorem busy_iff (h : Inv s) (hs : s.runner.stopped = false) :
    s.runner.lock ≠ .free ↔ s.runner.InFlight := by
  have hstopping : s.runner.lock ≠ .stopping := fun hl => by
    have hraised := h.raised (Or.inr hl)
    rw [hs] at hraised
    cases hraised
  have hclaimed := h.unclaimed
  unfold Runner.InFlight
  cases hl : s.runner.lock <;> simp_all

/-- A trigger of a runner that is not stopped launches a run if none is live, and else only counts.
-/
theorem ask_cases (h : Inv s) :
    (s.runner.stopped = true ∧
        s.ask = { s with log := s.log ++ [.trigger true s.runs .stopped] }) ∨
      (s.runner.stopped = false ∧ s.runner.lock = .free ∧
        s.ask = { s with
          runner.lock := .launched
          runs := s.runs ++ [.launched]
          log := s.log ++ [.trigger false s.runs .started] }) ∨
      (s.runner.stopped = false ∧ s.runner.InFlight ∧
        s.ask = { s with
          runner.stats.skipped := s.runner.stats.skipped + 1
          log := s.log ++ [.trigger false s.runs .skipped] }) := by
  obtain ⟨hs, ht⟩ | ⟨hs, hl, ht⟩ | ⟨hs, hl, ht⟩ := s.runner.trigger_cases
  · exact Or.inl ⟨hs, by simp [ask, ht, hs]⟩
  · exact Or.inr (Or.inl ⟨hs, hl, by simp [ask, ht, hs]⟩)
  · exact Or.inr (Or.inr ⟨hs, (h.busy_iff hs).mp hl, by simp [ask, ht, hs]⟩)

theorem note (h : Inv s) (stopped : Bool) (runs : List RunStage) {answer : TriggerAnswer}
    (hanswer : answer ≠ .started) :
    Inv { s with
      runner.stats.skipped := s.runner.stats.skipped +
        if (Happening.trigger stopped runs answer).metRun then 1 else 0
      log := s.log ++ [.trigger stopped runs answer] } where
  runs := by simpa using h.runs
  state := by simpa using h.state
  stats := by simpa using h.stats
  failures := by simpa using h.failures
  started := by simp [Happening.isStarted, h.started, hanswer]
  begun := by simp [Happening.isBegin, h.begun]
  skipped := by simp [List.countP_singleton, h.skipped]
  unclaimed := h.unclaimed
  raised := h.raised

theorem launch (h : Inv s) (hl : s.runner.lock = .free) :
    Inv { s with
      runner.lock := .launched
      runs := s.runs ++ [.launched]
      log := s.log ++ [.trigger false s.runs .started] } := by
  have hruns := h.runs
  have hstate := h.state
  have hstats := h.stats
  rw [hl] at hruns hstate hstats
  have hidle : s.runs.any RunStage.isLive = false := by
    rw [Bool.eq_false_iff, Ne, h.any_live, Runner.InFlight, hl]
    decide
  exact {
    runs := by simpa [holder] using hruns
    state := by simpa using hstate
    stats := by simpa using hstats
    failures := by simpa using h.failures
    started := by simp [Happening.isStarted, h.started]
    begun := by simp [Happening.isBegin, h.begun]
    skipped := by simp [Happening.metRun, h.skipped, hidle]
    unclaimed := by simp
    raised := fun hw => h.raised (hw.imp_right fun hl => by cases hl) }

theorem ask (h : Inv s) : Inv s.ask := by
  obtain ⟨-, ha⟩ | ⟨-, hl, ha⟩ | ⟨-, hf, ha⟩ := h.ask_cases
  · rw [ha]
    exact h.note true s.runs (by decide)
  · rw [ha]
    exact h.launch hl
  · have hskipped : TriggerAnswer.skipped ≠ .started := by decide
    have hnote := h.note false s.runs hskipped
    rw [Happening.metRun, h.any_live.mpr hf] at hnote
    rw [ha]
    exact hnote

theorem begin (h : Inv s) (i : Nat) : Inv (s.step (.begin i)) := by
  simp only [Lifecycle.step]
  split_ifs with hi
  · obtain ⟨rfl, hl⟩ := (h.launched_iff i).mp hi
    have hruns := h.runs
    have hstats := h.stats
    rw [hl] at hruns hstats
    have hbegin : s.runner.begin = { s.runner with
        state := .running, stats.runs := s.runner.stats.runs + 1, lock := .running } := by
      rw [Runner.begin, if_pos hl]
    rw [hbegin]
    exact {
      runs := by simp [hruns, holder]
      state := by simp
      stats := by simpa using hstats
      failures := by simpa using h.failures
      started := by simp [Happening.isStarted, h.started]
      begun := by simp [Happening.isBegin, h.begun]
      skipped := by simp [Happening.metRun, h.skipped]
      unclaimed := by simp
      raised := fun hw => h.raised (hw.imp_right fun hl => by cases hl) }
  · exact h

theorem finish (h : Inv s) (i : Nat) (succeeded : Bool) : Inv (s.step (.finish i succeeded)) := by
  simp only [Lifecycle.step]
  split_ifs with hi
  · obtain ⟨rfl, hl⟩ := (h.running_iff i).mp hi
    have hruns := h.runs
    have hstats := h.stats
    rw [hl] at hruns hstats
    have hfinish : s.runner.finish succeeded = { s.runner with
        state := if succeeded then .idle else .failed
        stats.failures := s.runner.stats.failures + if succeeded then 0 else 1
        lock := .free } := by
      cases succeeded <;> simp [Runner.finish, hl]
    rw [hfinish]
    exact {
      runs := by simp [hruns, holder]
      state := by cases succeeded <;> simp [restState]
      stats := by simpa using hstats
      failures := by cases succeeded <;> simp [h.failures]
      started := by simp [Happening.isStarted, h.started]
      begun := by simp [Happening.isBegin, h.begun]
      skipped := by simp [Happening.metRun, h.skipped]
      unclaimed := by simp
      raised := fun hw => h.raised (hw.imp_right fun hl => by cases hl) }
  · exact h

theorem relock (h : Inv s) {lock : RunLock} (hbefore : s.runner.lock = .free ∨ s.runner.lock = .stopping)
    (hafter : lock = .free ∨ lock = .stopping) (hraised : s.runner.stopped = true) (waiting : Nat) :
    Inv { s with runner.lock := lock, waiting } := by
  have hholder : holder s.runner.lock = holder lock := by
    obtain hb | hb := hbefore <;> obtain rfl | rfl := hafter <;> rw [hb] <;> rfl
  have hrunning : s.runner.lock = .running ↔ lock = .running := by
    obtain hb | hb := hbefore <;> obtain rfl | rfl := hafter <;> simp [hb]
  exact { h with
    runs := h.runs.trans (by rw [hholder])
    state := by simpa only [← hrunning] using h.state
    stats := by simpa only [← hrunning] using h.stats
    unclaimed := by obtain rfl | rfl := hafter <;> simp
    raised := fun _ => hraised }

theorem acquire (h : Inv s) : Inv (s.step .acquire) := by
  simp only [Lifecycle.step]
  split_ifs with hw
  · rw [Runner.acquire, if_pos hw.2]
    exact h.relock (Or.inl hw.2) (Or.inr rfl) (h.raised (Or.inl hw.1)) _
  · exact h

theorem release (h : Inv s) : Inv (s.step .release) := by
  simp only [Lifecycle.step, Runner.release]
  split_ifs with hl
  · exact h.relock (Or.inr hl) (Or.inl rfl) (h.raised (Or.inr hl)) _
  · exact h

theorem step (h : Inv s) (e : Event) : Inv (s.step e) := by
  cases e with
  | trigger => exact h.ask
  | tick => exact h.ask
  | begin i => exact h.begin i
  | finish i succeeded => exact h.finish i succeeded
  | stop => exact { h with raised := fun _ => rfl }
  | acquire => exact h.acquire
  | release => exact h.release

theorem run (h : Inv s) (events : List Event) : Inv (s.run events) := by
  induction events generalizing s with
  | nil => exact h
  | cons e rest ih => exact ih (h.step e)

end Inv

section

variable {s : Lifecycle}

theorem step_state (h : Inv s) (e : Event) :
    (s.step e).runner.state = s.runner.state ∨ (s.step e).runner.state = .running ∨
      s.runner.state = .running ∧ (s.step e).runner.state ≠ .registered := by
  have hask : s.ask.runner.state = s.runner.state := by
    obtain ⟨-, ha⟩ | ⟨-, -, ha⟩ | ⟨-, -, ha⟩ := h.ask_cases <;> rw [ha]
  cases e with
  | trigger => exact Or.inl hask
  | tick => exact Or.inl hask
  | begin i =>
    simp only [step]
    split_ifs with hi
    · obtain ⟨-, hl⟩ := (h.launched_iff i).mp hi
      exact Or.inr (Or.inl (by simp [Runner.begin, hl]))
    · exact Or.inl rfl
  | finish i succeeded =>
    simp only [step]
    split_ifs with hi
    · obtain ⟨-, hl⟩ := (h.running_iff i).mp hi
      refine Or.inr (Or.inr ⟨by rw [h.state, if_pos hl], ?_⟩)
      cases succeeded <;> simp [Runner.finish, hl]
    · exact Or.inl rfl
  | stop => exact Or.inl rfl
  | acquire =>
    simp only [step, Runner.acquire]
    split_ifs <;> exact Or.inl rfl
  | release =>
    simp only [step, Runner.release]
    split_ifs <;> exact Or.inl rfl

theorem restState_inj (r r' : Option Bool) : restState r = restState r' ↔ r = r' := by
  obtain _ | _ | _ := r <;> obtain _ | _ | _ := r' <;> simp [restState]

theorem restState_running (r : Option Bool) : restState r ≠ .running := by
  obtain _ | _ | _ := r <;> simp [restState]

theorem Inv.launched_mem (h : Inv s) : .launched ∈ s.runs ↔ s.runner.lock = .launched := by
  rw [List.mem_iff_getElem?]
  simp only [h.launched_iff, exists_eq_left]

theorem Inv.underway_iff (h : Inv s) : s.Underway ↔ s.runner.lock = .running := by
  simp only [Underway, h.running_iff, exists_eq_left]

theorem Inv.live_exists (h : Inv s) : (∃ i, s.Live i) ↔ s.runner.InFlight := by
  simp only [h.live_iff, exists_eq_left]

end

inductive Act (σ : Type)
  | trigger
  | advance (time : Nat)
  | stop
  | settle
  | resume
  | change (f : σ → σ)

def act {σ : Type} (job : Job σ) (p : Schedule × σ) : Act σ → Schedule × σ
  | .trigger => (p.1.trigger.2, p.2)
  | .advance time => (p.1.advance time, p.2)
  | .stop => (p.1.stop, p.2)
  | .settle => p.1.settle job p.2
  | .resume => p.1.resume job p.2
  | .change f => (p.1, f p.2)

def tickEvents (p : Schedule) : List Event :=
  if p.runner.stopped then [] else List.replicate (p.ticker.ticks p.now) .tick

def ending (i : Nat) (result : Option Bool) : List Event := (result.map (.finish i)).toList

/-- What an act does to the runs. They are numbered as they begin, so that the number of a launched
run is how many have begun before it. -/
def eventsOf {σ : Type} (job : Job σ) (p : Schedule × σ) : Act σ → List Event
  | .trigger => [.trigger]
  | .advance time => tickEvents { p.1 with now := p.1.now + time }
  | .stop => [.stop]
  | .settle =>
    if p.1.runner.lock = .launched then
      .begin p.1.runner.stats.runs :: ending p.1.runner.stats.runs (job.begin p.2).1
    else []
  | .resume =>
    if p.1.runner.lock = .running then
      ending (p.1.runner.stats.runs - 1) (job.resume p.2).1
    else []
  | .change _ => []

def eventsDuring {σ : Type} (job : Job σ) : Schedule × σ → List (Act σ) → List Event
  | _, [] => []
  | p, a :: rest => eventsOf job p a ++ eventsDuring job (act job p a) rest

def eventsSince {σ : Type} (job : Job σ) (interval delay : Nat) (work : σ) (acts : List (Act σ)) :
    List Event :=
  tickEvents ⟨Runner.new, Ticker.start interval delay, 0⟩ ++
    eventsDuring job (Schedule.start interval delay, work) acts

section

variable {σ : Type} {s : Lifecycle}

theorem run_append (s : Lifecycle) (events events' : List Event) :
    s.run (events ++ events') = (s.run events).run events' := List.foldl_append

theorem run_ticks (s : Lifecycle) (n : Nat) :
    (s.run (List.replicate n .tick)).runner = s.runner.triggers n := by
  induction n generalizing s with
  | zero => rfl
  | succ n ih => exact ih s.ask

theorem tick_runner (s : Lifecycle) {p : Schedule} (hp : p.runner = s.runner) :
    (s.run (tickEvents p)).runner = p.tick.runner := by
  unfold tickEvents Schedule.tick
  split_ifs with hs
  · exact hp.symm
  · rw [run_ticks, ← hp]

theorem ending_runner {i : Nat} (hi : s.runs[i]? = some .running) {p : Schedule}
    (hp : p.runner = s.runner) (r : Option Bool × σ) :
    (s.run (ending i r.1)).runner = (p.conclude r).1.runner := by
  obtain ⟨_ | succeeded, work⟩ := r
  · exact hp.symm
  · simp [ending, run, step, hi, Schedule.conclude, hp]

theorem act_runner (h : Inv s) {p : Schedule × σ} (hp : p.1.runner = s.runner) (job : Job σ)
    (a : Act σ) : (s.run (eventsOf job p a)).runner = (act job p a).1.runner := by
  cases a with
  | trigger => simp [run, step, ask, eventsOf, act, Schedule.trigger, hp]
  | advance time => exact s.tick_runner hp
  | stop => simp [run, step, eventsOf, act, Schedule.stop, hp]
  | settle =>
    simp only [eventsOf, act, Schedule.settle, hp]
    split_ifs with hl
    · -- no run is under way, so that all that have begun have ended
      have hnumber : s.runner.stats.runs = (results s.log).length := by simp [h.stats, hl]
      have hi := (h.launched_iff s.runner.stats.runs).mpr ⟨hnumber, hl⟩
      obtain ⟨hlt, -⟩ := List.getElem?_eq_some_iff.mp hi
      have hbegin : (s.step (.begin s.runner.stats.runs)).runner = s.runner.begin := by
        simp only [step, if_pos hi]
      have hrunning : (s.step (.begin s.runner.stats.runs)).runs[s.runner.stats.runs]? =
          some .running := by
        simp only [step, if_pos hi]
        exact List.getElem?_set_self hlt
      exact ending_runner hrunning hbegin.symm (job.begin p.2)
    · exact hp.symm
  | resume =>
    simp only [eventsOf, act, Schedule.resume, hp]
    split_ifs with hl
    · have hnumber : s.runner.stats.runs - 1 = (results s.log).length := by simp [h.stats, hl]
      exact ending_runner ((h.running_iff _).mpr ⟨hnumber, hl⟩) hp (job.resume p.2)
    · exact hp.symm
  | change f => exact hp.symm

theorem acts_runner (h : Inv s) {p : Schedule × σ} (hp : p.1.runner = s.runner) (job : Job σ)
    (acts : List (Act σ)) :
    (s.run (eventsDuring job p acts)).runner = (acts.foldl (act job) p).1.runner := by
  induction acts generalizing s p with
  | nil => exact hp.symm
  | cons a rest ih =>
    rw [eventsDuring, run_append]
    exact ih (h.run _) (act_runner h hp job a).symm

theorem schedule_runner (job : Job σ) (interval delay : Nat) (work : σ) (acts : List (Act σ)) :
    (opened.run (eventsSince job interval delay work acts)).runner =
      (acts.foldl (act job) (Schedule.start interval delay, work)).1.runner := by
  have hstart := opened.tick_runner (p := ⟨Runner.new, Ticker.start interval delay, 0⟩) rfl
  rw [eventsSince, run_append]
  exact acts_runner (Inv.opened.run _) hstart.symm job acts

end

/-- What the lock, the state and the counters of a runner say about its runs and about what has
happened. -/
structure Accounts (s : Lifecycle) : Prop where
  one : ∀ i j, s.Live i → s.Live j → i = j
  lock : (∃ i, s.Live i) ↔ s.runner.InFlight
  registered : s.runner.state = .registered ↔ s.log.countP Happening.isBegin = 0
  running : s.runner.state = .running ↔ s.Underway
  idle : s.runner.state = .idle ↔ ¬ s.Underway ∧ (results s.log).getLast? = some true
  failed : s.runner.state = .failed ↔ ¬ s.Underway ∧ (results s.log).getLast? = some false
  runs : s.runner.stats.runs = s.log.countP Happening.isBegin
  started : s.log.countP Happening.isStarted =
    s.runner.stats.runs + if .launched ∈ s.runs then 1 else 0
  failures : s.runner.stats.failures = (results s.log).count false
  skipped : s.runner.stats.skipped = s.log.countP Happening.metRun

theorem Inv.accounts {s : Lifecycle} (h : Inv s) : Accounts s where
  one i j hi hj := by rw [((h.live_iff i).mp hi).1, ((h.live_iff j).mp hj).1]
  lock := h.live_exists
  registered := by
    rw [h.begun, h.stats, h.state]
    split_ifs with hl
    · simp
    · exact (restState_inj _ none).trans (by simp)
  running := by
    rw [h.underway_iff, h.state]
    split_ifs with hl
    · simp [hl]
    · simp [hl, restState_running]
  idle := by
    rw [h.underway_iff, h.state]
    split_ifs with hl
    · simp [hl]
    · exact (restState_inj _ (some true)).trans (by simp [hl])
  failed := by
    rw [h.underway_iff, h.state]
    split_ifs with hl
    · simp [hl]
    · exact (restState_inj _ (some false)).trans (by simp [hl])
  runs := h.begun.symm
  started := by
    have hruns := congrArg List.length h.runs
    simp only [h.launched_mem, h.started, h.stats, hruns, List.length_append, List.length_map]
    cases s.runner.lock <;> simp [holder]
  failures := h.failures
  skipped := h.skipped

/-- In every order of triggers, ticks, begins and ends of runs, and stops, at most one run has not
ended, and a job holds the lock exactly then. The state tells whether no run has begun, one is under
way, or how the last one ended; it never goes back to the first, and comes to rest only from a run.
The counters count the runs that have begun, those that failed, and the triggers that found a run
and no stop. Such a trigger does nothing else. A schedule with its ticker is at what the events of
its acts lead to. -/
theorem lifecycle_accounts (events : List Event) :
    let s := opened.run events
    Accounts s ∧
      (∀ e, (s.step e).runner.state = .registered → s.runner.state = .registered) ∧
      (∀ e, (s.step e).runner.state ≠ s.runner.state → (s.step e).runner.state ≠ .running →
        s.runner.state = .running) ∧
      ((∃ i, s.Live i) → s.runner.stopped = false → ∀ e, e = .trigger ∨ e = .tick →
        s.step e = { s with
          runner.stats.skipped := s.runner.stats.skipped + 1
          log := s.log ++ [.trigger false s.runs .skipped] }) ∧
      ∀ {σ : Type} (job : Job σ) (interval delay : Nat) (work : σ) (acts : List (Act σ)),
        (opened.run (eventsSince job interval delay work acts)).runner =
          (acts.foldl (act job) (Schedule.start interval delay, work)).1.runner := by
  intro s
  have h : Inv s := Inv.opened.run events
  refine ⟨h.accounts, fun e he => ?_, fun e hchanged hnot => ?_, fun hlive hs e he => ?_,
    fun job interval delay work acts => schedule_runner job interval delay work acts⟩
  · obtain hsame | hrunning | ⟨-, hne⟩ := step_state h e
    · rw [← hsame, he]
    · rw [he] at hrunning
      cases hrunning
    · exact absurd he hne
  · obtain hsame | hrunning | ⟨hrunning, -⟩ := step_state h e
    · exact absurd hsame hchanged
    · exact absurd hrunning hnot
    · exact hrunning
  · have hask : s.step e = s.ask := by obtain rfl | rfl := he <;> rfl
    rw [hask]
    obtain ⟨hstopped, -⟩ | ⟨-, hfree, -⟩ | ⟨-, -, ha⟩ := h.ask_cases
    · rw [hs] at hstopped
      cases hstopped
    · obtain hl | hl := h.live_exists.mp hlive <;> cases hfree.symm.trans hl
    · exact ha

/-- The first run has failed, and a tick comes while the second one is under way. -/
theorem tick_meets_second_run :
    let s := opened.run [.tick, .begin 0, .finish 0 false, .trigger, .begin 1]
    s.Live 1 ∧ s.runner.stopped = false ∧ s.runner.stats = ⟨2, 1, 0⟩ ∧
      (s.step .tick).runner.stats = ⟨2, 1, 1⟩ := by
  intro s
  have hlive : s.Live 1 := Or.inr rfl
  have hstep := (lifecycle_accounts [.tick, .begin 0, .finish 0 false, .trigger, .begin 1]).2.2.2.1
    ⟨1, hlive⟩ rfl .tick (Or.inr rfl)
  exact ⟨hlive, rfl, rfl, congrArg (fun s : Lifecycle => s.runner.stats) hstep⟩

end Lifecycle

end CloudDesk
