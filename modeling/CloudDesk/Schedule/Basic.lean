import CloudDesk.Schedule.Runner

namespace CloudDesk

structure Ticker where
  interval : Nat
  next : Nat
  deriving DecidableEq

namespace Ticker

/-- How late a tick may be without the ones after it being missed. -/
def grace : Nat := 5

def start (interval delay : Nat) : Ticker := ⟨interval, delay⟩

def isDue (t : Ticker) (now : Nat) : Bool := t.interval != 0 && t.next ≤ now

def due (t : Ticker) (now : Nat) : Nat :=
  if t.isDue now then (now - t.next) / t.interval + 1 else 0

/-- All ticks that have come due happen if the first of them is hardly late, else that one alone. -/
def ticks (t : Ticker) (now : Nat) : Nat :=
  if grace < now - t.next then min 1 (t.due now) else t.due now

/-- The ticker after its ticks: the first time of its rhythm that is still to come is next. -/
def after (t : Ticker) (now : Nat) : Ticker := { t with next := t.next + t.due now * t.interval }

end Ticker

structure Schedule where
  runner : Runner
  ticker : Ticker
  now : Nat
  deriving DecidableEq

/-- The work of a job on a state: what it does when a run begins and when a waiting run goes on. A
run that has ended tells whether it succeeded, one that waits tells nothing. -/
structure Job (σ : Type) where
  name : String
  begin : σ → Option Bool × σ
  resume : σ → Option Bool × σ

namespace Schedule

variable {σ : Type}

/-- Lets every tick trigger the runner. A stopped schedule does not tick. -/
def tick (s : Schedule) : Schedule :=
  if s.runner.stopped then s
  else
    { s with runner := s.runner.triggers (s.ticker.ticks s.now), ticker := s.ticker.after s.now }

def start (interval delay : Nat) : Schedule := tick ⟨Runner.new, Ticker.start interval delay, 0⟩

def advance (s : Schedule) (time : Nat) : Schedule := tick { s with now := s.now + time }

def trigger (s : Schedule) : TriggerAnswer × Schedule :=
  let (answer, runner) := s.runner.trigger
  (answer, { s with runner })

def stop (s : Schedule) : Schedule := { s with runner := s.runner.raise }

def conclude (s : Schedule) : Option Bool × σ → Schedule × σ
  | (none, work) => (s, work)
  | (some succeeded, work) => ({ s with runner := s.runner.finish succeeded }, work)

def settle (job : Job σ) (s : Schedule) (work : σ) : Schedule × σ :=
  if s.runner.lock = .launched then
    conclude { s with runner := s.runner.begin } (job.begin work)
  else (s, work)

def resume (job : Job σ) (s : Schedule) (work : σ) : Schedule × σ :=
  if s.runner.lock = .running then conclude s (job.resume work) else (s, work)

end Schedule

end CloudDesk
