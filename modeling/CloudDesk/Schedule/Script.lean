import CloudDesk.Schedule.Basic

namespace CloudDesk

structure Script where
  gated : Bool
  outcomes : List Bool
  calls : Nat
  deriving DecidableEq

namespace Script

def outcome (s : Script) : Option Bool × Script :=
  (some (s.outcomes.headD true), { s with outcomes := s.outcomes.tail })

def job : Job Script where
  name := "scripted"
  begin s :=
    let s := { s with calls := s.calls + 1 }
    if s.gated then (none, s) else s.outcome
  resume := outcome

inductive Step
  | trigger
  | release
  | advance (time : Nat)
  | stop
  | look

structure Stage where
  schedule : Schedule
  script : Script
  stops : Nat
  deriving DecidableEq

namespace Stage

def ofPair (stops : Nat) (p : Schedule × Script) : Stage := ⟨p.1, p.2, stops⟩

def settle (s : Stage) : Stage := ofPair s.stops (s.schedule.settle job s.script)

def start (interval delay : Nat) (gated : Bool) (outcomes : List Bool) : Stage :=
  settle ⟨Schedule.start interval delay, ⟨gated, outcomes, 0⟩, 0⟩

def act (s : Stage) : Step → Option TriggerAnswer × Stage
  | .trigger =>
    let (answer, schedule) := s.schedule.trigger
    (some answer, { s with schedule })
  | .release => (none, ofPair s.stops (s.schedule.resume job s.script))
  | .advance time => (none, { s with schedule := s.schedule.advance time })
  | .stop => (none, { s with schedule := s.schedule.stop, stops := s.stops + 1 })
  | .look => (none, s)

structure View where
  answer : Option TriggerAnswer
  before : JobState
  after : Stage
  changed : Bool

def perform (s : Stage) (step : Step) : View :=
  let (answer, acted) := s.act step
  let after := acted.settle
  ⟨answer, acted.schedule.runner.state, after,
    after.schedule.runner.changes != s.schedule.runner.changes⟩

def performAll (s : Stage) : List Step → List View
  | [] => []
  | step :: rest =>
    let v := s.perform step
    v :: performAll v.after rest

def stopsFinished (s : Stage) : List Bool := List.replicate s.stops s.schedule.runner.isQuiet

end Stage

end Script

end CloudDesk
