namespace CloudDesk

inductive JobState
  | registered
  | running
  | idle
  | failed
  deriving DecidableEq

def JobState.name : JobState → String
  | .registered => "registered"
  | .running => "running"
  | .idle => "idle"
  | .failed => "failed"

structure RunStats where
  runs : Nat
  failures : Nat
  skipped : Nat
  deriving DecidableEq

inductive TriggerAnswer
  | started
  | skipped
  | stopped
  deriving DecidableEq

def TriggerAnswer.name : TriggerAnswer → String
  | .started => "started"
  | .skipped => "skipped"
  | .stopped => "stopped"

/-- Who holds the run lock: nobody, a trigger before its second look at the flag, a launched run
that has not begun, a run, or a stop. -/
inductive RunLock
  | free
  | claimed
  | launched
  | running
  | stopping
  deriving DecidableEq

structure Runner where
  state : JobState
  stats : RunStats
  stopped : Bool
  lock : RunLock
  deriving DecidableEq

namespace Runner

def new : Runner := ⟨.registered, ⟨0, 0, 0⟩, false, .free⟩

def claim (r : Runner) : Bool × Runner :=
  if r.lock = .free then (true, { r with lock := .claimed })
  else (false, { r with stats := { r.stats with skipped := r.stats.skipped + 1 } })

/-- The second look at the flag, by the trigger that holds the lock. -/
def launch (r : Runner) : TriggerAnswer × Runner :=
  if r.stopped then (.stopped, { r with lock := .free }) else (.started, { r with lock := .launched })

def trigger (r : Runner) : TriggerAnswer × Runner :=
  if r.stopped then (.stopped, r)
  else
    match r.claim with
    | (true, r) => r.launch
    | (false, r) => (.skipped, r)

def triggers (r : Runner) : Nat → Runner
  | 0 => r
  | n + 1 => r.trigger.2.triggers n

def begin (r : Runner) : Runner :=
  if r.lock = .launched then
    { r with state := .running, stats := { r.stats with runs := r.stats.runs + 1 }, lock := .running }
  else r

def finish (r : Runner) (succeeded : Bool) : Runner :=
  if r.lock = .running then
    if succeeded then { r with state := .idle, lock := .free }
    else
      { r with state := .failed, stats := { r.stats with failures := r.stats.failures + 1 },
               lock := .free }
  else r

def raise (r : Runner) : Runner := { r with stopped := true }

def acquire (r : Runner) : Runner := if r.lock = .free then { r with lock := .stopping } else r

def release (r : Runner) : Runner := if r.lock = .stopping then { r with lock := .free } else r

/-- No run is launched or in flight, so that a stop can return. -/
def isQuiet (r : Runner) : Bool := r.lock == .free

/-- How often the state was set: at the begin and at the end of every run. -/
def changes (r : Runner) : Nat := 2 * r.stats.runs - (if r.state = .running then 1 else 0)

end Runner

end CloudDesk
