import CloudDesk.Desk.Basic

namespace CloudDesk.Desk

open Http

def Outcome.reply (o : Outcome) : Reply :=
  match o.answer with
  | .ok answer => answer.reply
  | .error failure => failure.reply

/-- HEAD is answered as GET is, without the body. -/
def withoutBody (r : Request) (reply : Reply) : Reply :=
  if r.method = "HEAD" then { reply with body := .text "" } else reply

def handle (stamp : Stamp) (d : Desk) (r : Request) : Reply × Desk × List AuditEvent :=
  match Call.ofRequest r with
  | .error rejection => (withoutBody r ⟨rejection.status, .nothing⟩, d, [])
  | .ok call =>
    let outcome := d.perform stamp call
    (withoutBody r outcome.reply, outcome.desk, outcome.events)

def settle (source : CostSource) (now : Instant) (d : Desk) : Desk :=
  match d.schedule with
  | none => d
  | some schedule =>
    let (schedule, work) :=
      schedule.settle (Sync.job d.settings.currency now) ⟨d.books, source, false, none, []⟩
    { d with books := work.books, schedule := some schedule }

def elapse (source : CostSource) (now : Instant) (time : Nat) (d : Desk) : Desk :=
  settle source now { d with schedule := d.schedule.map fun s => s.advance time }

def serve (source : CostSource) (stamp : Stamp) (time : Nat) (d : Desk) (r : Request) :
    Reply × Desk × List AuditEvent :=
  let (reply, d, events) := (d.elapse source stamp.now time).handle stamp r
  (reply, d.settle source stamp.now, events)

end CloudDesk.Desk
