import CloudDesk.Proofs.Billing.Sync
import CloudDesk.Proofs.Desk.Calls

namespace CloudDesk

theorem Desk.handle_desk (stamp : Stamp) (d : Desk) (r : Http.Request) :
    (d.handle stamp r).2.1 =
      match Call.ofRequest r with
      | .error _ => d
      | .ok call => (d.perform stamp call).desk := by
  unfold handle
  cases Call.ofRequest r <;> rfl

/-- The desk, and how far a sync has come that is under way. A request is one step of the service,
since it writes to the policies at most once. -/
structure Service where
  desk : Desk
  underway : Option Sync.Progress

namespace Service

inductive Event
  | request (stamp : Stamp) (request : Http.Request)
  | elapse (time : Nat)
  | stop
  | list
  | reply (reply : Sync.Reply)
  | commit (now : Instant)

def onRunner (f : Runner → Runner) (d : Desk) : Desk :=
  { d with schedule := d.schedule.map fun s => { s with runner := f s.runner } }

def lock (d : Desk) : Option RunLock := d.schedule.map fun s => s.runner.lock

def conclude (succeeded : Bool) (d : Desk) : Service := ⟨onRunner (·.finish succeeded) d, none⟩

def list (s : Service) : Service :=
  if lock s.desk = some .launched then
    match Sync.start s.desk.books.store with
    | .error _ => conclude false (onRunner Runner.begin s.desk)
    | .ok p => ⟨onRunner Runner.begin s.desk, some p⟩
  else s

def reply (s : Service) (r : Sync.Reply) : Service :=
  match s.underway with
  | none => s
  | some p =>
    match Sync.answer p r with
    | .error _ => conclude false s.desk
    | .ok p => ⟨s.desk, some p⟩

def committed (s : Service) (now : Instant) :
    Option (Except SyncError SyncSummary × Sync.Books Store) :=
  match s.underway with
  | some ⟨[], fetched⟩ => some (Sync.commit s.desk.settings.currency now fetched s.desk.books)
  | _ => none

def commit (s : Service) (now : Instant) : Service :=
  match s.committed now with
  | none => s
  | some (result, books) => conclude result.isOk { s.desk with books }

def step (s : Service) : Event → Service
  | .request stamp request => { s with desk := (s.desk.handle stamp request).2.1 }
  | .elapse time =>
    { s with desk := { s.desk with schedule := s.desk.schedule.map (·.advance time) } }
  | .stop => { s with desk := onRunner Runner.raise s.desk }
  | .list => s.list
  | .reply r => s.reply r
  | .commit now => s.commit now

def run (s : Service) (events : List Event) : Service := events.foldl step s

def opened (bundle : Bundle) (seed : List Policy) (keys : KeyRing) (currency : String)
    (defaultCeiling : Option Float) (timing : Option (Nat × Nat)) : Service where
  desk :=
    { bundle, books := ⟨.memory (Policies.ofPolicies seed), Snapshot.empty currency none⟩, keys,
      defaultCeiling, schedule := timing.map fun (interval, delay) => Schedule.start interval delay }
  underway := none

def syncs (s : Service) : Event → Bool
  | .commit now => (s.committed now).any fun r => r.1.isOk
  | _ => false

def hasSynced : Service → List Event → Bool
  | _, [] => false
  | s, e :: rest => s.syncs e || hasSynced (s.step e) rest

def ceilingSet (s : Service) (owner : String) : Event → Option Float
  | .request stamp request =>
    match Call.ofRequest request with
    | .ok call => s.desk.ceilingSet stamp owner call
    | .error _ => none
  | _ => none

def lastCeiling (owner : String) : Service → List Event → Option Float
  | _, [] => none
  | s, e :: rest => (lastCeiling owner (s.step e) rest).or (s.ceilingSet owner e)

def InStep (s : Service) : Prop := lock s.desk = some .running ↔ s.underway.isSome = true

theorem trigger_running (r : Runner) : r.trigger.2.lock = .running ↔ r.lock = .running := by
  unfold Runner.trigger Runner.claim Runner.launch
  cases r.stopped <;> cases hl : r.lock <;> simp [hl]

theorem triggers_running (n : Nat) (r : Runner) :
    (r.triggers n).lock = .running ↔ r.lock = .running := by
  induction n generalizing r with
  | zero => exact Iff.rfl
  | succ n ih => exact (ih r.trigger.2).trans (trigger_running r)

theorem tick_running (s : Schedule) : s.tick.runner.lock = .running ↔ s.runner.lock = .running := by
  unfold Schedule.tick
  split_ifs with hs
  · exact Iff.rfl
  · exact triggers_running _ _

theorem lock_map {d : Desk} {f : Schedule → Schedule}
    (h : ∀ s, (f s).runner.lock = .running ↔ s.runner.lock = .running) :
    lock { d with schedule := d.schedule.map f } = some .running ↔ lock d = some .running := by
  unfold lock
  cases d.schedule with
  | none => exact Iff.rfl
  | some s => simpa using h s

theorem handle_running (stamp : Stamp) (d : Desk) (r : Http.Request) :
    lock (d.handle stamp r).2.1 = some .running ↔ lock d = some .running := by
  rw [Desk.handle_desk]
  cases Call.ofRequest r with
  | error e => exact Iff.rfl
  | ok call =>
    by_cases hc : call = .sync
    · subst hc
      simp only [Desk.perform, Desk.triggerSync_desk]
      exact lock_map fun s => trigger_running s.runner
    · have hs := (Desk.perform_sameBut stamp d hc).2.2
      simp only [lock, hs]

theorem conclude_inStep {d : Desk} (h : lock d = some .running) (succeeded : Bool) :
    InStep (conclude succeeded d) := by
  unfold InStep conclude lock onRunner at *
  cases hd : d.schedule with
  | none => simp
  | some s =>
    have hl : s.runner.lock = .running := by simpa [hd] using h
    cases succeeded <;> simp [Runner.finish, hl]

theorem begin_running {d : Desk} (h : lock d = some .launched) :
    lock (onRunner Runner.begin d) = some .running := by
  unfold lock onRunner at *
  cases hd : d.schedule with
  | none => simp [hd] at h
  | some s =>
    have hl : s.runner.lock = .launched := by simpa [hd] using h
    simp [Runner.begin, hl]

theorem step_inStep {s : Service} (h : InStep s) (e : Event) : InStep (s.step e) := by
  cases e with
  | request stamp r => exact (handle_running stamp s.desk r).trans h
  | elapse time => exact (lock_map fun s => tick_running { s with now := s.now + time }).trans h
  | stop =>
    have hraise := lock_map (d := s.desk) (f := fun s => { s with runner := s.runner.raise })
      fun _ => Iff.rfl
    exact hraise.trans h
  | list =>
    simp only [step, list]
    split_ifs with hl
    · have hb := begin_running hl
      cases Sync.start s.desk.books.store with
      | error e => exact conclude_inStep hb false
      | ok p => exact iff_of_true hb rfl
    · exact h
  | reply r =>
    cases hu : s.underway with
    | none =>
      simp only [step, reply, hu]
      exact h
    | some p =>
      have hr : lock s.desk = some .running := h.mpr (by rw [hu]; rfl)
      simp only [step, reply, hu]
      cases Sync.answer p r with
      | error e => exact conclude_inStep hr false
      | ok p' => exact iff_of_true hr rfl
  | commit now =>
    simp only [step, commit]
    cases hc : s.committed now with
    | none => exact h
    | some c =>
      have hr : lock s.desk = some .running := h.mpr <| by
        unfold committed at hc
        cases hu : s.underway with
        | none => simp [hu] at hc
        | some p => rfl
      exact conclude_inStep hr c.1.isOk

theorem opened_inStep (bundle : Bundle) (seed : List Policy) (keys : KeyRing) (currency : String)
    (defaultCeiling : Option Float) (timing : Option (Nat × Nat)) :
    InStep (opened bundle seed keys currency defaultCeiling timing) := by
  refine iff_of_false (fun h => ?_) Bool.false_ne_true
  obtain ⟨s, hs, hlock⟩ := Option.map_eq_some_iff.mp h
  obtain ⟨⟨interval, delay⟩, -, rfl⟩ := Option.map_eq_some_iff.mp hs
  have hnew := (tick_running ⟨Runner.new, Ticker.start interval delay, 0⟩).mp hlock
  cases hnew

/-- A sync is under way exactly while a run holds the lock, so that there is never a second one. -/
theorem run_inStep (bundle : Bundle) (seed : List Policy) (keys : KeyRing) (currency : String)
    (defaultCeiling : Option Float) (timing : Option (Nat × Nat)) (events : List Event) :
    InStep ((opened bundle seed keys currency defaultCeiling timing).run events) := by
  have hrun : ∀ s, InStep s → InStep (s.run events) := by
    induction events with
    | nil => exact fun s hs => hs
    | cons e rest ih => exact fun s hs => ih (s.step e) (step_inStep hs e)
  apply hrun
  exact opened_inStep bundle seed keys currency defaultCeiling timing

def Event.request? : Event → Option Http.Request
  | .request _ r => some r
  | _ => none

theorem committed_some {s : Service} {now : Instant}
    {r : Except SyncError SyncSummary × Sync.Books Store} (h : s.committed now = some r) :
    ∃ fetched, s.underway = some ⟨[], fetched⟩ ∧
      Sync.commit s.desk.settings.currency now fetched s.desk.books = r := by
  unfold committed at h
  split at h
  · rename_i fetched hu
    exact ⟨fetched, hu, Option.some.inj h⟩
  · cases h

theorem step_desk (s : Service) {e : Event} (he : e.request? = none) :
    ∃ schedule, (s.step e).desk = { s.desk with books := (s.step e).desk.books, schedule } := by
  cases e with
  | request stamp r => cases he
  | elapse time => exact ⟨_, rfl⟩
  | stop => exact ⟨_, rfl⟩
  | list =>
    simp only [step, list]
    split_ifs
    · cases Sync.start s.desk.books.store with
      | error e => exact ⟨_, rfl⟩
      | ok p => exact ⟨_, rfl⟩
    · exact ⟨_, rfl⟩
  | reply r =>
    simp only [step, reply]
    cases s.underway with
    | none => exact ⟨_, rfl⟩
    | some p =>
      dsimp only
      cases Sync.answer p r with
      | error e => exact ⟨_, rfl⟩
      | ok p' => exact ⟨_, rfl⟩
  | commit now =>
    simp only [step, commit]
    cases s.committed now with
    | none => exact ⟨_, rfl⟩
    | some r => exact ⟨_, rfl⟩

theorem commit_error_books {books : Sync.Books Store} {t : Policies} (ht : books.store = .memory t)
    {currency : String} {now : Instant} {fetched : Sync.Fetched} {e : SyncError}
    (h : (Sync.commit currency now fetched books).1 = .error e) :
    (Sync.commit currency now fetched books).2 = books := by
  refine Sync.commit_error (fun updates e hrefused => ?_) h
  rw [ht] at hrefused ⊢
  exact Store.replaceAll_memory_error hrefused

theorem step_books {s : Service} {t : Policies} (ht : s.desk.books.store = .memory t) {e : Event}
    (he : e.request? = none) (hs : s.syncs e = false) : (s.step e).desk.books = s.desk.books := by
  cases e with
  | request stamp r => cases he
  | elapse time => rfl
  | stop => rfl
  | list =>
    simp only [step, list]
    split_ifs
    · cases Sync.start s.desk.books.store <;> rfl
    · rfl
  | reply r =>
    simp only [step, reply]
    cases s.underway with
    | none => rfl
    | some p =>
      dsimp only
      cases Sync.answer p r <;> rfl
  | commit now =>
    cases hc : s.committed now with
    | none => simp only [step, commit, hc]
    | some r =>
      obtain ⟨fetched, -, hr⟩ := committed_some hc
      have hbooks : r.2 = s.desk.books := by
        rw [syncs, hc, Option.any_some] at hs
        cases hresult : r.1 with
        | error e =>
          rw [← hr] at hresult ⊢
          exact commit_error_books ht hresult
        | ok summary =>
          rw [hresult] at hs
          cases hs
      simp only [step, commit, hc, hbooks]
      rfl

theorem step_synced {s : Service} {t : Policies} (h : s.desk.books.store = .memory t) {e : Event}
    (hs : s.syncs e = true) :
    ∃ now fetched, s.underway = some ⟨[], fetched⟩ ∧
      let snapshot := Sync.snapshotOf s.desk.settings.currency now fetched
      (s.step e).desk.books =
        ⟨.memory (Policies.writeAll now (Sync.updatesOf snapshot (fetched.map (·.1))) t).2,
          snapshot⟩ := by
  cases e with
  | commit now =>
    cases hc : s.committed now with
    | none =>
      rw [syncs, hc] at hs
      cases hs
    | some r =>
      obtain ⟨fetched, hu, hr⟩ := committed_some hc
      refine ⟨now, fetched, hu, ?_⟩
      cases hresult : r.1 with
      | error e =>
        rw [syncs, hc, Option.any_some, hresult] at hs
        cases hs
      | ok summary =>
        rw [← hr] at hresult
        obtain ⟨n, store, hwrite, hbooks⟩ := Sync.commit_ok hresult
        rw [h] at hwrite
        rw [hr, Store.replaceAll_memory hwrite] at hbooks
        simp only [step, commit, hc, ← hbooks]
        rfl
  | _ => cases hs

theorem run_replies_idle (d : Desk) (replies : List Sync.Reply) :
    run ⟨d, none⟩ (replies.map .reply) = ⟨d, none⟩ := by
  induction replies with
  | nil => rfl
  | cons r rest ih => exact ih

theorem run_replies (source : CostSource) (d : Desk) (pending : List String)
    (fetched : Sync.Fetched) :
    run ⟨d, some ⟨pending, fetched⟩⟩ ((pending.map source).map .reply) =
      match Sync.fetchAll source pending with
      | .error _ => conclude false d
      | .ok more => ⟨d, some ⟨[], fetched ++ more⟩⟩ := by
  induction pending generalizing fetched with
  | nil => simp [run, Sync.fetchAll]
  | cons owner rest ih =>
    simp only [List.map_cons, run, List.foldl_cons, step, reply, Sync.answer, Sync.fetchAll]
    cases source owner with
    | error e => exact run_replies_idle _ _
    | ok records =>
      apply (ih _).trans
      cases Sync.fetchAll source rest <;> simp [Except.map]

theorem begin_unheld (currency : String) (now : Instant) {w : SyncWork} (h : w.held = false) :
    (w.begin currency now).1 = some (Sync.run currency now w.source w.books).1.isOk ∧
      (w.begin currency now).2.books = (Sync.run currency now w.source w.books).2 := by
  unfold SyncWork.begin Sync.run
  cases hs : Sync.start w.books.store with
  | error e => exact ⟨rfl, rfl⟩
  | ok p =>
    simp only [SyncWork.ask, h]
    cases Sync.fetchAll w.source p.pending with
    | error e => exact ⟨rfl, rfl⟩
    | ok more =>
      rw [Sync.start_fresh hs]
      exact ⟨rfl, rfl⟩

theorem run_settle {d : Desk} {p : Sync.Progress} (hl : lock d = some .launched)
    (hs : Sync.start d.books.store = .ok p) (source : CostSource) (now : Instant) :
    run ⟨d, none⟩ (.list :: (p.pending.map source).map .reply ++ [.commit now]) =
      ⟨d.settle source now, none⟩ := by
  obtain ⟨s, hd, hlock⟩ := Option.map_eq_some_iff.mp hl
  have hsettle : d.settle source now =
      (conclude (Sync.run d.settings.currency now source d.books).1.isOk
        { onRunner Runner.begin d with
          books := (Sync.run d.settings.currency now source d.books).2 }).desk := by
    obtain ⟨hresult, hbooks⟩ := begin_unheld d.settings.currency now
      (w := ⟨d.books, source, false, none, []⟩) rfl
    simp only [Desk.settle, hd, Schedule.settle, hlock, if_true, Sync.job]
    generalize SyncWork.begin d.settings.currency now _ = r at hresult hbooks
    obtain ⟨ended, work⟩ := r
    simp only at hresult hbooks
    rw [hresult, ← hbooks]
    simp [Schedule.conclude, conclude, onRunner, hd]
  have hlist : step ⟨d, none⟩ .list = ⟨onRunner Runner.begin d, some ⟨p.pending, []⟩⟩ := by
    rw [Sync.start_fresh hs] at hs
    simp only [step, list, if_pos hl, hs]
  have hreplies := run_replies source (onRunner Runner.begin d) p.pending []
  rw [hsettle]
  simp only [run, List.cons_append, List.foldl_cons, List.foldl_append, List.foldl_nil,
    hlist] at hreplies ⊢
  rw [hreplies]
  simp only [Sync.run, hs]
  cases Sync.fetchAll source p.pending with
  | error e => rfl
  | ok more => rfl

/-- Asking for the next costs is waiting while there are any to ask for, and the commit else. -/
theorem run_ask {d : Desk} {s : Schedule} {w : SyncWork} (hd : d.schedule = some s)
    (hbooks : w.books = d.books) (hheld : w.held = true) (now : Instant) (p : Sync.Progress) :
    let after := s.conclude (w.ask d.settings.currency now p)
    run ⟨d, some p⟩ (if p.pending = [] then [.commit now] else []) =
      ⟨{ d with books := after.2.books, schedule := some after.1 }, after.2.waiting⟩ := by
  obtain ⟨pending, fetched⟩ := p
  cases pending with
  | nil =>
    simp [run, step, commit, committed, conclude, onRunner, hd, SyncWork.ask, Sync.fetchAll,
      SyncWork.commit, Schedule.conclude, hbooks]
  | cons owner rest =>
    simp [run, SyncWork.ask, hheld, Schedule.conclude, hbooks, ← hd]

theorem run_begin {d : Desk} {s : Schedule} (hd : d.schedule = some s)
    (hl : s.runner.lock = .launched) {p : Sync.Progress}
    (hs : Sync.start d.books.store = .ok p) (source : CostSource) (asked : List String)
    (now : Instant) :
    let after := s.settle (Sync.job d.settings.currency now) ⟨d.books, source, true, none, asked⟩
    run ⟨d, none⟩ (.list :: if p.pending = [] then [.commit now] else []) =
      ⟨{ d with books := after.2.books, schedule := some after.1 }, after.2.waiting⟩ := by
  have hlock : lock d = some .launched := by rw [lock, hd, Option.map_some, hl]
  have hlist : step ⟨d, none⟩ .list = ⟨onRunner Runner.begin d, some p⟩ := by
    simp only [step, list, if_pos hlock, hs]
  have hask := run_ask (d := onRunner Runner.begin d) (s := { s with runner := s.runner.begin })
    (w := ⟨d.books, source, true, none, asked⟩) (by rw [onRunner, hd, Option.map_some]) rfl rfl now p
  simp only [run, List.foldl_cons, hlist] at hask ⊢
  rw [hask]
  simp only [Schedule.settle, hl, if_true, Sync.job, SyncWork.begin, hs]
  rfl

theorem run_resume {d : Desk} {s : Schedule} (hd : d.schedule = some s)
    (hl : s.runner.lock = .running) (owner : String) (rest : List String) (fetched : Sync.Fetched)
    (source : CostSource) (asked : List String) (now : Instant) :
    let after := s.resume (Sync.job d.settings.currency now)
      ⟨d.books, source, true, some ⟨owner :: rest, fetched⟩, asked⟩
    run ⟨d, some ⟨owner :: rest, fetched⟩⟩
        (.reply (source owner) :: if rest = [] then [.commit now] else []) =
      ⟨{ d with books := after.2.books, schedule := some after.1 }, after.2.waiting⟩ := by
  simp only [Schedule.resume, hl, if_true, Sync.job, SyncWork.resume, List.headD_cons, Sync.answer,
    run, List.foldl_cons, step, reply]
  cases source owner with
  | error e =>
    have hrest : (if rest = [] then [Event.commit now] else []).foldl step (conclude false d) =
        conclude false d := by
      split_ifs <;> rfl
    apply hrest.trans
    simp [Schedule.conclude, conclude, onRunner, hd]
  | ok records =>
    exact run_ask hd rfl rfl now ⟨rest, fetched ++ [(owner, records)]⟩

/-- What the schedule of a desk does with its syncs are steps of the service: it settles one in a
row, begins one that waits for its replies, and lets it go on. -/
structure Stepwise (d : Desk) : Prop where
  settle : lock d = some .launched → ∀ p, Sync.start d.books.store = .ok p →
    ∀ (source : CostSource) (now : Instant),
      run ⟨d, none⟩ (.list :: (p.pending.map source).map .reply ++ [.commit now]) =
        ⟨d.settle source now, none⟩
  begin : ∀ s, d.schedule = some s → s.runner.lock = .launched →
    ∀ p, Sync.start d.books.store = .ok p →
      ∀ (source : CostSource) (asked : List String) (now : Instant),
        let after := s.settle (Sync.job d.settings.currency now) ⟨d.books, source, true, none, asked⟩
        run ⟨d, none⟩ (.list :: if p.pending = [] then [.commit now] else []) =
          ⟨{ d with books := after.2.books, schedule := some after.1 }, after.2.waiting⟩
  resume : ∀ s, d.schedule = some s → s.runner.lock = .running →
    ∀ (owner : String) (rest : List String) (fetched : Sync.Fetched) (source : CostSource)
      (asked : List String) (now : Instant),
      let after := s.resume (Sync.job d.settings.currency now)
        ⟨d.books, source, true, some ⟨owner :: rest, fetched⟩, asked⟩
      run ⟨d, some ⟨owner :: rest, fetched⟩⟩
          (.reply (source owner) :: if rest = [] then [.commit now] else []) =
        ⟨{ d with books := after.2.books, schedule := some after.1 }, after.2.waiting⟩

theorem stepwise (d : Desk) : Stepwise d where
  settle hl _ hs source now := run_settle hl hs source now
  begin _ hd hl _ hs source asked now := run_begin hd hl hs source asked now
  resume _ hd hl owner rest fetched source asked now :=
    run_resume hd hl owner rest fetched source asked now

end Service

end CloudDesk
