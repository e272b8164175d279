import CloudDesk.Proofs.Desk.Effects
import CloudDesk.Proofs.Desk.Notebook
import CloudDesk.Proofs.Desk.Requests
import CloudDesk.Proofs.Schedule.Lifecycle

namespace CloudDesk

open Http Text

theorem Answer.status_lt (a : Answer) : a.status < 400 := by
  unfold status
  split <;> decide

theorem Failure.status_eq_iff (f : Failure) : f.status = 402 ↔ ∃ cause, f = .exceeded cause := by
  constructor
  · intro h
    cases f with
    | exceeded cause => exact ⟨cause, rfl⟩
    | store cause => cases cause <;> cases h
    | key cause => cases cause <;> cases h
    | _ => cases h
  · rintro ⟨cause, rfl⟩
    rfl

theorem Http.Rejection.status_ne (r : Rejection) : r.status ≠ 402 := by
  cases r <;> decide

namespace Policies

/-- What a refused request may leave: the policies as they were, or those and one of an owner for
whom it posted something, with the default ceiling. -/
inductive Residue (default : Option Float) (r : Request) (t : Policies) : Policies → Prop
  | nothing : Residue default r t t
  | newcomer {owner : String} {ceiling : Float} (hposts : r.PostsFor owner)
      (hdefault : default = some ceiling) (hnone : t.get? owner = none)
      (hblank : isAllBlank owner = false) (howner : owner ≠ platformOwner) :
      Residue default r t (t.put owner ⟨owner, ceiling, 0.0, none⟩)

theorem Residue.kept {default : Option Float} {r : Request} {t t' : Policies}
    (h : Residue default r t t') {owner : String} {p : Policy} (hp : t.get? owner = some p) :
    t'.get? owner = some p := by
  cases h with
  | nothing => exact hp
  | @newcomer other ceiling hposts hdefault hnone hblank howner =>
    have hne : owner ≠ other := by
      rintro rfl
      cases hnone.symm.trans hp
    rw [Table.get?_put, if_neg hne, hp]

theorem onboarded_residue (default : Option Float) (t : Policies) {r : Request} {owner : String}
    (hposts : r.PostsFor owner) : Residue default r t (t.onboarded default owner) := by
  obtain h | ⟨ceiling, hdefault, hnone, hblank, howner, h⟩ := onboarded_cases default t owner
  · rw [h]
    exact .nothing
  · rw [h]
    exact .newcomer hposts hdefault hnone hblank howner

end Policies

namespace Desk

section

variable {d : Desk} {t : Policies} {call : Call} {f : Failure}

theorem after_residue (hstore : d.books.store = .memory t) {stamp : Stamp} {r : Request}
    (hmatches : call.Matches r) (hf : (d.perform stamp call).answer = .error f) :
    Policies.Residue d.defaultCeiling r t (t.after d.defaultCeiling call) := by
  cases call with
  | setBudget owner ceiling =>
    have hrefused := setBudget_isOk hstore owner ceiling
    have hanswer : (d.setBudget owner ceiling).answer = .error f := hf
    rw [hanswer] at hrefused
    simp only [Policies.after]
    split_ifs with ho
    · exact .nothing
    · cases hr : (t.setCeiling owner ceiling).1 with
      | error e =>
        rw [Policies.setCeiling_error hr]
        exact .nothing
      | ok p =>
        rw [hr, decide_eq_true ho] at hrefused
        cases hrefused
  | uploadKey owner text => exact Policies.onboarded_residue _ t (hmatches.newcomer owner rfl)
  | createNotebook owner request => exact Policies.onboarded_residue _ t (hmatches.newcomer owner rfl)
  | _ => exact .nothing

theorem schedule_of_error {stamp : Stamp} (hf : (d.perform stamp call).answer = .error f) :
    (d.perform stamp call).desk.schedule = d.schedule := by
  by_cases hc : call = .sync
  · subst hc
    simp only [perform, triggerSync] at hf ⊢
    cases hs : d.schedule with
    | none => exact hs
    | some schedule =>
      rw [hs] at hf
      dsimp only at hf ⊢
      unfold Schedule.trigger at hf ⊢
      -- only a trigger that is turned away fails, and that one leaves the runner alone
      obtain ⟨-, ht⟩ | ⟨-, -, ht⟩ | ⟨-, -, ht⟩ := schedule.runner.trigger_cases
      · rw [ht]
      · rw [ht] at hf
        cases hf
      · rw [ht] at hf
        cases hf
  · exact (d.perform_sameBut stamp hc).2.2

theorem perform_of_error (hstore : d.books.store = .memory t) {stamp : Stamp}
    (hf : (d.perform stamp call).answer = .error f) :
    (d.perform stamp call).desk = d.withStore (.memory (t.after d.defaultCeiling call)) := by
  have hbooks := perform_books hstore stamp call
  have hkeys := (perform_files stamp d call).keys_of_error hf
  have hschedule := schedule_of_error hf
  have hbundle := perform_bundle stamp d call
  have hdefault := perform_default stamp d call
  generalize (d.perform stamp call).desk = after at *
  obtain ⟨bundle, books, keys, default, schedule⟩ := after
  dsimp only at hbooks hkeys hschedule hbundle hdefault
  subst hbooks hkeys hschedule hbundle hdefault
  rfl

theorem Audited.length {o : Outcome} (h : Audited call o) :
    o.events.length = if o.reply.status = 402 then 1 else 0 := by
  cases h with
  | refused hcall hanswer hevents =>
    have hstatus : o.reply.status = 402 := by
      rw [Outcome.reply, hanswer]
      rfl
    rw [hevents, if_pos hstatus]
    rfl
  | silent hanswer hevents =>
    have hstatus : o.reply.status ≠ 402 := by
      intro h
      unfold Outcome.reply at h
      cases ha : o.answer with
      | ok a =>
        rw [ha] at h
        have hlt := a.status_lt
        have heq : a.status = 402 := h
        omega
      | error f =>
        rw [ha] at h
        obtain ⟨cause, rfl⟩ := f.status_eq_iff.mp h
        exact hanswer cause ha
    rw [hevents, if_neg hstatus]
    rfl

theorem Outcome.error_of_status {o : Outcome} (h : 400 ≤ o.reply.status) :
    ∃ f, o.answer = .error f := by
  unfold Outcome.reply at h
  cases ha : o.answer with
  | error f => exact ⟨f, rfl⟩
  | ok a =>
    rw [ha] at h
    exact absurd h (Nat.not_le.mpr a.status_lt)

theorem withoutBody_status (r : Request) (reply : Reply) :
    (withoutBody r reply).status = reply.status := by
  unfold withoutBody
  split_ifs <;> rfl

end

/-- A refusal leaves no trace but the policy of a newcomer. Keys, snapshot, schedule and all
policies there were are as before, and what has been added is an owner's first policy, with the
default ceiling and no spending, if the request posted something for the owner. An event is recorded
if and only if the request is answered with 402. -/
theorem refusal_leaves_no_trace {d : Desk} {t : Policies} (hstore : d.books.store = .memory t)
    (stamp : Stamp) (r : Request) :
    let answer := d.handle stamp r
    (400 ≤ answer.1.status → ∃ t', answer.2.1 = d.withStore (.memory t') ∧
      Policies.Residue d.defaultCeiling r t t' ∧
      ∀ owner p, t.get? owner = some p → t'.get? owner = some p) ∧
    answer.2.2.length = if answer.1.status = 402 then 1 else 0 := by
  unfold handle
  cases hc : Call.ofRequest r with
  | error rejection =>
    dsimp only
    rw [withoutBody_status]
    refine ⟨fun _ => ⟨t, ?_, .nothing, fun _ _ hp => hp⟩, ?_⟩
    · rw [withStore, ← hstore]
    · rw [if_neg rejection.status_ne]
      rfl
  | ok call =>
    dsimp only
    rw [withoutBody_status]
    refine ⟨fun hrefused => ?_, (perform_audited stamp d call).length⟩
    obtain ⟨f, hf⟩ := Outcome.error_of_status hrefused
    have hresidue := after_residue hstore (Call.ofRequest_matches hc) hf
    exact ⟨_, perform_of_error hstore hf, hresidue, fun _ _ hp => hresidue.kept hp⟩

theorem bob_is_refused_and_recorded :
    let answer := openDesk.handle ⟨⟨0, 0⟩, ⟨[]⟩⟩ (askNotebook "bob")
    answer.1.status = 402 ∧ answer.2.2.length = 1 ∧
      ∃ t', answer.2.1 = openDesk.withStore (.memory t') ∧
        t'.get? "alice" = some ⟨"alice", 50.0, 10.0, none⟩ := by
  have hstatus : (openDesk.handle ⟨⟨0, 0⟩, ⟨[]⟩⟩ (askNotebook "bob")).1.status = 402 := by
    decide +kernel
  obtain ⟨hrefused, hrecorded⟩ := refusal_leaves_no_trace (d := openDesk) (t := openPolicies) rfl
    ⟨⟨0, 0⟩, ⟨[]⟩⟩ (askNotebook "bob")
  rw [if_pos hstatus] at hrecorded
  obtain ⟨t', hafter, -, hkept⟩ := hrefused (by rw [hstatus]; decide)
  exact ⟨hstatus, hrecorded, t', hafter, hkept "alice" _ (by decide +kernel)⟩

end Desk

end CloudDesk
