import CloudDesk.Proofs.Desk.Calls
import CloudDesk.Proofs.Key.Ring

namespace CloudDesk

open Text

namespace Policies

theorem get?_setCeiling_of_ne (t : Policies) {owner other : String} (h : other ≠ owner)
    (ceiling : Float) : (t.setCeiling owner ceiling).2.get? other = t.get? other := by
  cases hr : (t.setCeiling owner ceiling).1 with
  | error e => rw [setCeiling_error hr]
  | ok p => rw [(setCeiling_ok hr).1, Table.get?_put, if_neg h]

theorem onboarded_cases (default : Option Float) (t : Policies) (owner : String) :
    t.onboarded default owner = t ∨
      ∃ ceiling, default = some ceiling ∧ t.get? owner = none ∧ isAllBlank owner = false ∧
        owner ≠ platformOwner ∧
        t.onboarded default owner = t.put owner ⟨owner, ceiling, 0.0, none⟩ := by
  unfold onboarded
  split_ifs with ho
  · exact Or.inl rfl
  · cases default with
    | none => exact Or.inl rfl
    | some ceiling =>
      simp only [ensureOwner]
      cases hp : t.get? owner with
      | some p => exact Or.inl rfl
      | none =>
        cases hc : Policy.create owner ceiling with
        | error e => exact Or.inl rfl
        | ok p =>
          have hblank := ((create_isOk owner ceiling).mp (by rw [hc]; rfl)).1
          exact Or.inr ⟨ceiling, rfl, rfl, hblank, ho, by rw [create_ok hc]⟩

theorem get?_after_of_ne (default : Option Float) (t : Policies) {call : Call} {other : String}
    (h : call.owner? ≠ some other) : (t.after default call).get? other = t.get? other := by
  cases call with
  | setBudget owner ceiling =>
    have hne : other ≠ owner := fun he => h (congrArg some he.symm)
    simp only [after]
    split_ifs
    · rfl
    · exact get?_setCeiling_of_ne t hne ceiling
  | uploadKey owner text =>
    exact get?_onboarded_of_ne default t fun he => h (congrArg some he.symm)
  | createNotebook owner r =>
    exact get?_onboarded_of_ne default t fun he => h (congrArg some he.symm)
  | _ => rfl

/-- No call writes the policy of the platform, not even one that names it. -/
theorem get?_after_platform (default : Option Float) (t : Policies) (call : Call) :
    (t.after default call).get? platformOwner = t.get? platformOwner := by
  by_cases h : call.owner? = some platformOwner
  · cases call with
    | setBudget owner ceiling => simp only [after, if_pos (Option.some.inj h)]
    | uploadKey owner text => simp only [after, onboarded, if_pos (Option.some.inj h)]
    | createNotebook owner r => simp only [after, onboarded, if_pos (Option.some.inj h)]
    | _ => rfl
  · exact get?_after_of_ne default t h

end Policies

namespace Desk

inductive Files (keys : KeyRing) (binding : String → KeyBinding) (call : Call) (o : Outcome) : Prop
  | nothing (hkeys : o.desk.keys = keys)
  | record {owner : String} {record : KeyRecord} {answer : Answer}
      (hcall : call.owner? = some owner) (howner : owner ≠ platformOwner)
      (hanswer : o.answer = .ok answer) (hkeys : o.desk.keys = keys.put owner record)
      (hname : record.edgeKeyName = (binding owner).edgeKeyName ∨
        ∃ before, keys.get? owner = some before ∧ record.edgeKeyName = before.edgeKeyName)

theorem files_ofRing {d : Desk} {call : Call} {owner : String} (hcall : call.owner? = some owner)
    (howner : owner ≠ platformOwner) (answer : KeyRecord → Answer)
    {r : Except KeyError KeyRecord × KeyRing} (h : KeyRing.Filing d.keys owner (d.binding owner) r) :
    Files d.keys d.binding call (d.ofRing answer r) := by
  cases h with
  | refused e => exact .nothing rfl
  | filed record hname => exact .record hcall howner rfl rfl hname

theorem uploadKey_files (d : Desk) (now : Instant) (owner text : String) :
    Files d.keys d.binding (.uploadKey owner text) (d.uploadKey now owner text) := by
  obtain ⟨store, hstore⟩ := d.onboard_withStore owner
  apply of_checked (P := Files d.keys d.binding (.uploadKey owner text))
  · exact fun _ => .nothing rfl
  · intro ho
    apply of_onboarded (P := Files d.keys d.binding (.uploadKey owner text)) hstore
    · exact fun e => .nothing rfl
    · have hfiling := KeyRing.register_filing d.keys owner text (d.binding owner) now
      exact files_ofRing (d := d.withStore store) rfl ho .newKey hfiling

theorem perform_files (stamp : Stamp) (d : Desk) (call : Call) :
    Files d.keys d.binding call (d.perform stamp call) := by
  cases call with
  | uploadKey owner text => exact d.uploadKey_files stamp.now owner text
  | replaceKey owner text =>
    apply of_checked (P := Files d.keys d.binding (.replaceKey owner text))
    · exact fun _ => .nothing rfl
    · intro ho
      exact files_ofRing rfl ho .key (KeyRing.replace_filing d.keys owner text _ stamp.now)
  | confirmKey owner succeeded =>
    apply of_checked (P := Files d.keys d.binding (.confirmKey owner succeeded))
    · exact fun _ => .nothing rfl
    · intro ho
      exact files_ofRing rfl ho .key (KeyRing.confirm_filing d.keys owner _ succeeded stamp.now)
  | createNotebook owner r =>
    obtain ⟨store, hdesk⟩ := d.createNotebook_withStore stamp owner r
    exact .nothing (congrArg Desk.keys hdesk :)
  | setBudget owner ceiling =>
    apply of_checked (P := Files d.keys d.binding (.setBudget owner ceiling))
    · exact fun _ => .nothing rfl
    · exact fun _ => .nothing rfl
  | sync => exact .nothing (congrArg Desk.keys d.triggerSync_desk :)
  | _ => exact .nothing rfl

namespace Files

variable {keys : KeyRing} {binding : String → KeyBinding} {call : Call} {o : Outcome}

theorem get?_of_ne (h : Files keys binding call o) {other : String}
    (hne : call.owner? ≠ some other) : o.desk.keys.get? other = keys.get? other := by
  cases h with
  | nothing hkeys => rw [hkeys]
  | record hcall howner hanswer hkeys hname =>
    rw [hkeys, Table.get?_put, if_neg fun he => hne (hcall.trans (congrArg some he.symm))]

theorem get?_platform (h : Files keys binding call o) :
    o.desk.keys.get? platformOwner = keys.get? platformOwner := by
  cases h with
  | nothing hkeys => rw [hkeys]
  | record hcall howner hanswer hkeys hname => rw [hkeys, Table.get?_put, if_neg howner.symm]

theorem keys_of_error (h : Files keys binding call o) {f : Failure} (hf : o.answer = .error f) :
    o.desk.keys = keys := by
  cases h with
  | nothing hkeys => exact hkeys
  | record hcall howner hanswer hkeys hname =>
    rw [hanswer] at hf
    cases hf

end Files

theorem perform_bundle (stamp : Stamp) (d : Desk) (call : Call) :
    (d.perform stamp call).desk.bundle = d.bundle := by
  by_cases hc : call = .sync
  · subst hc
    exact (congrArg Desk.bundle d.triggerSync_desk :)
  · exact (d.perform_sameBut stamp hc).1

/-- One event about the owner of the call if a budget refuses it, and none otherwise. -/
inductive Audited (call : Call) (o : Outcome) : Prop
  | refused {cause : Exceeded} {event : AuditEvent} (hcall : call.owner? = some event.owner)
      (hanswer : o.answer = .error (.exceeded cause)) (hevents : o.events = [event])
  | silent (hanswer : ∀ cause, o.answer ≠ .error (.exceeded cause)) (hevents : o.events = [])

theorem prepareNotebook_ne_exceeded (d : Desk) (now : Instant) (owner : String)
    (r : NotebookRequest) (cause : Exceeded) :
    d.prepareNotebook now owner r ≠ .error (.exceeded cause) := by
  unfold prepareNotebook chooseTemplate
  split_ifs
  · exact fun h => nomatch h
  · exact fun h => nomatch h
  · cases d.cloud.findExploratory r.application with
    | none => exact fun h => nomatch h
    | some template =>
      dsimp only
      split_ifs
      · exact fun h => nomatch h
      · exact fun h => nomatch h

theorem guardNotebook_audited (d : Desk) (stamp : Stamp) (owner : String) (r : NotebookRequest) :
    Audited (.createNotebook owner r) (d.guardNotebook stamp owner r) := by
  unfold guardNotebook Gate.guard
  have hverdict := Gate.exhausted_verdict (BudgetStore.get d.store) owner
  generalize Gate.exhausted (BudgetStore.get d.store) owner = v at hverdict
  cases hverdict with
  | platformFails _ => exact .silent (fun _ h => by cases h) rfl
  | platformExhausted _ _ => exact .refused rfl rfl rfl
  | ownerFails _ _ _ => exact .silent (fun _ h => by cases h) rfl
  | ownerExhausted _ _ _ _ => exact .refused rfl rfl rfl
  | admitted _ _ =>
    refine .silent (fun cause h => ?_) rfl
    have hprepared := d.prepareNotebook_ne_exceeded stamp.now owner r cause
    dsimp only at h
    cases hr : d.prepareNotebook stamp.now owner r with
    | error f =>
      rw [hr] at h hprepared
      exact hprepared (congrArg Except.error (Except.error.inj h))
    | ok n =>
      rw [hr] at h
      cases h

theorem audited_wrapped {ε α : Type} (wrap : ε → Failure)
    (hwrap : ∀ e cause, wrap e ≠ .exceeded cause) (call : Call) (answer : α → Answer)
    (result : Except ε α) (d : Desk) : Audited call ⟨(result.mapError wrap).map answer, d, []⟩ := by
  refine .silent (fun cause h => ?_) rfl
  cases result with
  | error e => exact hwrap e cause (Except.error.inj h)
  | ok a => cases h

theorem ofRing_audited (d : Desk) (call : Call) (answer : KeyRecord → Answer)
    (r : Except KeyError KeyRecord × KeyRing) : Audited call (d.ofRing answer r) :=
  audited_wrapped .key (fun _ _ h => by cases h) call answer r.1 _

theorem audited_reserved (d : Desk) (call : Call) :
    Audited call (d.unchanged (.error .reservedOwner)) := .silent (fun _ h => by cases h) rfl

theorem perform_audited (stamp : Stamp) (d : Desk) (call : Call) :
    Audited call (d.perform stamp call) := by
  cases call with
  | getBudget owner =>
    refine .silent (fun cause h => ?_) rfl
    simp only [perform, getBudget, unchanged] at h
    split at h <;> cases h
  | setBudget owner ceiling =>
    apply of_checked (P := Audited (.setBudget owner ceiling))
    · exact fun _ => audited_reserved d _
    · exact fun _ => audited_wrapped .store (fun _ _ h => by cases h) _ .budget _ _
  | uploadKey owner text =>
    apply of_checked (P := Audited (.uploadKey owner text))
    · exact fun _ => audited_reserved d _
    · intro _
      apply of_onboarded (P := Audited (.uploadKey owner text)) rfl
      · exact fun e => .silent (fun _ h => by cases h) rfl
      · exact ofRing_audited _ _ .newKey _
  | replaceKey owner text =>
    apply of_checked (P := Audited (.replaceKey owner text))
    · exact fun _ => audited_reserved d _
    · exact fun _ => ofRing_audited d _ .key _
  | confirmKey owner succeeded =>
    apply of_checked (P := Audited (.confirmKey owner succeeded))
    · exact fun _ => audited_reserved d _
    · exact fun _ => ofRing_audited d _ .key _
  | createNotebook owner r =>
    apply of_checked (P := Audited (.createNotebook owner r))
    · exact fun _ => audited_reserved d _
    · intro _
      apply of_onboarded (P := Audited (.createNotebook owner r)) rfl
      · exact fun e => .silent (fun _ h => by cases h) rfl
      · exact guardNotebook_audited _ stamp owner r
  | sync =>
    simp only [perform, triggerSync]
    cases d.schedule with
    | none => exact .silent (fun _ h => by cases h) rfl
    | some schedule =>
      dsimp only
      generalize schedule.trigger = r
      obtain ⟨outcome, after⟩ := r
      refine .silent (fun cause h => ?_) rfl
      cases outcome <;> cases h
  | _ => exact .silent (fun _ h => by cases h) rfl

end Desk

end CloudDesk
