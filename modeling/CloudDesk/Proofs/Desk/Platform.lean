import CloudDesk.Proofs.Desk.Effects
import CloudDesk.Proofs.Desk.Service

namespace CloudDesk

namespace Sync

theorem platform_not_listed (ps : List Policy) : platformOwner ∉ listed ps := by
  intro h
  obtain ⟨p, hp, howner⟩ := List.mem_map.mp h
  have hnot := (List.mem_filter.mp hp).2
  rw [Policy.isPlatform, howner] at hnot
  cases hnot

theorem start_pending {σ : Type} [BudgetStore σ] {store : σ} {p : Progress}
    (h : start store = .ok p) : platformOwner ∉ p.pending := by
  unfold start at h
  cases hl : BudgetStore.list store with
  | error e =>
    rw [hl] at h
    cases h
  | ok ps =>
    rw [hl] at h
    cases h
    exact platform_not_listed ps

theorem answer_pending {p p' : Progress} {r : Reply} (h : answer p r = .ok p') :
    p'.pending ⊆ p.pending := by
  obtain ⟨pending, fetched⟩ := p
  cases pending with
  | nil =>
    cases h
    exact fun _ ho => ho
  | cons owner rest =>
    cases r with
    | error e => cases h
    | ok records =>
      cases h
      exact List.subset_cons_self owner rest

end Sync

namespace SyncWork

/-- Neither has the platform been asked about, nor will it be when the sync goes on. -/
structure Spares (w : SyncWork) : Prop where
  asked : platformOwner ∉ w.asked
  waiting : ∀ p, w.waiting = some p → platformOwner ∉ p.pending

theorem askedOf_subset (source : CostSource) (owners : List String) :
    askedOf source owners ⊆ owners := by
  induction owners with
  | nil => exact fun _ h => h
  | cons owner rest ih =>
    simp only [askedOf]
    cases source owner with
    | error e => exact List.cons_subset_cons owner (List.nil_subset rest)
    | ok records => exact List.cons_subset_cons owner ih

/-- What is asked, and what comes of it, follows from the replies to those who are asked. -/
theorem fetchAll_congr {source source' : CostSource} {owners : List String}
    (h : ∀ owner ∈ askedOf source owners, source' owner = source owner) :
    askedOf source' owners = askedOf source owners ∧
      Sync.fetchAll source' owners = Sync.fetchAll source owners := by
  induction owners with
  | nil => exact ⟨rfl, rfl⟩
  | cons owner rest ih =>
    have hfirst : owner ∈ askedOf source (owner :: rest) := by
      rw [askedOf]
      split <;> exact List.mem_cons_self
    simp only [askedOf, Sync.fetchAll, h owner hfirst]
    cases hs : source owner with
    | error e => exact ⟨rfl, rfl⟩
    | ok records =>
      obtain ⟨hasked, hfetched⟩ := ih fun o ho => h o (by
        rw [askedOf, hs]
        exact List.mem_cons_of_mem owner ho)
      exact ⟨congrArg _ hasked, by rw [hfetched]⟩

theorem not_mem_asked {w : SyncWork} (hw : w.Spares) {owners : List String}
    (h : platformOwner ∉ owners) : platformOwner ∉ w.asked ++ owners := by
  rw [List.mem_append]
  exact not_or.mpr ⟨hw.asked, h⟩

def withSource (source : CostSource) (w : SyncWork) : SyncWork := { w with source }

/-- A step does the same and comes to the same, whatever the costs of the platform are. -/
def Overlooks {α : Type} (w : SyncWork) (step : SyncWork → α × SyncWork) : Prop :=
  ∀ source, (∀ owner, owner ≠ platformOwner → source owner = w.source owner) →
    step (w.withSource source) = ((step w).1, (step w).2.withSource source)

theorem fetchAll_overlooks {source source' : CostSource} {owners : List String}
    (hsame : ∀ owner, owner ≠ platformOwner → source' owner = source owner)
    (h : platformOwner ∉ owners) :
    askedOf source' owners = askedOf source owners ∧
      Sync.fetchAll source' owners = Sync.fetchAll source owners := by
  apply fetchAll_congr
  intro owner hasked
  apply hsame
  rintro rfl
  exact h (askedOf_subset source owners hasked)

variable (currency : String) (now : Instant)

theorem ask_overlooks (w : SyncWork) {p : Sync.Progress} (hp : platformOwner ∉ p.pending) :
    w.Overlooks (ask currency now p) := by
  intro source hsame
  obtain ⟨pending, fetched⟩ := p
  obtain ⟨hasked, hfetched⟩ := fetchAll_overlooks hsame hp
  cases hheld : w.held with
  | false =>
    simp only [ask, withSource, hheld, hasked, hfetched]
    cases Sync.fetchAll w.source pending <;> rfl
  | true =>
    simp only [ask, withSource, hheld]
    cases pending <;> rfl

theorem begin_overlooks (w : SyncWork) : w.Overlooks (SyncWork.begin currency now) := by
  intro source hsame
  have hbooks : (w.withSource source).books = w.books := rfl
  simp only [SyncWork.begin, hbooks]
  cases hs : Sync.start w.books.store with
  | error e => rfl
  | ok p => exact ask_overlooks currency now w (Sync.start_pending hs) source hsame

theorem resume_overlooks {w : SyncWork} (hw : ∀ p, w.waiting = some p → platformOwner ∉ p.pending) :
    w.Overlooks (resume currency now) := by
  intro source hsame
  have hwaiting : (w.withSource source).waiting = w.waiting := rfl
  simp only [resume, hwaiting]
  cases hp : w.waiting with
  | none => rfl
  | some p =>
    have hasked : p.pending.headD "" ≠ platformOwner := by
      intro h
      cases hpending : p.pending with
      | nil =>
        rw [hpending] at h
        exact absurd h (by decide)
      | cons owner rest =>
        rw [hpending] at h
        exact hw p hp (by rw [hpending]; exact List.mem_cons.mpr (Or.inl h.symm))
    have hsource : (w.withSource source).source (p.pending.headD "") =
        w.source (p.pending.headD "") := hsame _ hasked
    simp only [hsource]
    cases ha : Sync.answer p (w.source (p.pending.headD "")) with
    | error e => rfl
    | ok p' =>
      have hpending : platformOwner ∉ p'.pending := fun h => hw p hp (Sync.answer_pending ha h)
      exact ask_overlooks currency now w hpending source hsame

theorem sync_overlooks (w : SyncWork) : w.Overlooks (sync currency now) := by
  intro source hsame
  simp only [sync, withSource, Sync.run]
  cases hs : Sync.start w.books.store with
  | error e => rfl
  | ok p =>
    obtain ⟨hasked, hfetched⟩ := fetchAll_overlooks hsame (Sync.start_pending hs)
    simp only [hasked, hfetched]

theorem ask_spares {w : SyncWork} (hw : w.Spares) {p : Sync.Progress}
    (hp : platformOwner ∉ p.pending) : (w.ask currency now p).2.Spares := by
  obtain ⟨pending, fetched⟩ := p
  have hall := not_mem_asked hw fun h => hp (askedOf_subset w.source pending h)
  unfold ask
  split
  · rename_i owner rest _ hpending
    dsimp only at hpending hp
    subst hpending
    have hnext : platformOwner ∉ [owner] := fun h =>
      hp (List.mem_of_mem_head? (Option.mem_some_iff.mpr (List.mem_singleton.mp h).symm))
    refine ⟨not_mem_asked hw hnext, ?_⟩
    rintro _ ⟨⟩
    exact hp
  · dsimp only
    cases Sync.fetchAll w.source pending with
    | error e => exact ⟨hall, fun _ h => nomatch h⟩
    | ok more => exact ⟨hall, fun _ h => nomatch h⟩

theorem begin_spares {w : SyncWork} (hw : w.Spares) : (w.begin currency now).2.Spares := by
  unfold SyncWork.begin
  cases hs : Sync.start w.books.store with
  | error e => exact hw
  | ok p => exact ask_spares currency now hw (Sync.start_pending hs)

theorem resume_spares {w : SyncWork} (hw : w.Spares) : (w.resume currency now).2.Spares := by
  unfold resume
  cases hp : w.waiting with
  | none => exact hw
  | some p =>
    dsimp only
    cases ha : Sync.answer p (w.source (p.pending.headD "")) with
    | error e => exact ⟨hw.asked, fun _ h => nomatch h⟩
    | ok p' =>
      exact ask_spares currency now hw fun h => hw.waiting p hp (Sync.answer_pending ha h)

theorem sync_spares {w : SyncWork} (hw : w.Spares) : (w.sync currency now).2.Spares := by
  refine ⟨?_, hw.waiting⟩
  simp only [sync]
  cases hs : Sync.start w.books.store with
  | error e => exact not_mem_asked hw List.not_mem_nil
  | ok p =>
    exact not_mem_asked hw fun h => Sync.start_pending hs (askedOf_subset w.source p.pending h)

end SyncWork

namespace Service

def work (s : Service) (source : CostSource) (held : Bool) : SyncWork :=
  ⟨s.desk.books, source, held, s.underway, []⟩

theorem step_pending {s : Service} (hs : ∀ p, s.underway = some p → platformOwner ∉ p.pending)
    (e : Event) : ∀ p, (s.step e).underway = some p → platformOwner ∉ p.pending := by
  cases e with
  | request stamp r => exact hs
  | elapse time => exact hs
  | stop => exact hs
  | list =>
    simp only [step, list]
    split_ifs
    · cases hstart : Sync.start s.desk.books.store with
      | error e => rintro _ ⟨⟩
      | ok p =>
        rintro _ ⟨⟩
        exact Sync.start_pending hstart
    · exact hs
  | reply r =>
    simp only [step, reply]
    cases hu : s.underway with
    | none => exact fun p hp => hs p (by rw [hu]; exact (hu.symm.trans hp))
    | some p =>
      dsimp only
      cases ha : Sync.answer p r with
      | error e => rintro _ ⟨⟩
      | ok p' =>
        rintro _ ⟨⟩
        exact fun h => hs p hu (Sync.answer_pending ha h)
  | commit now =>
    simp only [step, commit]
    cases s.committed now with
    | none => exact hs
    | some r => rintro _ ⟨⟩

/-- The policies are in memory, the platform has a given ceiling and key there, and a sync under way
will not ask for its costs. -/
structure Reserved (ceiling : Option Float) (key : Option KeyRecord) (s : Service)
    (t : Policies) : Prop where
  store : s.desk.books.store = .memory t
  ceiling : t.ceiling? platformOwner = ceiling
  key : s.desk.keys.get? platformOwner = key
  pending : ∀ p, s.underway = some p → platformOwner ∉ p.pending

def PlatformKept (s : Service) (e : Event) (t t' : Policies) : Prop :=
  t'.get? platformOwner = t.get? platformOwner ∨
    s.syncs e = true ∧ ∃ accrued time,
      t'.get? platformOwner =
        (t.get? platformOwner).map fun p => { p with accrued, refreshedAt := some time }

theorem PlatformKept.ceiling? {s : Service} {e : Event} {t t' : Policies}
    (h : PlatformKept s e t t') : t'.ceiling? platformOwner = t.ceiling? platformOwner := by
  unfold Policies.ceiling?
  obtain h | ⟨-, accrued, time, h⟩ := h
  · rw [h]
  · rw [h, Option.map_map]
    rfl

section

variable {s : Service} {t : Policies} {ceiling : Option Float} {key : Option KeyRecord}

theorem request_reserved (h : Reserved ceiling key s t) (stamp : Stamp) (r : Http.Request) :
    ∃ t', Reserved ceiling key (s.step (.request stamp r)) t' ∧
      t'.get? platformOwner = t.get? platformOwner := by
  cases hc : Call.ofRequest r with
  | error rejection =>
    have hstep : s.step (.request stamp r) = s := by simp only [step, Desk.handle_desk, hc]
    exact ⟨t, by rw [hstep]; exact h, rfl⟩
  | ok call =>
    have hdesk : (s.step (.request stamp r)).desk = (s.desk.perform stamp call).desk := by
      simp only [step, Desk.handle_desk, hc]
    have hplatform := Policies.get?_after_platform s.desk.defaultCeiling t call
    refine ⟨t.after s.desk.defaultCeiling call, ⟨?_, ?_, ?_, h.pending⟩, hplatform⟩
    · rw [hdesk, Desk.perform_books h.store stamp call]
    · rw [Policies.ceiling?, hplatform]
      exact h.ceiling
    · rw [hdesk, (Desk.perform_files stamp s.desk call).get?_platform]
      exact h.key

theorem still_reserved (h : Reserved ceiling key s t) {e : Event} (he : e.request? = none) :
    ∃ t', Reserved ceiling key (s.step e) t' ∧ PlatformKept s e t t' := by
  obtain ⟨schedule, hdesk⟩ := s.step_desk he
  have hpending := step_pending h.pending e
  have hkey : (s.step e).desk.keys.get? platformOwner = key := by
    rw [hdesk]
    exact h.key
  cases hs : s.syncs e with
  | false =>
    have hbooks := step_books h.store he hs
    exact ⟨t, ⟨by rw [hbooks]; exact h.store, h.ceiling, hkey, hpending⟩, Or.inl rfl⟩
  | true =>
    obtain ⟨now, fetched, -, hbooks⟩ := step_synced h.store hs
    dsimp only at hbooks
    generalize Sync.snapshotOf s.desk.settings.currency now fetched = snapshot at hbooks
    have hkept : PlatformKept s e t
        (Policies.writeAll now (Sync.updatesOf snapshot (fetched.map (·.1))) t).2 := by
      refine Or.inr ⟨hs, snapshot.total, now, ?_⟩
      rw [Policies.get?_writeAll, Sync.lastFor_updatesOf, if_pos rfl]
      rfl
    exact ⟨_, ⟨by rw [hbooks], hkept.ceiling?.trans h.ceiling, hkey, hpending⟩, hkept⟩

theorem step_reserved (h : Reserved ceiling key s t) (e : Event) :
    ∃ t', Reserved ceiling key (s.step e) t' ∧ PlatformKept s e t t' := by
  cases e with
  | request stamp r =>
    obtain ⟨t', ht', hplatform⟩ := request_reserved h stamp r
    exact ⟨t', ht', Or.inl hplatform⟩
  | elapse time => exact still_reserved h rfl
  | stop => exact still_reserved h rfl
  | list => exact still_reserved h rfl
  | reply r => exact still_reserved h rfl
  | commit now => exact still_reserved h rfl

theorem run_reserved (h : Reserved ceiling key s t) (events : List Event) :
    ∃ t', Reserved ceiling key (s.run events) t' := by
  induction events generalizing s t with
  | nil => exact ⟨t, h⟩
  | cons e rest ih =>
    obtain ⟨t', ht', -⟩ := step_reserved h e
    exact ih ht'

end

theorem opened_reserved (bundle : Bundle) (seed : List Policy) (keys : KeyRing) (currency : String)
    (defaultCeiling : Option Float) (timing : Option (Nat × Nat)) :
    Reserved ((Policies.ofPolicies seed).ceiling? platformOwner) (keys.get? platformOwner)
      (opened bundle seed keys currency defaultCeiling timing) (Policies.ofPolicies seed) where
  store := rfl
  ceiling := rfl
  key := rfl
  pending := fun _ h => nomatch h

/-- However requests, ticks and stops come between the steps of syncs: the platform has a policy if
and only if it had one at the start, with the same ceiling, and it has no key that it did not have
then. No event changes its policy but the commit of a successful sync, which writes its spending and
nothing else. And no sync that begins or goes on asks for its costs: none of them is noted as asked
for, and whatever they are, the sync does the same. -/
theorem platform_is_out_of_reach (bundle : Bundle) (seed : List Policy) (keys : KeyRing)
    (currency : String) (defaultCeiling : Option Float) (timing : Option (Nat × Nat))
    (events : List Event) :
    let before := Policies.ofPolicies seed
    let s := (opened bundle seed keys currency defaultCeiling timing).run events
    ∃ t : Policies, s.desk.books.store = .memory t ∧
      t.contains platformOwner = before.contains platformOwner ∧
      t.ceiling? platformOwner = before.ceiling? platformOwner ∧
      s.desk.keys.get? platformOwner = keys.get? platformOwner ∧
      (∀ e, ∃ t' : Policies, (s.step e).desk.books.store = .memory t' ∧ PlatformKept s e t t') ∧
      ∀ source held currency now,
        ((s.work source held).begin currency now).2.Spares ∧
        ((s.work source held).resume currency now).2.Spares ∧
        ((s.work source held).sync currency now).2.Spares ∧
        (s.work source held).Overlooks (SyncWork.begin currency now) ∧
        (s.work source held).Overlooks (SyncWork.resume currency now) ∧
        (s.work source held).Overlooks (SyncWork.sync currency now) := by
  intro before s
  obtain ⟨t, h⟩ :=
    run_reserved (opened_reserved bundle seed keys currency defaultCeiling timing) events
  refine ⟨t, h.store, ?_, h.ceiling, h.key, fun e => ?_, fun source held currency now => ?_⟩
  · have hsome := congrArg Option.isSome h.ceiling
    simpa only [Policies.ceiling?, Option.isSome_map, Table.contains] using hsome
  · obtain ⟨t', ht', hkept⟩ := step_reserved h e
    exact ⟨t', ht'.store, hkept⟩
  · have hspares : (s.work source held).Spares := ⟨List.not_mem_nil, h.pending⟩
    exact ⟨SyncWork.begin_spares currency now hspares, SyncWork.resume_spares currency now hspares,
      SyncWork.sync_spares currency now hspares, SyncWork.begin_overlooks currency now _,
      SyncWork.resume_overlooks currency now hspares.waiting, SyncWork.sync_overlooks currency now _⟩

end Service

end CloudDesk
