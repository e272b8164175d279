import CloudDesk.Proofs.Desk.Service

namespace CloudDesk

namespace Sync

def Progress.owners (p : Progress) : List String := p.fetched.map (·.1) ++ p.pending

theorem answer_owners {p p' : Progress} {r : Reply} (h : answer p r = .ok p') :
    p'.owners = p.owners := by
  obtain ⟨pending, fetched⟩ := p
  cases pending with
  | nil => cases h; rfl
  | cons owner rest =>
    cases r with
    | error e => cases h
    | ok records =>
      cases h
      simp [Progress.owners]

theorem mem_listed {t : Policies} (h : t.InOrder) (owner : String) :
    owner ∈ listed t.values ↔ owner ≠ platformOwner ∧ ∃ p, t.get? owner = some p := by
  simp only [listed, List.mem_map, List.mem_filter, h.mem_values_iff, Policy.isPlatform,
    Bool.not_eq_true', beq_eq_false_iff_ne]
  constructor
  · rintro ⟨p, ⟨hp, hne⟩, rfl⟩
    exact ⟨hne, p, hp⟩
  · rintro ⟨hne, p, hp⟩
    have ho := h.owner_of_get? hp
    exact ⟨p, ⟨by rw [ho]; exact hp, by rw [ho]; exact hne⟩, ho⟩

end Sync

def Policy.IsFresh (p : Policy) : Prop := p.accrued = 0.0 ∧ p.refreshedAt = none

structure Agree (t : Policies) (s : Snapshot Float) : Prop where
  listed : ∀ owner, s.owners.contains owner = true →
    ∃ p, t.get? owner = some p ∧ p.accrued = s.ownerTotal owner ∧ p.refreshedAt = s.syncedAt
  others : ∀ owner p, t.get? owner = some p → owner ≠ platformOwner →
    s.owners.contains owner = false → p.IsFresh
  platform : ∀ p, t.get? platformOwner = some p → p.accrued = s.total ∧ p.refreshedAt = s.syncedAt

/-- A sync under way knows every owner whose policy may have spending. -/
structure Knows (p : Sync.Progress) (t : Policies) : Prop where
  known : ∀ owner ∈ p.owners, owner ≠ platformOwner ∧ ∃ q, t.get? owner = some q
  others : ∀ owner q, t.get? owner = some q → owner ≠ platformOwner → owner ∉ p.owners → q.IsFresh

theorem Agree.grows {t t' : Policies} {s : Snapshot Float} (h : Agree t s)
    (hg : Policies.Grows t t') : Agree t' s := by
  refine ⟨fun owner ho => ?_, fun owner p hp hne ho => ?_, fun p hp => ?_⟩
  · obtain ⟨q, hq, hacc, hat⟩ := h.listed owner ho
    obtain hs | ⟨q', ceiling, hq', hs⟩ | ⟨hn, -, -⟩ := hg owner
    · exact ⟨q, hs.trans hq, hacc, hat⟩
    · rw [hq] at hq'
      cases hq'
      exact ⟨_, hs, hacc, hat⟩
    · rw [hq] at hn
      cases hn
  · obtain hs | ⟨q, ceiling, hq, hs⟩ | ⟨-, -, ceiling, hs⟩ := hg owner
    · exact h.others owner p (hs.symm.trans hp) hne ho
    · rw [hs] at hp
      cases hp
      exact h.others owner q hq hne ho
    · rw [hs] at hp
      cases hp
      exact ⟨rfl, rfl⟩
  · obtain hs | ⟨q, ceiling, hq, hs⟩ | ⟨-, hne, -⟩ := hg platformOwner
    · exact h.platform p (hs.symm.trans hp)
    · rw [hs] at hp
      cases hp
      exact h.platform q hq
    · exact absurd rfl hne

theorem Knows.grows {t t' : Policies} {p : Sync.Progress} (h : Knows p t)
    (hg : Policies.Grows t t') : Knows p t' := by
  refine ⟨fun owner ho => ?_, fun owner q hq hne ho => ?_⟩
  · obtain ⟨hne, q, hq⟩ := h.known owner ho
    refine ⟨hne, ?_⟩
    obtain hs | ⟨_, _, _, hs⟩ | ⟨_, _, _, hs⟩ := hg owner
    · exact ⟨q, hs.trans hq⟩
    · exact ⟨_, hs⟩
    · exact ⟨_, hs⟩
  · obtain hs | ⟨q', ceiling, hq', hs⟩ | ⟨-, -, ceiling, hs⟩ := hg owner
    · exact h.others owner q (hs.symm.trans hq) hne ho
    · rw [hs] at hq
      cases hq
      exact h.others owner q' hq' hne ho
    · rw [hs] at hq
      cases hq
      exact ⟨rfl, rfl⟩

theorem Knows.start {t : Policies} (h : t.InOrder) : Knows ⟨Sync.listed t.values, []⟩ t := by
  refine ⟨fun owner ho => ?_, fun owner q hq hne ho => ?_⟩
  · exact (Sync.mem_listed h owner).mp (by simpa [Sync.Progress.owners] using ho)
  · refine absurd ?_ ho
    simpa [Sync.Progress.owners] using (Sync.mem_listed h owner).mpr ⟨hne, q, hq⟩

theorem Knows.answer {t : Policies} {p p' : Sync.Progress} {r : Sync.Reply} (h : Knows p t)
    (ha : Sync.answer p r = .ok p') : Knows p' t := by
  have ho := Sync.answer_owners ha
  exact ⟨by rw [ho]; exact h.known, by rw [ho]; exact h.others⟩

/-- A batch of the totals of a snapshot makes the policies agree with it, if they had no other
spending than that of its owners. -/
theorem Knows.agree {t : Policies} {fetched : Sync.Fetched} (h : Knows ⟨[], fetched⟩ t)
    (currency : String) (now : Instant) :
    Agree (Policies.writeAll now (Sync.updatesOf (Sync.snapshotOf currency now fetched)
      (fetched.map (·.1))) t).2 (Sync.snapshotOf currency now fetched) := by
  have howners : (⟨[], fetched⟩ : Sync.Progress).owners = fetched.map (·.1) := by
    simp [Sync.Progress.owners]
  have hget := fun owner => Policies.get?_writeAll now
    (Sync.updatesOf (Sync.snapshotOf currency now fetched) (fetched.map (·.1))) t owner
  have hat := Sync.snapshotOf_syncedAt currency now fetched
  refine ⟨fun owner ho => ?_, fun owner p hp hne ho => ?_, fun p hp => ?_⟩
  · have hm := (Sync.contains_snapshotOf currency now fetched owner).mp ho
    obtain ⟨hne, q, hq⟩ := h.known owner (howners ▸ hm)
    rw [hget, hq, Sync.lastFor_updatesOf, if_neg hne, if_pos hm]
    exact ⟨_, rfl, rfl, hat.symm⟩
  · have hm : owner ∉ fetched.map (·.1) := fun hm => by
      rw [(Sync.contains_snapshotOf currency now fetched owner).mpr hm] at ho
      cases ho
    rw [hget, Sync.lastFor_updatesOf, if_neg hne, if_neg hm, Policies.spent_none,
      Option.map_id] at hp
    exact h.others owner p hp hne (howners ▸ hm)
  · rw [hget, Sync.lastFor_updatesOf, if_pos rfl] at hp
    obtain ⟨q, -, rfl⟩ := Option.map_eq_some_iff.mp hp
    exact ⟨rfl, hat.symm⟩

namespace Policies

theorem CeilingFrom.or_left {default before after : Option Float}
    (h : CeilingFrom default before after) (first : Option Float) :
    CeilingFrom default (first.or before) (first.or after) := by
  cases first with
  | none => exact h
  | some ceiling => exact Or.inl rfl

theorem CeilingFrom.trans {default a b c : Option Float} (h : CeilingFrom default a b)
    (h' : CeilingFrom default b c) : CeilingFrom default a c := by
  obtain rfl | ⟨rfl, rfl⟩ := h'
  · exact h
  · obtain ha | ⟨ha, -⟩ := h
    · exact Or.inr ⟨ha.symm, rfl⟩
    · exact Or.inr ⟨ha, rfl⟩

end Policies

namespace Service

/-- The policies are in memory and, once there is a snapshot of a sync, agree with it. A sync under
way knows the owners that it will have to write. -/
structure Inv (s : Service) (t : Policies) : Prop where
  store : s.desk.books.store = .memory t
  ordered : t.InOrder
  agree : s.desk.books.snapshot.syncedAt.isSome = true → Agree t s.desk.books.snapshot
  knows : ∀ p, s.underway = some p → Knows p t

structure Moves (s : Service) (e : Event) (t t' : Policies) : Prop where
  inv : Inv (s.step e) t'
  default : (s.step e).desk.defaultCeiling = s.desk.defaultCeiling
  synced : s.desk.books.snapshot.syncedAt.isSome = true ∨ s.syncs e = true →
    (s.step e).desk.books.snapshot.syncedAt.isSome = true
  ceilings : ∀ owner, Policies.CeilingFrom s.desk.defaultCeiling
    ((s.ceilingSet owner e).or (t.ceiling? owner)) (t'.ceiling? owner)

theorem Moves.still {s : Service} {e : Event} {t : Policies} (h : Inv s t)
    (hbooks : (s.step e).desk.books = s.desk.books)
    (hdefault : (s.step e).desk.defaultCeiling = s.desk.defaultCeiling)
    (hknows : ∀ p, (s.step e).underway = some p → Knows p t)
    (hsyncs : s.syncs e = false) (hset : ∀ owner, s.ceilingSet owner e = none) :
    Moves s e t t where
  inv := ⟨hbooks ▸ h.store, h.ordered, hbooks ▸ h.agree, hknows⟩
  default := hdefault
  synced := by
    rw [hbooks, hsyncs]
    rintro (hs | hs)
    · exact hs
    · cases hs
  ceilings := fun owner => by
    rw [hset owner]
    exact Or.inl rfl

theorem request_moves {s : Service} {t : Policies} (h : Inv s t) (stamp : Stamp)
    (r : Http.Request) : ∃ t', Moves s (.request stamp r) t t' := by
  cases hc : Call.ofRequest r with
  | error rejection =>
    have hstep : s.step (.request stamp r) = s := by simp only [step, Desk.handle_desk, hc]
    refine ⟨t, .still h (by rw [hstep]) (by rw [hstep]) (by rw [hstep]; exact h.knows) rfl ?_⟩
    exact fun owner => by simp only [ceilingSet, hc]
  | ok call =>
    have hstep : s.step (.request stamp r) = { s with desk := (s.desk.perform stamp call).desk } := by
      simp only [step, Desk.handle_desk, hc]
    have hbooks := Desk.perform_books h.store stamp call
    have hgrows := Policies.after_grows s.desk.defaultCeiling t call
    refine ⟨t.after s.desk.defaultCeiling call, ⟨⟨?_, ?_, ?_, ?_⟩, ?_, ?_, fun owner => ?_⟩⟩
    · rw [hstep, hbooks]
    · exact Policies.after_inOrder h.ordered _ call
    · rw [hstep, hbooks]
      exact fun hs => (h.agree hs).grows hgrows
    · rw [hstep]
      exact fun p hp => (h.knows p hp).grows hgrows
    · rw [hstep]
      exact Desk.perform_default stamp s.desk call
    · rw [hstep, hbooks]
      rintro (hs | hs)
      · exact hs
      · cases hs
    · have hset : s.ceilingSet owner (.request stamp r) = s.desk.ceilingSet stamp owner call := by
        simp only [ceilingSet, hc]
      rw [hset]
      exact Desk.after_ceiling? h.store stamp call owner

theorem list_moves {s : Service} {t : Policies} (h : Inv s t) : Moves s .list t t := by
  have hstart : Sync.start s.desk.books.store = .ok ⟨Sync.listed t.values, []⟩ := by
    rw [h.store]
    rfl
  have hstep : s.step .list =
      if lock s.desk = some .launched then
        ⟨onRunner Runner.begin s.desk, some ⟨Sync.listed t.values, []⟩⟩
      else s := by
    simp only [step, list, hstart]
  refine .still h ?_ ?_ ?_ rfl fun owner => rfl
  · rw [hstep]
    split_ifs <;> rfl
  · rw [hstep]
    split_ifs <;> rfl
  · rw [hstep]
    intro p hp
    split_ifs at hp with hl
    · cases hp
      exact Knows.start h.ordered
    · exact h.knows p hp

theorem reply_moves {s : Service} {t : Policies} (h : Inv s t) (r : Sync.Reply) :
    Moves s (.reply r) t t := by
  cases hu : s.underway with
  | none =>
    have hstep : s.step (.reply r) = s := by simp only [step, reply, hu]
    exact .still h (by rw [hstep]) (by rw [hstep]) (by rw [hstep]; exact h.knows) rfl fun _ => rfl
  | some p =>
    cases ha : Sync.answer p r with
    | error e =>
      have hstep : s.step (.reply r) = conclude false s.desk := by simp only [step, reply, hu, ha]
      refine .still h (by rw [hstep]; rfl) (by rw [hstep]; rfl) ?_ rfl fun _ => rfl
      rw [hstep]
      rintro p ⟨⟩
    | ok p' =>
      have hstep : s.step (.reply r) = ⟨s.desk, some p'⟩ := by simp only [step, reply, hu, ha]
      refine .still h (by rw [hstep]) (by rw [hstep]) ?_ rfl fun _ => rfl
      rw [hstep]
      rintro _ ⟨⟩
      exact (h.knows p hu).answer ha

theorem commit_moves {s : Service} {t : Policies} (h : Inv s t) (now : Instant) :
    ∃ t', Moves s (.commit now) t t' := by
  cases hc : s.committed now with
  | none =>
    have hstep : s.step (.commit now) = s := by simp only [step, commit, hc]
    have hsyncs : s.syncs (.commit now) = false := by rw [syncs, hc, Option.any_none]
    exact ⟨t, .still h (by rw [hstep]) (by rw [hstep]) (by rw [hstep]; exact h.knows) hsyncs
      fun _ => rfl⟩
  | some r =>
    obtain ⟨fetched, hu, hr⟩ := committed_some hc
    have hstep : s.step (.commit now) = conclude r.1.isOk { s.desk with books := r.2 } := by
      simp only [step, commit, hc]
    have hidle : ∀ p, (s.step (.commit now)).underway = some p → ∀ t, Knows p t := by
      rw [hstep]
      rintro p ⟨⟩
    have hsyncs : s.syncs (.commit now) = r.1.isOk := by rw [syncs, hc, Option.any_some]
    cases hresult : r.1 with
    | error e =>
      have hbooks : r.2 = s.desk.books := by
        rw [← hr] at hresult ⊢
        exact commit_error_books h.store hresult
      refine ⟨t, .still h ?_ (by rw [hstep]; rfl) (fun p hp => hidle p hp t) ?_ fun _ => rfl⟩
      · rw [hstep, hbooks]
        rfl
      · rw [hsyncs, hresult]
        rfl
    | ok summary =>
      rw [← hr] at hresult
      obtain ⟨n, store, hwrite, hbooks⟩ := Sync.commit_ok hresult
      rw [hr] at hbooks
      rw [h.store] at hwrite
      have hstore := Store.replaceAll_memory hwrite
      have hdesk : (s.step (.commit now)).desk.books = ⟨store,
          Sync.snapshotOf s.desk.settings.currency now fetched⟩ := by
        rw [hstep, ← hbooks]
        rfl
      refine ⟨(Policies.writeAll now (Sync.updatesOf (Sync.snapshotOf s.desk.settings.currency now
        fetched) (fetched.map (·.1))) t).2, ⟨⟨?_, ?_, ?_, fun p hp => hidle p hp _⟩, ?_, ?_,
        fun owner => ?_⟩⟩
      · rw [hdesk, hstore]
      · exact Policies.writeAll_inOrder now _ h.ordered
      · -- who came after the listing is not written, and has no spending yet
        rw [hdesk]
        exact fun _ => (h.knows _ hu).agree s.desk.settings.currency now
      · rw [hstep]
        rfl
      · rw [hdesk, Sync.snapshotOf_syncedAt]
        exact fun _ => rfl
      · exact Or.inl (Policies.ceiling?_writeAll now _ t owner)

theorem step_moves {s : Service} {t : Policies} (h : Inv s t) (e : Event) :
    ∃ t', Moves s e t t' := by
  cases e with
  | request stamp r => exact request_moves h stamp r
  | elapse time => exact ⟨t, .still h rfl rfl h.knows rfl fun _ => rfl⟩
  | stop => exact ⟨t, .still h rfl rfl h.knows rfl fun _ => rfl⟩
  | list => exact ⟨t, list_moves h⟩
  | reply r => exact ⟨t, reply_moves h r⟩
  | commit now => exact commit_moves h now

theorem run_inv {s : Service} {t : Policies} (h : Inv s t) (events : List Event) :
    ∃ t', Inv (s.run events) t' ∧
      (s.desk.books.snapshot.syncedAt.isSome = true ∨ hasSynced s events = true →
        (s.run events).desk.books.snapshot.syncedAt.isSome = true) ∧
      ∀ owner, Policies.CeilingFrom s.desk.defaultCeiling
        ((lastCeiling owner s events).or (t.ceiling? owner)) (t'.ceiling? owner) := by
  induction events generalizing s t with
  | nil =>
    refine ⟨t, h, fun hs => ?_, fun owner => Or.inl rfl⟩
    obtain hs | hs := hs
    · exact hs
    · cases hs
  | cons e rest ih =>
    obtain ⟨t₁, hmoves⟩ := step_moves h e
    obtain ⟨t', hinv, hsynced, hceilings⟩ := ih hmoves.inv
    refine ⟨t', hinv, fun hs => hsynced ?_, fun owner => ?_⟩
    · rw [hasSynced, Bool.or_eq_true, ← or_assoc] at hs
      exact hs.imp_left hmoves.synced
    · have hlast := (hmoves.ceilings owner).or_left (lastCeiling owner (s.step e) rest)
      have hrest := hceilings owner
      rw [hmoves.default] at hrest
      rw [lastCeiling, Option.or_assoc]
      exact hlast.trans hrest

theorem opened_inv (bundle : Bundle) (seed : List Policy) (keys : KeyRing) (currency : String)
    (defaultCeiling : Option Float) (timing : Option (Nat × Nat)) :
    Inv (opened bundle seed keys currency defaultCeiling timing) (Policies.ofPolicies seed) where
  store := rfl
  ordered := Policies.ofPolicies_inOrder seed
  agree := fun h => nomatch h
  knows := fun _ h => nomatch h

/-- However requests, ticks and stops come between the steps of syncs, from the first successful
sync on the policies agree with the snapshot: its owners have its totals and its time, the platform
has its total, and nobody else has any spending. The ceiling of an owner is always the one that was
set last, or else the one of the seed, or the default one for an owner who was onboarded. A sync is
under way exactly while a run holds the lock, and its steps are those of the schedule. -/
theorem policies_agree_with_snapshot (bundle : Bundle) (seed : List Policy) (keys : KeyRing)
    (currency : String) (defaultCeiling : Option Float) (timing : Option (Nat × Nat))
    (events : List Event) :
    let s₀ := opened bundle seed keys currency defaultCeiling timing
    let s := s₀.run events
    (∃ t : Policies, s.desk.books.store = .memory t ∧ t.InOrder ∧
      (hasSynced s₀ events = true → Agree t s.desk.books.snapshot) ∧
      ∀ owner, Policies.CeilingFrom defaultCeiling
        ((lastCeiling owner s₀ events).or ((Policies.ofPolicies seed).ceiling? owner))
        (t.ceiling? owner)) ∧
    InStep s ∧ Stepwise s.desk := by
  intro s₀ s
  obtain ⟨t, hinv, hsynced, hceilings⟩ :=
    run_inv (opened_inv bundle seed keys currency defaultCeiling timing) events
  refine ⟨⟨t, hinv.store, hinv.ordered, fun h => hinv.agree (hsynced (Or.inr h)), hceilings⟩, ?_,
    stepwise s.desk⟩
  exact run_inStep bundle seed keys currency defaultCeiling timing events

def smallBundle : Bundle :=
  ⟨.aws, Settings.create "desk" ⟨"http", [], [], none, none, .rooted [[]], none, none⟩⟩

def beforeFirstSync : Service :=
  opened smallBundle [⟨"alice", 50.0, 10.0, none⟩] Table.empty "USD" none (some (1000, 0))

def raisedMeanwhile : List Event :=
  [.list,
    .request ⟨⟨0, 0⟩, ⟨[]⟩⟩
      ⟨"PUT", "/budget/alice", some "application/json", Text.utf8 "\x7b\"ceiling\":75.0\x7d"⟩,
    .reply (.ok [⟨"EXPLORATORY", 30.0, "USD", ⟨0, 0⟩⟩]), .commit ⟨1, 0⟩]

theorem ceiling_raised_meanwhile_stays :
    hasSynced beforeFirstSync raisedMeanwhile = true ∧
      ∃ t : Policies, (beforeFirstSync.run raisedMeanwhile).desk.books.store = .memory t ∧
        Agree t (beforeFirstSync.run raisedMeanwhile).desk.books.snapshot ∧
        t.ceiling? "alice" = some 75.0 := by
  have hsynced : hasSynced beforeFirstSync raisedMeanwhile = true := by decide +kernel
  have hlast : lastCeiling "alice" beforeFirstSync raisedMeanwhile = some 75.0 := by decide +kernel
  unfold beforeFirstSync at hsynced hlast ⊢
  obtain ⟨⟨t, hstore, -, hagree, hceilings⟩, -⟩ := policies_agree_with_snapshot smallBundle
    [⟨"alice", 50.0, 10.0, none⟩] Table.empty "USD" none (some (1000, 0)) raisedMeanwhile
  refine ⟨hsynced, t, hstore, hagree hsynced, ?_⟩
  have halice := hceilings "alice"
  rw [hlast, Option.some_or] at halice
  obtain h | ⟨h, -⟩ := halice
  · exact h
  · cases h

end Service

end CloudDesk
