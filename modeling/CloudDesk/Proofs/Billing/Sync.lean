import CloudDesk.Billing.Sync
import CloudDesk.Proofs.Billing.Snapshot
import CloudDesk.Proofs.Budget.Store

namespace CloudDesk.Sync

variable {σ : Type} [BudgetStore σ]

abbrev Reply := Except FetchError (List CostRecord)

def answerAll (p : Progress) : List Reply → Except SyncError Progress
  | [] => .ok p
  | r :: rest =>
    match answer p r with
    | .error e => .error e
    | .ok p => answerAll p rest

/-- A sync whose questions get these replies in turn, the same or different ones about an owner. -/
def attempt (currency : String) (now : Instant) (replies : List Reply) (books : Books σ) :
    Except SyncError SyncSummary × Books σ :=
  match start books.store with
  | .error e => (.error e, books)
  | .ok p =>
    match answerAll p replies with
    | .error e => (.error e, books)
    | .ok p => commit currency now p.fetched books

theorem answerAll_map (source : String → Reply) (pending : List String) (fetched : Fetched) :
    answerAll ⟨pending, fetched⟩ (pending.map source) =
      (fetchAll source pending).map fun more => ⟨[], fetched ++ more⟩ := by
  induction pending generalizing fetched with
  | nil => simp [answerAll, fetchAll, Except.map]
  | cons owner rest ih =>
    simp only [List.map_cons, answerAll, answer, fetchAll]
    cases hr : source owner with
    | error e => rfl
    | ok records =>
      simp only [ih]
      cases fetchAll source rest <;> simp [Except.map]

theorem start_fresh {store : σ} {p : Progress} (h : start store = .ok p) : p = ⟨p.pending, []⟩ := by
  unfold start at h
  cases hl : BudgetStore.list store with
  | error e => simp [hl] at h
  | ok ps =>
    simp only [hl, Except.ok.injEq] at h
    rw [← h]

theorem run_eq_attempt (currency : String) (now : Instant) (source : String → Reply)
    (books : Books σ) {p : Progress} (h : start books.store = .ok p) :
    run currency now source books = attempt currency now (p.pending.map source) books := by
  have ha := answerAll_map source p.pending []
  rw [← start_fresh h] at ha
  simp only [run, attempt, h, ha]
  cases fetchAll source p.pending <;> simp [Except.map]

theorem entriesOf_about {currency : String} {f : String × List CostRecord}
    {e : Snapshot.Entry Float} (h : e ∈ entriesOf currency f) : e.about = f.1 := by
  obtain rfl | h := List.mem_cons.mp h
  · rfl
  · obtain ⟨r, -, rfl⟩ := List.mem_map.mp h
    rfl

theorem contains_snapshotOf (currency : String) (now : Instant) (fetched : Fetched)
    (owner : String) :
    (snapshotOf currency now fetched).owners.contains owner = true ↔ owner ∈ fetched.map (·.1) := by
  unfold snapshotOf
  rw [Snapshot.contains_enterAll, List.mem_map]
  simp only [Snapshot.empty, Table.contains_empty, Bool.false_eq_true, false_or, List.mem_flatMap]
  constructor
  · rintro ⟨e, ⟨f, hf, he⟩, ho⟩
    exact ⟨f, hf, (entriesOf_about he).symm.trans ho⟩
  · rintro ⟨f, hf, ho⟩
    exact ⟨.owner f.1, ⟨f, hf, List.mem_cons_self⟩, ho⟩

theorem snapshotOf_syncedAt (currency : String) (now : Instant) (fetched : Fetched) :
    (snapshotOf currency now fetched).syncedAt = some now :=
  Snapshot.enterAll_syncedAt _ _

theorem finiteTotal_ok {owner : String} {value x : Float} (h : finiteTotal owner value = .ok x) :
    x = value ∧ value.isFinite = true := by
  unfold finiteTotal at h
  split_ifs at h with hv
  cases h
  exact ⟨rfl, hv⟩

theorem ownerTotals_ok {s : Snapshot Float} {owners : List String} {updates : List (String × Float)}
    (h : ownerTotals s owners = .ok updates) :
    updates = owners.map fun owner => (owner, s.ownerTotal owner) := by
  induction owners generalizing updates with
  | nil => cases h; rfl
  | cons owner rest ih =>
    obtain ⟨value, hv, h⟩ := bind_eq_ok h
    obtain ⟨more, hm, h⟩ := bind_eq_ok h
    rw [← Except.ok.inj h, ih hm, (finiteTotal_ok hv).1, List.map_cons]

def updatesOf (s : Snapshot Float) (owners : List String) : List (String × Float) :=
  owners.map (fun owner => (owner, s.ownerTotal owner)) ++ [(platformOwner, s.total)]

theorem lastFor_updatesOf (s : Snapshot Float) (owners : List String) (owner : String) :
    Policies.lastFor owner (updatesOf s owners) =
      if owner = platformOwner then some s.total
      else if owner ∈ owners then some (s.ownerTotal owner) else none := by
  rw [updatesOf, Policies.lastFor_append, Policies.lastFor_map]
  by_cases ho : owner = platformOwner
  · simp [Policies.lastFor, ho]
  · simp [Policies.lastFor, ho, Ne.symm ho]

theorem batch_ok {s : Snapshot Float} {owners : List String} {updates : List (String × Float)}
    {total : Float} (h : batch s owners = .ok (updates, total)) :
    updates = updatesOf s owners ∧ total = s.total := by
  obtain ⟨us, hu, h⟩ := bind_eq_ok h
  obtain ⟨t, ht, h⟩ := bind_eq_ok h
  obtain ⟨rfl, rfl⟩ := Prod.mk.inj (Except.ok.inj h)
  rw [ownerTotals_ok hu, (finiteTotal_ok ht).1]
  exact ⟨rfl, rfl⟩

theorem commit_cases (currency : String) (now : Instant) (fetched : Fetched) (books : Books σ) :
    (∃ e, batch (snapshotOf currency now fetched) (fetched.map (·.1)) = .error e ∧
        commit currency now fetched books = (.error e, books)) ∨
      (∃ updates total e store,
        batch (snapshotOf currency now fetched) (fetched.map (·.1)) = .ok (updates, total) ∧
        BudgetStore.replaceAll books.store updates now = (.error e, store) ∧
        commit currency now fetched books = (.error (.store e), ⟨store, books.snapshot⟩)) ∨
      ∃ updates total n store,
        batch (snapshotOf currency now fetched) (fetched.map (·.1)) = .ok (updates, total) ∧
        BudgetStore.replaceAll books.store updates now = (.ok n, store) ∧
        commit currency now fetched books =
          (.ok (summaryOf currency fetched total), ⟨store, snapshotOf currency now fetched⟩) := by
  cases hb : batch (snapshotOf currency now fetched) (fetched.map (·.1)) with
  | error e => exact Or.inl ⟨e, rfl, by simp only [commit, hb]⟩
  | ok b =>
    obtain ⟨updates, total⟩ := b
    cases hr : BudgetStore.replaceAll books.store updates now with
    | mk result store =>
      cases result with
      | error e =>
        exact Or.inr (Or.inl ⟨updates, total, e, store, rfl, hr, by simp only [commit, hb, hr]⟩)
      | ok n =>
        exact Or.inr (Or.inr ⟨updates, total, n, store, rfl, hr, by simp only [commit, hb, hr]⟩)

theorem commit_error {currency : String} {now : Instant} {fetched : Fetched} {books : Books σ}
    (whole : ∀ updates e, (BudgetStore.replaceAll books.store updates now).1 = .error e →
      (BudgetStore.replaceAll books.store updates now).2 = books.store)
    {e : SyncError} (h : (commit currency now fetched books).1 = .error e) :
    (commit currency now fetched books).2 = books := by
  obtain ⟨e, -, hc⟩ | ⟨updates, _, e, store, -, hr, hc⟩ | ⟨_, _, _, _, -, -, hc⟩ :=
    commit_cases currency now fetched books
  · rw [hc]
  · have hw := whole updates e (by rw [hr])
    rw [hr] at hw
    rw [hc]
    exact congrArg (fun store => (⟨store, books.snapshot⟩ : Books σ)) hw
  · rw [hc] at h
    cases h

theorem commit_ok {currency : String} {now : Instant} {fetched : Fetched} {books : Books σ}
    {summary : SyncSummary} (h : (commit currency now fetched books).1 = .ok summary) :
    ∃ n store, BudgetStore.replaceAll books.store
        (updatesOf (snapshotOf currency now fetched) (fetched.map (·.1))) now = (.ok n, store) ∧
      (commit currency now fetched books).2 = ⟨store, snapshotOf currency now fetched⟩ := by
  obtain ⟨_, -, hc⟩ | ⟨_, _, _, _, -, -, hc⟩ | ⟨updates, total, n, store, hb, hr, hc⟩ :=
    commit_cases currency now fetched books
  · rw [hc] at h
    cases h
  · rw [hc] at h
    cases h
  · rw [(batch_ok hb).1] at hr
    exact ⟨n, store, hr, by rw [hc]⟩

theorem fetchAll_error_iff (source : String → Reply) (owners : List String) (e : SyncError) :
    fetchAll source owners = .error e ↔
      ∃ owner cause, owners.find? (fun o => !(source o).isOk) = some owner ∧
        source owner = .error cause ∧ e = .fetch owner cause := by
  induction owners with
  | nil => simp [fetchAll]
  | cons owner rest ih =>
    cases hr : source owner with
    | error cause =>
      rw [List.find?_cons_of_pos (by rw [hr]; rfl)]
      simp only [fetchAll, hr]
      constructor
      · intro h
        exact ⟨owner, cause, rfl, hr, (Except.error.inj h).symm⟩
      · rintro ⟨_, _, ho, hs, rfl⟩
        cases ho
        rw [hr] at hs
        cases hs
        rfl
    | ok records =>
      rw [List.find?_cons_of_neg (by rw [hr]; simp [Except.isOk, Except.toBool]), ← ih]
      simp only [fetchAll, hr]
      cases fetchAll source rest <;> simp [Except.map]

theorem ownerTotals_error_iff (s : Snapshot Float) (owners : List String) (e : SyncError) :
    ownerTotals s owners = .error e ↔
      ∃ owner, owners.find? (fun o => !(s.ownerTotal o).isFinite) = some owner ∧
        e = .invalidTotal owner (s.ownerTotal owner) := by
  induction owners with
  | nil => simp [ownerTotals]
  | cons owner rest ih =>
    cases hf : (s.ownerTotal owner).isFinite with
    | false =>
      simp only [ownerTotals, finiteTotal, hf, List.find?_cons, Bool.not_false]
      constructor
      · intro h
        exact ⟨owner, rfl, (Except.error.inj h).symm⟩
      · rintro ⟨_, ho, rfl⟩
        cases ho
        rfl
    | true =>
      simp only [ownerTotals, finiteTotal, hf, List.find?_cons, Bool.not_true]
      rw [← ih]
      cases ownerTotals s rest <;> simp [bind, Except.bind]

/-- The first thing that goes wrong in a sync, and the error that it gives. -/
inductive Cause (currency : String) (now : Instant) (source : String → Reply) (store : σ) :
    SyncError → Prop
  | listing {e : StoreError} (hlist : BudgetStore.list store = .error e) :
      Cause currency now source store (.store e)
  | fetch {ps : List Policy} {owner : String} {e : FetchError}
      (hlist : BudgetStore.list store = .ok ps)
      (hfirst : (listed ps).find? (fun o => !(source o).isOk) = some owner)
      (hreply : source owner = .error e) :
      Cause currency now source store (.fetch owner e)
  | ownerTotal {ps : List Policy} {fetched : Fetched} {owner : String}
      (hlist : BudgetStore.list store = .ok ps)
      (hfetch : fetchAll source (listed ps) = .ok fetched)
      (hfirst : (fetched.map (·.1)).find?
        (fun o => !((snapshotOf currency now fetched).ownerTotal o).isFinite) = some owner) :
      Cause currency now source store
        (.invalidTotal owner ((snapshotOf currency now fetched).ownerTotal owner))
  | platformTotal {ps : List Policy} {fetched : Fetched} {updates : List (String × Float)}
      (hlist : BudgetStore.list store = .ok ps)
      (hfetch : fetchAll source (listed ps) = .ok fetched)
      (howners : ownerTotals (snapshotOf currency now fetched) (fetched.map (·.1)) = .ok updates)
      (htotal : (snapshotOf currency now fetched).total.isFinite = false) :
      Cause currency now source store
        (.invalidTotal platformOwner (snapshotOf currency now fetched).total)
  | write {ps : List Policy} {fetched : Fetched} {updates : List (String × Float)} {total : Float}
      {e : StoreError} (hlist : BudgetStore.list store = .ok ps)
      (hfetch : fetchAll source (listed ps) = .ok fetched)
      (hbatch : batch (snapshotOf currency now fetched) (fetched.map (·.1)) = .ok (updates, total))
      (hwrite : (BudgetStore.replaceAll store updates now).1 = .error e) :
      Cause currency now source store (.store e)

theorem batch_error_iff (s : Snapshot Float) (owners : List String) (e : SyncError) :
    batch s owners = .error e ↔
      ownerTotals s owners = .error e ∨
        ∃ updates, ownerTotals s owners = .ok updates ∧ s.total.isFinite = false ∧
          e = .invalidTotal platformOwner s.total := by
  cases hu : ownerTotals s owners with
  | error e₀ => simp [batch, hu, bind, Except.bind]
  | ok updates =>
    cases hf : s.total.isFinite with
    | false => simp [batch, finiteTotal, hu, hf, bind, Except.bind, eq_comm]
    | true => simp [batch, finiteTotal, hu, hf, bind, Except.bind]

theorem commit_error_iff (currency : String) (now : Instant) (fetched : Fetched) (books : Books σ)
    (e : SyncError) :
    (commit currency now fetched books).1 = .error e ↔
      batch (snapshotOf currency now fetched) (fetched.map (·.1)) = .error e ∨
        ∃ updates total cause,
          batch (snapshotOf currency now fetched) (fetched.map (·.1)) = .ok (updates, total) ∧
            (BudgetStore.replaceAll books.store updates now).1 = .error cause ∧
            e = .store cause := by
  obtain ⟨e₀, hb, hc⟩ | ⟨updates, total, cause, store, hb, hr, hc⟩ |
      ⟨updates, total, n, store, hb, hr, hc⟩ :=
    commit_cases currency now fetched books
  · simp [hb, hc]
  · simp [hb, hc, hr, eq_comm]
  · simp [hb, hc, hr]

theorem run_error_iff (currency : String) (now : Instant) (source : String → Reply)
    (books : Books σ) (e : SyncError) :
    (run currency now source books).1 = .error e ↔ Cause currency now source books.store e := by
  constructor
  · intro h
    cases hl : BudgetStore.list books.store with
    | error cause =>
      simp only [run, start, hl, Except.error.injEq] at h
      rw [← h]
      exact .listing hl
    | ok ps =>
      cases hf : fetchAll source (listed ps) with
      | error e₀ =>
        simp only [run, start, hl, hf, Except.error.injEq] at h
        obtain ⟨owner, cause, hfirst, hreply, rfl⟩ := (fetchAll_error_iff source _ e₀).mp hf
        rw [← h]
        exact .fetch hl hfirst hreply
      | ok fetched =>
        simp only [run, start, hl, hf, commit_error_iff, batch_error_iff, ownerTotals_error_iff] at h
        obtain (⟨_, hfirst, rfl⟩ | ⟨_, hu, ht, rfl⟩) | ⟨_, _, _, hb, hw, rfl⟩ := h
        · exact .ownerTotal hl hf hfirst
        · exact .platformTotal hl hf hu ht
        · exact .write hl hf hb hw
  · intro h
    cases h with
    | listing hl => simp only [run, start, hl]
    | fetch hl hfirst hreply =>
      have hf := (fetchAll_error_iff source _ _).mpr ⟨_, _, hfirst, hreply, rfl⟩
      simp only [run, start, hl, hf]
    | ownerTotal hl hf hfirst =>
      simp only [run, start, hl, hf, commit_error_iff, batch_error_iff, ownerTotals_error_iff]
      exact Or.inl (Or.inl ⟨_, hfirst, rfl⟩)
    | platformTotal hl hf hu ht =>
      simp only [run, start, hl, hf, commit_error_iff, batch_error_iff]
      exact Or.inl (Or.inr ⟨_, hu, ht, trivial⟩)
    | write hl hf hb hw =>
      simp only [run, start, hl, hf, commit_error_iff]
      exact Or.inr ⟨_, _, _, hb, hw, rfl⟩

theorem attempt_error (whole : RefusesWhole σ) {currency : String} {now : Instant}
    {replies : List Reply} {books : Books σ} {e : SyncError}
    (h : (attempt currency now replies books).1 = .error e) :
    (attempt currency now replies books).2 = books := by
  unfold attempt at h ⊢
  cases hs : start books.store with
  | error e => rfl
  | ok p =>
    simp only [hs] at h ⊢
    cases ha : answerAll p replies with
    | error e => rfl
    | ok p' =>
      simp only [ha] at h ⊢
      exact commit_error (fun updates => whole books.store updates now) h

theorem run_error (whole : RefusesWhole σ) {currency : String} {now : Instant}
    {source : String → Reply} {books : Books σ} {e : SyncError}
    (h : (run currency now source books).1 = .error e) :
    (run currency now source books).2 = books := by
  cases hs : start books.store with
  | error e => simp only [run, hs]
  | ok p =>
    rw [run_eq_attempt currency now source books hs] at h ⊢
    exact attempt_error whole h

/-- A failed sync leaves every policy and the snapshot as they were, whatever the replies were and
at whichever of the five things it failed. Of the store it is only needed that it refuses a batch as
a whole, and the policies in memory do. -/
theorem failed_sync_leaves_books :
    RefusesWhole Policies ∧
      ∀ {σ : Type} [BudgetStore σ], RefusesWhole σ →
        ∀ (currency : String) (now : Instant) (books : Books σ),
          (∀ source e, (run currency now source books).1 = .error e →
            (run currency now source books).2 = books) ∧
          (∀ replies e, (attempt currency now replies books).1 = .error e →
            (attempt currency now replies books).2 = books) ∧
          ∀ source e, Cause currency now source books.store e →
            (run currency now source books).1 = .error e := by
  refine ⟨Policies.refusesWhole, fun whole currency now books => ⟨?_, ?_, ?_⟩⟩
  · exact fun source e h => run_error whole h
  · exact fun replies e h => attempt_error whole h
  · exact fun source e h => (run_error_iff currency now source books e).mpr h

def twoOwners : Books Policies :=
  ⟨Policies.ofPolicies [⟨"alice", 100.0, 40.0, none⟩, ⟨"bob", 50.0, 0.0, none⟩,
    ⟨platformOwner, 1000.0, 0.0, none⟩], Snapshot.empty "USD" none⟩

def onlyAlice (owner : String) : Reply :=
  if owner = "alice" then .ok [⟨"EXPLORATORY", 99.0, "USD", ⟨0, 0⟩⟩]
  else .error (.transient "connection reset")

theorem failed_fetch_leaves_two_owners :
    (run "USD" ⟨0, 0⟩ onlyAlice twoOwners).1 = .error (.fetch "bob" (.transient "connection reset")) ∧
      (run "USD" ⟨0, 0⟩ onlyAlice twoOwners).2 = twoOwners := by
  have hfirst : (listed twoOwners.store.values).find? (fun o => !(onlyAlice o).isOk) = some "bob" := by
    decide +kernel
  have h := (run_error_iff "USD" ⟨0, 0⟩ onlyAlice twoOwners _).mpr (.fetch rfl hfirst rfl)
  exact ⟨h, (failed_sync_leaves_books.2 Policies.refusesWhole "USD" ⟨0, 0⟩ twoOwners).1 onlyAlice _ h⟩

end CloudDesk.Sync
