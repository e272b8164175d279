import CloudDesk.Proofs.Billing.Sync

namespace CloudDesk.Sync

open Text

def owners (t : Policies) : List String := t.names.filter (· ≠ platformOwner)

def counted (currency : String) (records : List CostRecord) : List CostRecord :=
  records.filter fun r => sameIgnoringCase r.currency currency

def spendingOn (kind : String) (records : List CostRecord) : Float :=
  total ((records.filter fun r => Kind.canonical r.kind = kind).map CostRecord.amount)

/-- The records that count are added up by kind in their order, then over the kinds in ascending
order. -/
def spending (currency : String) (records : List CostRecord) : Float :=
  total ((Snapshot.ascending ((counted currency records).map fun r => Kind.canonical r.kind)).map
    fun kind => spendingOn kind (counted currency records))

def platformSpending (currency : String) (records : String → List CostRecord)
    (t : Policies) : Float :=
  total ((owners t).map fun owner => spending currency (records owner))

theorem fetchAll_ok {source : String → Reply} {records : String → List CostRecord}
    {owners : List String} (h : ∀ owner ∈ owners, source owner = .ok (records owner)) :
    fetchAll source owners = .ok (owners.map fun owner => (owner, records owner)) := by
  induction owners with
  | nil => rfl
  | cons owner rest ih =>
    simp only [fetchAll, h owner List.mem_cons_self,
      ih fun o ho => h o (List.mem_cons_of_mem owner ho)]
    rfl

theorem listed_values {t : Policies} (h : t.InOrder) : listed t.values = owners t := by
  unfold listed owners Table.values Table.names
  rw [List.filter_map, List.filter_map, List.map_map]
  have hfiled : ∀ e ∈ t.entries, e.2.owner = e.1 := h.filed
  have hfilter : t.entries.filter ((fun p : Policy => !p.isPlatform) ∘ (·.2)) =
      t.entries.filter ((fun name => decide (name ≠ platformOwner)) ∘ (·.1)) := by
    apply List.filter_congr
    intro e he
    simp [Policy.isPlatform, hfiled e he, beq_eq_decide]
  rw [hfilter]
  apply List.map_congr_left
  intro e he
  exact hfiled e (List.mem_of_mem_filter he)

theorem mem_owners (t : Policies) (owner : String) :
    owner ∈ owners t ↔ owner ≠ platformOwner ∧ t.contains owner = true := by
  rw [owners, List.mem_filter, decide_eq_true_eq, Table.mem_names_iff, and_comm]

theorem owners_pairwise {t : Policies} (h : t.InOrder) : (owners t).Pairwise (· < ·) :=
  h.sorted.names_pairwise.filter _

section

variable {currency : String} {now : Instant} {records : String → List CostRecord}
  {owners : List String}

theorem amountOf_entriesOf (currency : String) (f : String × List CostRecord) (owner : String) :
    (entriesOf currency f).filterMap (Snapshot.Entry.amountOf owner) =
      if f.1 = owner then (counted currency f.2).map fun r => (Kind.canonical r.kind, r.amount)
      else [] := by
  have hamounts : ∀ rs : List CostRecord,
      (rs.map fun r => Snapshot.Entry.amount f.1 r.kind r.amount).filterMap
          (Snapshot.Entry.amountOf owner) =
        if f.1 = owner then rs.map fun r => (Kind.canonical r.kind, r.amount) else [] := by
    intro rs
    induction rs with
    | nil => simp
    | cons r rest ih =>
      rw [List.map_cons, List.filterMap_cons, ih]
      split_ifs with h <;> simp [Snapshot.Entry.amountOf, h]
  exact hamounts (f.2.filter (counts currency))

theorem amountOf_fetched (currency : String) (fetched : Fetched) (owner : String) :
    (fetched.flatMap (entriesOf currency)).filterMap (Snapshot.Entry.amountOf owner) =
      (fetched.filter fun f => f.1 = owner).flatMap fun f =>
        (counted currency f.2).map fun r => (Kind.canonical r.kind, r.amount) := by
  induction fetched with
  | nil => rfl
  | cons f rest ih =>
    rw [List.flatMap_cons, List.filterMap_append, amountOf_entriesOf, ih]
    by_cases h : f.1 = owner
    · rw [if_pos h, List.filter_cons_of_pos (by simpa using h), List.flatMap_cons]
    · rw [if_neg h, List.filter_cons_of_neg (by simpa using h), List.nil_append]

theorem kindsOf_snapshotOf (hnodup : owners.Nodup) {owner : String} (ho : owner ∈ owners) :
    (snapshotOf currency now (owners.map fun o => (o, records o))).kindsOf owner =
      Snapshot.tally Table.empty
        ((counted currency (records owner)).map fun r => (Kind.canonical r.kind, r.amount)) := by
  have hself : owners.filter (fun o => decide (o = owner)) = [owner] := by
    rw [List.filter_eq, List.count_eq_one_of_mem hnodup ho, List.replicate_one]
  have hown : (owners.map fun o => (o, records o)).filter (fun f => decide (f.1 = owner)) =
      [(owner, records owner)] := by
    rw [List.filter_map]
    exact congrArg (List.map fun o => (o, records o)) hself
  rw [snapshotOf, Snapshot.kindsOf_enterAll, amountOf_fetched, hown, List.flatMap_singleton]
  rfl

theorem ownerTotal_snapshotOf (hnodup : owners.Nodup) {owner : String} (ho : owner ∈ owners) :
    (snapshotOf currency now (owners.map fun o => (o, records o))).ownerTotal owner =
      spending currency (records owner) := by
  rw [Snapshot.ownerTotal, kindsOf_snapshotOf hnodup ho, Snapshot.values_tally, List.map_map]
  apply congrArg total
  apply List.map_congr_left
  intro kind _
  rw [Snapshot.amountsUnder, List.filter_map, List.map_map]
  rfl

theorem names_snapshotOf (hsorted : owners.Pairwise (· < ·)) :
    (snapshotOf currency now (owners.map fun o => (o, records o))).owners.names = owners := by
  have hs : (snapshotOf currency now (owners.map fun o => (o, records o))).owners.Sorted :=
    Snapshot.enterAll_sorted Table.sorted_empty _
  refine hs.names_eq hsorted fun owner => ?_
  rw [contains_snapshotOf, List.map_map]
  simp

theorem total_snapshotOf (hsorted : owners.Pairwise (· < ·)) :
    (snapshotOf currency now (owners.map fun o => (o, records o))).total =
      total (owners.map fun owner => spending currency (records owner)) := by
  rw [Snapshot.total, names_snapshotOf hsorted]
  apply congrArg total
  apply List.map_congr_left
  intro owner ho
  exact ownerTotal_snapshotOf (hsorted.imp ne_of_lt) ho

end

theorem isFinite_of_isAmount {x : Float} (h : isAmount x = true) : x.isFinite = true :=
  (Bool.and_eq_true_iff.mp h).1

theorem ownerTotals_of_finite {s : Snapshot Float} {owners : List String}
    (h : ∀ owner ∈ owners, (s.ownerTotal owner).isFinite = true) :
    ownerTotals s owners = .ok (owners.map fun owner => (owner, s.ownerTotal owner)) := by
  induction owners with
  | nil => rfl
  | cons owner rest ih =>
    have hrest := ih fun o ho => h o (List.mem_cons_of_mem owner ho)
    simp only [ownerTotals, finiteTotal, h owner List.mem_cons_self, hrest]
    rfl

theorem batch_of_finite {s : Snapshot Float} {owners : List String}
    (howners : ∀ owner ∈ owners, (s.ownerTotal owner).isFinite = true)
    (htotal : s.total.isFinite = true) : batch s owners = .ok (updatesOf s owners, s.total) := by
  simp only [batch, ownerTotals_of_finite howners, finiteTotal, htotal]
  rfl

/-- What policies, snapshot and summary show when the records of all owners have been taken in. -/
structure Posted (currency : String) (now : Instant) (records : String → List CostRecord)
    (t : Policies) (summary : SyncSummary) (books : Books Policies) : Prop where
  ordered : books.store.InOrder
  policies : ∀ owner, books.store.get? owner = (t.get? owner).map fun p =>
    { p with
      accrued := if owner = platformOwner then platformSpending currency records t
        else spending currency (records owner)
      refreshedAt := some now }
  listed : books.snapshot.owners.names = owners t
  ownerTotals : ∀ owner ∈ owners t,
    books.snapshot.ownerTotal owner = spending currency (records owner)
  platformTotal : books.snapshot.total = platformSpending currency records t
  stamped : books.snapshot.currency = currency ∧ books.snapshot.syncedAt = some now
  counted : summary.owners = (owners t).length ∧
    summary.records = ((owners t).flatMap fun owner => counted currency (records owner)).length
  complete : summary.records + summary.skipped = ((owners t).flatMap records).length
  total : summary.total = platformSpending currency records t

theorem summaryOf_counts (currency : String) (records : String → List CostRecord)
    (owners : List String) (total : Float) :
    let summary := summaryOf currency (owners.map fun o => (o, records o)) total
    summary.owners = owners.length ∧
      summary.records = (owners.flatMap fun owner => counted currency (records owner)).length ∧
      summary.records + summary.skipped = (owners.flatMap records).length := by
  intro summary
  have hall : (owners.map fun o => (o, records o)).flatMap (·.2) = owners.flatMap records :=
    List.flatMap_map _ _ _
  have hle := List.length_filter_le (counts currency) (owners.flatMap records)
  refine ⟨List.length_map _, ?_, ?_⟩
  · simp only [summary, summaryOf, hall, List.filter_flatMap]
    rfl
  · simp only [summary, summaryOf, hall]
    omega

theorem get?_posted (t : Policies) (s : Snapshot Float) (now : Instant) (owner : String) :
    (Policies.writeAll now (updatesOf s (owners t)) t).2.get? owner =
      (t.get? owner).map fun p =>
        { p with
          accrued := if owner = platformOwner then s.total else s.ownerTotal owner
          refreshedAt := some now } := by
  rw [Policies.get?_writeAll, lastFor_updatesOf]
  by_cases hp : owner = platformOwner
  · rw [if_pos hp, if_pos hp]
    rfl
  · rw [if_neg hp, if_neg hp]
    by_cases ho : owner ∈ owners t
    · rw [if_pos ho]
      rfl
    · have hnone : t.get? owner = none := by
        rw [mem_owners] at ho
        simpa [hp, Table.contains] using ho
      rw [hnone, Option.map_none, Option.map_none]

section

variable {t : Policies} (ordered : t.InOrder) (currency : String) (now : Instant)
  (records : String → List CostRecord)

def answers (records : String → List CostRecord) (t : Policies) : Fetched :=
  (owners t).map fun owner => (owner, records owner)

def booksFrom (currency : String) (now : Instant) (records : String → List CostRecord)
    (t : Policies) : Books Policies :=
  let snapshot := snapshotOf currency now (answers records t)
  ⟨(Policies.writeAll now (updatesOf snapshot (owners t)) t).2, snapshot⟩

include ordered

theorem ownerTotal_answers {owner : String} (ho : owner ∈ owners t) :
    (snapshotOf currency now (answers records t)).ownerTotal owner =
      spending currency (records owner) :=
  ownerTotal_snapshotOf ((owners_pairwise ordered).imp ne_of_lt) ho

theorem total_answers :
    (snapshotOf currency now (answers records t)).total = platformSpending currency records t :=
  total_snapshotOf (owners_pairwise ordered)

theorem booksFrom_posted :
    Posted currency now records t
      (summaryOf currency (answers records t) (platformSpending currency records t))
      (booksFrom currency now records t) := by
  obtain ⟨hcount, hcounted, hcomplete⟩ :=
    summaryOf_counts currency records (owners t) (platformSpending currency records t)
  refine {
    ordered := Policies.writeAll_inOrder now _ ordered
    policies := fun owner => ?_
    listed := names_snapshotOf (owners_pairwise ordered)
    ownerTotals := fun owner ho => ownerTotal_answers ordered currency now records ho
    platformTotal := total_answers ordered currency now records
    stamped := ⟨Snapshot.enterAll_currency _ _, snapshotOf_syncedAt currency now _⟩
    counted := ⟨hcount, hcounted⟩
    complete := hcomplete
    total := rfl }
  simp only [booksFrom]
  rw [get?_posted, total_answers ordered]
  cases hp : t.get? owner with
  | none => rfl
  | some p =>
    by_cases ho : owner = platformOwner
    · rw [if_pos ho, if_pos ho]
    · have howner : owner ∈ owners t :=
        (mem_owners t owner).mpr ⟨ho, by rw [Table.contains, hp]; rfl⟩
      rw [if_neg ho, if_neg ho, ownerTotal_answers ordered currency now records howner]

variable {records}
  (howners : ∀ owner ∈ owners t, isAmount (spending currency (records owner)) = true)
  (hplatform : isAmount (platformSpending currency records t) = true)

include howners hplatform

theorem batch_answers :
    batch (snapshotOf currency now (answers records t)) ((answers records t).map (·.1)) =
      .ok (updatesOf (snapshotOf currency now (answers records t)) (owners t),
        platformSpending currency records t) := by
  have hnames : (answers records t).map (·.1) = owners t := by
    rw [answers, List.map_map]
    exact List.map_id _
  have htotal := total_answers ordered currency now records
  rw [hnames, ← htotal]
  apply batch_of_finite
  · intro owner ho
    rw [ownerTotal_answers ordered currency now records ho]
    exact isFinite_of_isAmount (howners owner ho)
  · rw [htotal]
    exact isFinite_of_isAmount hplatform

theorem updates_answers :
    ∀ u ∈ updatesOf (snapshotOf currency now (answers records t)) (owners t),
      isAmount u.2 = true := by
  intro u hu
  obtain hu | hu := List.mem_append.mp hu
  · obtain ⟨owner, ho, rfl⟩ := List.mem_map.mp hu
    rw [ownerTotal_answers ordered currency now records ho]
    exact howners owner ho
  · rw [List.mem_singleton.mp hu, total_answers ordered]
    exact hplatform

end

/-- A sync whose source answers for all owners, with totals that can be spent, succeeds. -/
theorem successful_sync_posts_spending {t : Policies} (ordered : t.InOrder) (currency : String)
    (now : Instant) (snapshot : Snapshot Float) (source : String → Reply)
    (records : String → List CostRecord)
    (hsource : ∀ owner ∈ owners t, source owner = .ok (records owner))
    (howners : ∀ owner ∈ owners t, isAmount (spending currency (records owner)) = true)
    (hplatform : isAmount (platformSpending currency records t) = true) :
    ∃ summary books, run currency now source ⟨t, snapshot⟩ = (.ok summary, books) ∧
      Posted currency now records t summary books := by
  refine ⟨_, _, ?_, booksFrom_posted ordered currency now records⟩
  have hstart : start t = .ok ⟨listed t.values, []⟩ := rfl
  have hfetch : fetchAll source (listed t.values) = .ok (answers records t) := by
    rw [listed_values ordered, fetchAll_ok hsource]
    rfl
  have hbatch := batch_answers ordered currency now howners hplatform
  have hwrite : BudgetStore.replaceAll t
      (updatesOf (snapshotOf currency now (answers records t)) (owners t)) now =
      (.ok _, (booksFrom currency now records t).store) :=
    congrArg (Policies.refused id)
      (t.replaceAll_of_amounts now (updates_answers ordered currency now howners hplatform))
  simp only [run, hstart, hfetch, commit, hbatch, hwrite]
  rfl

def mixedCosts (owner : String) : List CostRecord :=
  if owner = "alice" then
    [⟨"edge_bucket", 12.5, "usd", ⟨0, 0⟩⟩, ⟨"EXPLORATORY", 99.0, "EUR", ⟨0, 0⟩⟩,
      ⟨"EDGE_BUCKET", 2.5, "USD", ⟨0, 0⟩⟩]
  else if owner = "bob" then [⟨"COMPUTATIONAL", 20.0, "Usd", ⟨0, 0⟩⟩]
  else []

def spentBefore : Policies :=
  .ofPolicies [⟨"alice", 100.0, 40.0, none⟩, ⟨"bob", 50.0, 0.0, none⟩, ⟨"carol", 5.0, 4.0, none⟩,
    ⟨platformOwner, 1000.0, 44.0, none⟩]

theorem three_owners_are_posted :
    ∃ summary books,
      run "USD" ⟨60, 0⟩ (fun owner => .ok (mixedCosts owner))
          ⟨spentBefore, Snapshot.empty "USD" none⟩ = (.ok summary, books) ∧
        summary.owners = 3 ∧ summary.records = 3 ∧ summary.skipped = 1 ∧ summary.total = 35.0 ∧
        books.store.get? "alice" = some ⟨"alice", 100.0, 15.0, some ⟨60, 0⟩⟩ ∧
        books.store.get? "carol" = some ⟨"carol", 5.0, 0.0, some ⟨60, 0⟩⟩ ∧
        books.store.get? platformOwner = some ⟨platformOwner, 1000.0, 35.0, some ⟨60, 0⟩⟩ := by
  obtain ⟨summary, books, hrun, posted⟩ := successful_sync_posts_spending
    (Policies.ofPolicies_inOrder _) "USD" ⟨60, 0⟩ (Snapshot.empty "USD" none)
    (fun owner => .ok (mixedCosts owner)) mixedCosts (t := spentBefore)
    (fun _ _ => rfl) (by decide +kernel) (by decide +kernel)
  have hcounts : summary.records = 3 := by
    rw [posted.counted.2]
    decide +kernel
  have hcomplete : summary.records + summary.skipped = 4 := by
    rw [posted.complete]
    decide +kernel
  refine ⟨summary, books, hrun, ?_, hcounts, by omega, ?_, ?_, ?_, ?_⟩
  · rw [posted.counted.1]
    decide +kernel
  · rw [posted.total]
    decide +kernel
  all_goals
    rw [posted.policies]
    decide +kernel

end CloudDesk.Sync
