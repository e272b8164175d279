import CloudDesk.Billing.Report
import CloudDesk.Proofs.Billing.Snapshot
import CloudDesk.Proofs.Taxonomy

namespace CloudDesk.Snapshot

open Taxonomy

variable {α : Type} [Zero α] [Add α]

/-- The text is the name of the category and no kind. -/
def Stray (c : Category) (kind : String) : Prop := kind = c.name ∧ Kind.parse? kind = none

instance (c : Category) (kind : String) : Decidable (Stray c kind) :=
  inferInstanceAs (Decidable (_ ∧ _))

/-- The entry, of an amount under a text of some other form only the owner. -/
def Entry.keeping (p : String → Bool) : Entry α → Entry α
  | .amount name kind value => if p kind then .amount name kind value else .owner name
  | .owner name => .owner name

def Entry.withoutStray (c : Category) : Entry α → Entry α
  | .amount name kind value => if Stray c kind then .owner name else .amount name kind value
  | .owner name => .owner name

theorem selects_name (c : Category) (kind : String) :
    selects [c.name] kind = true ↔ kind ∈ expand [c.name] := by
  simp [selects]

theorem byCategory_eq (categories : List String) (kinds : Table α) :
    byCategory categories kinds = tally Table.empty
      ((kinds.entries.filter fun e => selects categories e.1).map fun e => (typeName e.1, e.2)) := by
  rw [tally, List.foldl_map]
  rfl

theorem byCategory_filter {c : Category} {kinds : Table α}
    (h : ∀ e ∈ kinds.entries, typeName e.1 = c.name ↔ e.1 ∈ expand [c.name]) :
    ((byCategory [] kinds).entries.filter fun l => decide (l.1 = c.name)) =
      (byCategory [c.name] kinds).entries := by
  have hall : (kinds.entries.filter fun e => selects [] e.1) = kinds.entries :=
    List.filter_eq_self.mpr fun _ _ => rfl
  have hsame : (kinds.entries.filter fun e => decide (typeName e.1 = c.name)) =
      kinds.entries.filter fun e => selects [c.name] e.1 := by
    apply List.filter_congr
    intro e he
    rw [Bool.eq_iff_iff, decide_eq_true_eq, h e he, selects_name]
  rw [byCategory_eq, byCategory_eq, hall]
  rw [entries_tally_filter _ fun name => decide (name = c.name), List.filter_map, ← hsame]
  rfl

theorem ownerLines_filter {c : Category} {e : String × Table α}
    (h : ∀ k ∈ e.2.entries, typeName k.1 = c.name ↔ k.1 ∈ expand [c.name]) :
    ((ownerLines [] e).filter fun l => decide (l.resourceType = c.name)) =
      ownerLines [c.name] e := by
  rw [ownerLines, List.filter_map, ownerLines, ← byCategory_filter h]
  rfl

theorem lines_eq {s : Snapshot α} (h : s.owners.Sorted) (owner : Option String)
    (categories : List String) :
    s.lines owner categories = (s.owners.names.filter (passes owner)).flatMap fun name =>
      ownerLines categories (name, s.kindsOf name) := by
  have hentries : s.owners.entries = s.owners.names.map fun name => (name, s.kindsOf name) := by
    rw [Table.names, List.map_map]
    symm
    apply (List.map_congr_left fun e he => ?_).trans (List.map_id _)
    have hget := (h.get?_eq_some_iff e.1 e.2).mpr he
    simp [kindsOf, hget]
  rw [lines, hentries, List.filter_map, List.flatMap_map]
  rfl

theorem lines_congr {s s' : Snapshot α} (hs : s.owners.Sorted) (hs' : s'.owners.Sorted)
    (hnames : s.owners.names = s'.owners.names) {owner : Option String}
    {categories categories' : List String} (h : ∀ name, passes owner name = true →
      byCategory categories (s.kindsOf name) = byCategory categories' (s'.kindsOf name)) :
    s.lines owner categories = s'.lines owner categories' := by
  rw [lines_eq hs, lines_eq hs', hnames]
  apply List.flatMap_congr
  intro name hname
  simp only [ownerLines, h name (List.mem_filter.mp hname).2]

def entered (currency : String) (syncedAt : Option Instant) (es : List (Entry α)) : Snapshot α :=
  (empty currency syncedAt).enterAll es

section

variable {currency : String} {syncedAt : Option Instant} {es : List (Entry α)}

theorem entered_sorted : (entered currency syncedAt es).owners.Sorted :=
  enterAll_sorted Table.sorted_empty es

theorem kindsOf_entered (name : String) :
    (entered currency syncedAt es).kindsOf name =
      tally Table.empty (es.filterMap (Entry.amountOf name)) :=
  kindsOf_enterAll (empty currency syncedAt) es name

theorem amount_of_mem_entered {name : String} {k : String × α}
    (hk : k ∈ ((entered currency syncedAt es).kindsOf name).entries) :
    ∃ kind value, Entry.amount name kind value ∈ es ∧ Kind.canonical kind = k.1 := by
  have hname : k.1 ∈ ((entered currency syncedAt es).kindsOf name).names :=
    List.mem_map_of_mem hk
  rw [kindsOf_entered, names_tally, mem_ascending, List.mem_map] at hname
  obtain ⟨a, ha, hak⟩ := hname
  obtain ⟨e, he, hamount⟩ := List.mem_filterMap.mp ha
  cases e with
  | amount o kind value =>
    simp only [Entry.amountOf] at hamount
    split_ifs at hamount with ho
    cases hamount
    exact ⟨kind, value, ho ▸ he, hak⟩
  | owner o => cases hamount

theorem canonical_of_mem_entered {name : String} {k : String × α}
    (hk : k ∈ ((entered currency syncedAt es).kindsOf name).entries) :
    Kind.canonical k.1 = k.1 := by
  obtain ⟨kind, value, -, h⟩ := amount_of_mem_entered hk
  rw [← h, Kind.canonical_canonical]

section

variable {p : String → Bool}

omit [Zero α] [Add α] in
theorem about_keeping (e : Entry α) : (e.keeping p).about = e.about := by
  cases e with
  | amount name kind value =>
    simp only [Entry.keeping]
    split_ifs <;> rfl
  | owner name => rfl

omit [Zero α] [Add α] in
theorem amountOf_keeping (hp : ∀ kind, p (Kind.canonical kind) = p kind) (name : String)
    (e : Entry α) : (e.keeping p).amountOf name = (e.amountOf name).filter fun a => p a.1 := by
  cases e with
  | amount o kind value =>
    by_cases hkind : p kind = true <;> by_cases ho : o = name <;>
      simp [Entry.keeping, Entry.amountOf, hkind, ho, hp, Option.filter]
  | owner o => rfl

theorem names_keeping :
    (entered currency syncedAt (es.map (Entry.keeping p))).owners.names =
      (entered currency syncedAt es).owners.names := by
  apply entered_sorted.names_eq entered_sorted.names_pairwise
  intro name
  rw [Table.mem_names_iff, entered, entered, contains_enterAll, contains_enterAll]
  simp [about_keeping]

theorem entries_keeping (hp : ∀ kind, p (Kind.canonical kind) = p kind) (name : String) :
    ((entered currency syncedAt (es.map (Entry.keeping p))).kindsOf name).entries =
      ((entered currency syncedAt es).kindsOf name).entries.filter fun k => p k.1 := by
  have hamounts : (es.map (Entry.keeping p)).filterMap (Entry.amountOf name) =
      (es.filterMap (Entry.amountOf name)).filter fun a => p a.1 := by
    rw [List.filterMap_map, List.filter_filterMap]
    exact List.filterMap_congr fun e _ => amountOf_keeping hp name e
  rw [kindsOf_entered, kindsOf_entered, hamounts]
  exact (entries_tally_filter _ p).symm

end

theorem stray_canonical (c : Category) (kind : String) :
    Stray c (Kind.canonical kind) ↔ Stray c kind := by
  unfold Stray
  rw [Kind.parse?_canonical]
  apply and_congr_left
  intro h
  rw [Kind.canonical_of_none h]

/-- Apart from stray texts, what is shown under a category is what is selected by it. -/
theorem shown_iff_selected {c : Category} {kind : String} (hc : Kind.canonical kind = kind)
    (h : ¬ Stray c kind) : typeName kind = c.name ↔ kind ∈ expand [c.name] := by
  rw [typeName_eq_name c hc]
  exact or_iff_left h

theorem not_stray_of_selected {c : Category} {kind : String} (h : kind ∈ expand [c.name]) :
    ¬ Stray c kind := by
  obtain ⟨k, -, rfl⟩ := (mem_expand_name c kind).mp h
  simp [Stray]

omit [Zero α] [Add α] in
theorem withoutStray_eq (c : Category) :
    (Entry.withoutStray c : Entry α → Entry α) = Entry.keeping fun kind => decide (¬ Stray c kind) := by
  funext e
  cases e with
  | amount name kind value =>
    by_cases h : Stray c kind <;> simp [Entry.withoutStray, Entry.keeping, h]
  | owner name => rfl

theorem names_withoutStray (c : Category) :
    (entered currency syncedAt (es.map (Entry.withoutStray c))).owners.names =
      (entered currency syncedAt es).owners.names := by
  rw [withoutStray_eq]
  exact names_keeping

theorem entries_withoutStray (c : Category) (name : String) :
    ((entered currency syncedAt (es.map (Entry.withoutStray c))).kindsOf name).entries =
      ((entered currency syncedAt es).kindsOf name).entries.filter fun k =>
        decide (¬ Stray c k.1) := by
  rw [withoutStray_eq]
  apply entries_keeping
  intro kind
  simp only [stray_canonical]

theorem lines_withoutStray (owner : Option String) (c : Category) :
    (entered currency syncedAt (es.map (Entry.withoutStray c))).lines owner [c.name] =
      (entered currency syncedAt es).lines owner [c.name] := by
  apply lines_congr entered_sorted entered_sorted (names_withoutStray c)
  intro name _
  rw [byCategory_eq, byCategory_eq, entries_withoutStray, List.filter_filter]
  congr 2
  apply List.filter_congr
  intro k _
  by_cases hk : selects [c.name] k.1 = true
  · simp [hk, not_stray_of_selected ((selects_name c k.1).mp hk)]
  · simp [hk]

theorem lines_of_no_stray {owner : Option String} {c : Category}
    (h : ∀ name kind value, Entry.amount name kind value ∈ es → passes owner name = true →
      ¬ Stray c kind) (categories : List String) :
    (entered currency syncedAt (es.map (Entry.withoutStray c))).lines owner categories =
      (entered currency syncedAt es).lines owner categories := by
  apply lines_congr entered_sorted entered_sorted (names_withoutStray c)
  intro name hname
  have hkept : ∀ k ∈ ((entered currency syncedAt es).kindsOf name).entries,
      decide (¬ Stray c k.1) = true := by
    intro k hk
    obtain ⟨kind, value, he, hkind⟩ := amount_of_mem_entered hk
    rw [decide_eq_true_eq, ← hkind, stray_canonical]
    exact h name kind value he hname
  rw [byCategory_eq, byCategory_eq, entries_withoutStray, List.filter_eq_self.mpr hkept]

theorem lines_of_category (owner : Option String) (c : Category) :
    (entered currency syncedAt (es.map (Entry.withoutStray c))).lines owner [c.name] =
      ((entered currency syncedAt (es.map (Entry.withoutStray c))).lines owner []).filter
        fun l => decide (l.resourceType = c.name) := by
  rw [lines_eq entered_sorted, lines_eq entered_sorted, List.filter_flatMap]
  apply List.flatMap_congr
  intro name _
  symm
  apply ownerLines_filter
  intro k hk
  apply shown_iff_selected (canonical_of_mem_entered hk)
  rw [entries_withoutStray, List.mem_filter, decide_eq_true_eq] at hk
  exact hk.2

end

/-- The lines of a category are those that are shown under it in the report of all categories, once
the amounts under stray texts are left out; there are none to leave out if no owner that is let
through has any. -/
theorem category_lines_agree (currency : String) (syncedAt : Option Instant)
    (es : List (Entry α)) (owner : Option String) (c : Category) :
    ((entered currency syncedAt es).report owner [c.name]).lines =
        (((entered currency syncedAt (es.map (Entry.withoutStray c))).report owner []).lines.filter
          fun l => decide (l.resourceType = c.name)) ∧
      ((∀ name kind value, Entry.amount name kind value ∈ es → passes owner name = true →
          ¬ Stray c kind) →
        ((entered currency syncedAt es).report owner [c.name]).lines =
          ((entered currency syncedAt es).report owner []).lines.filter
            fun l => decide (l.resourceType = c.name)) := by
  have hlines : (entered currency syncedAt es).lines owner [c.name] =
      ((entered currency syncedAt (es.map (Entry.withoutStray c))).lines owner []).filter
        fun l => decide (l.resourceType = c.name) := by
    rw [← lines_withoutStray, lines_of_category]
  refine ⟨hlines, fun h => ?_⟩
  rw [lines_of_no_stray h] at hlines
  exact hlines

def mixedBuckets : List (Entry Float) :=
  [.amount "alice" "edge_bucket" 2.0, .amount "alice" "SSN_BUCKET" 1.0,
    .amount "alice" "GPU_RESERVATION" 4.0, .amount "bob" "Bucket" 8.0, .owner "carol"]

theorem buckets_of_alice :
    ((entered "USD" none mixedBuckets).report (some "alice") []).lines =
        [⟨"alice", "Bucket", 3.0⟩, ⟨"alice", "GPU_RESERVATION", 4.0⟩] ∧
      ((entered "USD" none mixedBuckets).report (some "alice") ["Bucket"]).lines =
        [⟨"alice", "Bucket", 3.0⟩] := by
  have hall : ((entered "USD" none mixedBuckets).report (some "alice") []).lines =
      [⟨"alice", "Bucket", 3.0⟩, ⟨"alice", "GPU_RESERVATION", 4.0⟩] := by decide +kernel
  refine ⟨hall, ?_⟩
  have hbuckets := (category_lines_agree "USD" none mixedBuckets (some "alice") .bucket).2 (by
    intro name kind value he hname
    simp only [mixedBuckets, List.mem_cons, Entry.amount.injEq, reduceCtorEq, List.not_mem_nil,
      or_false, or_self] at he
    obtain ⟨rfl, rfl, -⟩ | ⟨rfl, rfl, -⟩ | ⟨rfl, rfl, -⟩ | ⟨rfl, rfl, -⟩ := he
    · decide
    · decide
    · decide
    · cases hname)
  rw [hall] at hbuckets
  exact hbuckets

def strayBucket : List (Entry Float) :=
  [.amount "alice" "Bucket" 1.0, .amount "alice" "EDGE_BUCKET" 2.0]

/-- An amount under the name of a category is shown under it and not selected by it. -/
theorem stray_bucket_is_not_selected :
    ((entered "USD" none strayBucket).report none []).lines = [⟨"alice", "Bucket", 3.0⟩] ∧
      ((entered "USD" none strayBucket).report none [Category.bucket.name]).lines =
        [⟨"alice", "Bucket", 2.0⟩] ∧
      ((entered "USD" none strayBucket).report none [Category.bucket.name]).lines ≠
        ((entered "USD" none strayBucket).report none []).lines.filter
          fun l => decide (l.resourceType = Category.bucket.name) := by
  decide +kernel

end CloudDesk.Snapshot
