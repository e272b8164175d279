import CloudDesk.Proofs.Billing.Conservation
import CloudDesk.Proofs.Taxonomy.Expansion

namespace CloudDesk

/-- The text itself, or another spelling of the known kind that the text is read as. -/
def Spells (k text : String) : Prop :=
  text = k ∨ ∃ kind, Kind.parse? text = some kind ∧ Kind.parse? k = some kind

theorem spells_iff (k text : String) : Spells k text ↔ Kind.canonical text = Kind.canonical k := by
  constructor
  · rintro (rfl | ⟨kind, htext, hk⟩)
    · rfl
    · rw [Kind.canonical_of_some htext, Kind.canonical_of_some hk]
  · intro h
    have hsame : Kind.parse? text = Kind.parse? k := by
      rw [← Kind.parse?_canonical, h, Kind.parse?_canonical]
    cases hk : Kind.parse? k with
    | some kind => exact .inr ⟨kind, hsame.trans hk, hk⟩
    | none =>
      rw [Kind.canonical_of_none hk, Kind.canonical_of_none (hsame.trans hk)] at h
      exact .inl h

instance (k text : String) : Decidable (Spells k text) :=
  decidable_of_iff _ (spells_iff k text).symm

theorem spells_canonical (k text : String) : Spells k (Kind.canonical text) ↔ Spells k text := by
  rw [spells_iff, spells_iff, Kind.canonical_canonical]

namespace Snapshot

open Taxonomy

variable {α : Type} [Zero α] [Add α]

section

variable {k : String}

theorem selects_singleton (name kind : String) :
    selects [name] kind = true ↔ kind ∈ expandName name := by
  rw [selects_iff, Selected, expand_singleton]
  exact or_iff_right (List.cons_ne_nil name [])

theorem expandName_uncategorized (h : Category.ofName? k = none) : expandName k = [k] := by
  rw [expandName, h]

theorem expandName_canonical (h : Category.ofName? k = none) :
    expandName (Kind.canonical k) = [Kind.canonical k] := by
  cases hk : Kind.parse? k with
  | some kind => rw [Kind.canonical_of_some hk, expandName_kind]
  | none => rw [Kind.canonical_of_none hk, expandName_uncategorized h]

theorem selects_canonical_iff (h : Category.ofName? k = none) {kind : String}
    (hkind : Kind.canonical kind = kind) :
    selects [Kind.canonical k] kind = true ↔ Spells k kind := by
  rw [selects_singleton, expandName_canonical h, List.mem_singleton, spells_iff, hkind]

theorem not_selects_spelling (h : Category.ofName? k = none) (hk : Kind.canonical k ≠ k)
    {kind : String} (hkind : Kind.canonical kind = kind) : ¬ selects [k] kind = true := by
  rw [selects_singleton, expandName_uncategorized h, List.mem_singleton]
  rintro rfl
  exact hk hkind

end

section

variable {currency : String} {syncedAt : Option Instant} {es : List (Entry α)} {k : String}

theorem lines_of_kind (h : Category.ofName? k = none) (owner : Option String) :
    (entered currency syncedAt es).lines owner [Kind.canonical k] =
      (entered currency syncedAt (es.map (Entry.keeping fun text => decide (Spells k text)))).lines
        owner [] := by
  apply lines_congr entered_sorted entered_sorted names_keeping.symm
  intro name _
  rw [byCategory_eq, byCategory_eq, entries_keeping fun text => by simp only [spells_canonical]]
  rw [List.filter_filter]
  congr 2
  apply List.filter_congr
  intro e he
  have hkind := selects_canonical_iff h (canonical_of_mem_entered he)
  rw [Bool.eq_iff_iff, hkind, Bool.and_eq_true, decide_eq_true_eq]
  exact (and_iff_right rfl).symm

theorem mem_names_entered {name kind : String} :
    kind ∈ ((entered currency syncedAt es).kindsOf name).names ↔
      ∃ text value, .amount name text value ∈ es ∧ Kind.canonical text = kind := by
  constructor
  · intro h
    obtain ⟨e, he, rfl⟩ := List.mem_map.mp h
    exact amount_of_mem_entered he
  · rintro ⟨text, value, he, rfl⟩
    have hamount : (Entry.amount name text value).amountOf name = some (Kind.canonical text, value) :=
      if_pos rfl
    rw [kindsOf_entered, names_tally, mem_ascending]
    exact List.mem_map.mpr ⟨_, List.mem_filterMap.mpr ⟨_, he, hamount⟩, rfl⟩

theorem lines_eq_nil_iff {owner : Option String} {categories : List String} :
    (entered currency syncedAt es).lines owner categories = [] ↔
      ∀ name text value, .amount name text value ∈ es → passes owner name = true →
        ¬ selects categories (Kind.canonical text) = true := by
  have hordered : (entered currency syncedAt es).InOrder :=
    (empty_inOrder currency syncedAt).enterAll es
  have hlines := (report_complete hordered owner categories).lines
  constructor
  · intro h name text value he hname hselected
    have hline := (hlines name (typeName (Kind.canonical text))).mpr
      ⟨(passes_iff owner name).mp hname, _, mem_names_entered.mpr ⟨text, value, he, rfl⟩, rfl,
        (selects_iff categories _).mp hselected⟩
    obtain ⟨l, hl, -⟩ := hline
    exact List.ne_nil_of_mem hl h
  · intro h
    rw [List.eq_nil_iff_forall_not_mem]
    intro l hl
    obtain ⟨hname, kind, hkind, -, hselected⟩ := (hlines l.owner l.resourceType).mp ⟨l, hl, rfl, rfl⟩
    obtain ⟨text, value, he, rfl⟩ := mem_names_entered.mp hkind
    exact h l.owner text value he ((passes_iff owner l.owner).mpr hname)
      ((selects_iff categories _).mpr hselected)

theorem lines_of_spelling (h : Category.ofName? k = none) (hk : Kind.canonical k ≠ k)
    (owner : Option String) : (entered currency syncedAt es).lines owner [k] = [] :=
  lines_eq_nil_iff.mpr fun _ text _ _ _ => not_selects_spelling h hk (Kind.canonical_canonical text)

theorem lines_of_kind_eq_nil_iff (h : Category.ofName? k = none) {owner : Option String} :
    (entered currency syncedAt es).lines owner [Kind.canonical k] = [] ↔
      ∀ name text value, .amount name text value ∈ es → passes owner name = true →
        ¬ Spells k text := by
  simp only [lines_eq_nil_iff, selects_canonical_iff h (Kind.canonical_canonical _), spells_canonical]

end

/-- A text that is no category is a kind to report on. Its canonical text covers what was entered
under any spelling of it, and nothing else. The text itself does so only if it is the canonical one;
any other spelling has an empty report, which is the same only if there is nothing to cover. -/
theorem canonical_kind_covers_spellings (currency : String) (syncedAt : Option Instant)
    (es : List (Entry α)) (owner : Option String) {k : String} (h : Category.ofName? k = none) :
    (entered currency syncedAt es).report owner [Kind.canonical k] =
        (entered currency syncedAt
          (es.map (Entry.keeping fun text => decide (Spells k text)))).report owner [] ∧
      (Kind.canonical k ≠ k →
        (entered currency syncedAt es).report owner [k] = ⟨currency, syncedAt, 0, []⟩) ∧
      ((entered currency syncedAt es).report owner [k] =
          (entered currency syncedAt es).report owner [Kind.canonical k] ↔
        Kind.canonical k = k ∨ ∀ name text value, .amount name text value ∈ es →
          passes owner name = true → ¬ Spells k text) := by
  have hreport : ∀ (es : List (Entry α)) (categories : List String),
      (entered currency syncedAt es).report owner categories =
        let lines := (entered currency syncedAt es).lines owner categories
        ⟨currency, syncedAt, CloudDesk.total (lines.map ReportLine.amount), lines⟩ := by
    intro es categories
    rw [report, entered, enterAll_currency, enterAll_syncedAt]
    rfl
  refine ⟨?_, fun hk => ?_, ?_⟩
  · simp only [hreport, lines_of_kind h]
  · rw [hreport, lines_of_spelling h hk]
    rfl
  · rw [← lines_of_kind_eq_nil_iff h]
    by_cases hk : Kind.canonical k = k
    · simp only [hk, true_or]
    · rw [or_iff_right hk, hreport, hreport, lines_of_spelling h hk]
      constructor
      · intro hsame
        exact (congrArg Report.lines hsame).symm
      · intro hnil
        rw [hnil]

def spelledBuckets : List (Entry Float) :=
  [.amount "alice" "Edge_Bucket" 1.0, .amount "alice" "EDGE_BUCKET" 2.0, .amount "bob" "gpu" 4.0]

theorem spelled_buckets_covered :
    Category.ofName? "edge_bucket" = none ∧
      (entered "USD" none spelledBuckets).report none ["EDGE_BUCKET"] =
        (entered "USD" none [.amount "alice" "Edge_Bucket" 1.0, .amount "alice" "EDGE_BUCKET" 2.0,
          .owner "bob"]).report none [] ∧
      ((entered "USD" none spelledBuckets).report none ["EDGE_BUCKET"]).lines =
        [⟨"alice", "Bucket", 3.0⟩] ∧
      ((entered "USD" none spelledBuckets).report none ["edge_bucket"]).lines = [] := by
  have hname : Category.ofName? "edge_bucket" = none := by decide
  have hcanonical : Kind.canonical "edge_bucket" = "EDGE_BUCKET" := by decide
  obtain ⟨hcovered, hempty, -⟩ :=
    canonical_kind_covers_spellings "USD" none spelledBuckets none hname
  rw [hcanonical] at hcovered hempty
  refine ⟨hname, hcovered.trans ?_, ?_, ?_⟩
  · decide +kernel
  · rw [hcovered]
    decide +kernel
  · rw [hempty (by decide)]

def spelledBucket : List (Entry Float) := [.amount "alice" "edge_bucket" 1.0]

/-- An amount is stored under the canonical text, where the text that it came under does not find
it. -/
theorem spelling_finds_nothing :
    Category.ofName? "edge_bucket" = none ∧
      ((entered "USD" none spelledBucket).report none ["edge_bucket"]).lines = [] ∧
      ((entered "USD" none spelledBucket).report none [Kind.canonical "edge_bucket"]).lines =
        [⟨"alice", "Bucket", 1.0⟩] ∧
      (entered "USD" none spelledBucket).report none ["edge_bucket"] ≠
        (entered "USD" none spelledBucket).report none [Kind.canonical "edge_bucket"] := by
  decide +kernel

end Snapshot

end CloudDesk
