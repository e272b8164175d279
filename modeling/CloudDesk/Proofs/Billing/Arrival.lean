import CloudDesk.Proofs.Billing.Report

namespace CloudDesk.Snapshot

open Text

variable {α : Type} [Zero α] [Add α]

/-- The amounts of an owner under the kind that texts are stored under, in the order of the entries.
-/
def arrivals (owner kind : String) (es : List (Entry α)) : List α :=
  amountsUnder kind (es.filterMap (Entry.amountOf owner))

/-- The entries are about the same owners and have, of every owner under every kind, the same
amounts in the same order. -/
structure SameArrivals (es es' : List (Entry α)) : Prop where
  owners : ∀ owner, (∃ e ∈ es, e.about = owner) ↔ ∃ e ∈ es', e.about = owner
  amounts : ∀ owner kind, arrivals owner kind es = arrivals owner kind es'

section

variable {currency : String} {syncedAt : Option Instant} {es es' : List (Entry α)}

theorem get?_entered_iff {owner kind : String} {x : α} :
    ((entered currency syncedAt es).kindsOf owner).get? kind = some x ↔
      arrivals owner kind es ≠ [] ∧ x = CloudDesk.total (arrivals owner kind es) := by
  rw [kindsOf_entered, get?_tally_empty_iff]
  rfl

theorem kindsOf_congr (h : SameArrivals es es') (owner : String) :
    (entered currency syncedAt es).kindsOf owner = (entered currency syncedAt es').kindsOf owner := by
  have hsorted : ∀ es : List (Entry α), ((entered currency syncedAt es).kindsOf owner).Sorted := by
    intro es
    rw [kindsOf_entered]
    exact tally_sorted Table.sorted_empty _
  apply (hsorted es).ext (hsorted es')
  intro kind
  apply Option.ext
  intro x
  rw [get?_entered_iff, get?_entered_iff, h.amounts]

omit [Zero α] [Add α] in
theorem get?_owners (s : Snapshot α) (owner : String) :
    s.owners.get? owner = if s.owners.contains owner then some (s.kindsOf owner) else none := by
  rw [Table.contains, kindsOf]
  cases s.owners.get? owner <;> rfl

theorem entered_congr (h : SameArrivals es es') :
    entered currency syncedAt es = entered currency syncedAt es' := by
  have howners : (entered currency syncedAt es).owners = (entered currency syncedAt es').owners := by
    apply entered_sorted.ext entered_sorted
    intro owner
    have hcontains : (entered currency syncedAt es).owners.contains owner =
        (entered currency syncedAt es').owners.contains owner := by
      rw [Bool.eq_iff_iff, entered, entered, contains_enterAll, contains_enterAll, h.owners]
    rw [get?_owners, get?_owners, hcontains, kindsOf_congr h]
  have hcurrency : (entered currency syncedAt es).currency = (entered currency syncedAt es').currency :=
    (enterAll_currency _ es).trans (enterAll_currency _ es').symm
  have hsynced : (entered currency syncedAt es).syncedAt = (entered currency syncedAt es').syncedAt :=
    (enterAll_syncedAt _ es).trans (enterAll_syncedAt _ es').symm
  cases hs : entered currency syncedAt es
  cases hs' : entered currency syncedAt es'
  simp only [hs, hs'] at howners hcurrency hsynced
  rw [howners, hcurrency, hsynced]

end

def amountsWhere (p : String → Bool) (owner : String) (es : List (Entry α)) : List α :=
  es.filterMap fun e => match e with
    | .amount name text value => if name = owner ∧ p text = true then some value else none
    | .owner _ => none

omit [Zero α] [Add α] in
theorem arrivals_eq {p : String → Bool} {kind : String}
    (h : ∀ text, Kind.canonical text = kind ↔ p text = true) (owner : String) (es : List (Entry α)) :
    arrivals owner kind es = amountsWhere p owner es := by
  unfold arrivals amountsUnder amountsWhere
  rw [← List.filterMap_eq_filter, List.filterMap_filterMap, List.map_filterMap]
  apply List.filterMap_congr
  intro e _
  cases e with
  | amount name text value =>
    by_cases hname : name = owner <;> by_cases hp : p text = true <;>
      simp [Entry.amountOf, hname, hp, h]
  | owner name => rfl

theorem canonical_eq_name {text : String} {k : Kind} :
    Kind.canonical text = k.name ↔ sameIgnoringCase k.name text = true := by
  rw [← Kind.parse?_eq_some_iff]
  constructor
  · intro h
    rw [← Kind.parse?_canonical, h, Kind.parse?_name]
  · exact Kind.canonical_of_some

theorem canonical_eq_unknown {text other : String} (h : Kind.parse? other = none) :
    Kind.canonical text = other ↔ (text == other) = true := by
  rw [beq_iff_eq]
  constructor
  · rintro rfl
    rw [Kind.parse?_canonical] at h
    exact (Kind.canonical_of_none h).symm
  · rintro rfl
    exact Kind.canonical_of_none h

theorem kindsOf_touch (s : Snapshot α) (owner name : String) :
    (s.touch owner).kindsOf name = s.kindsOf name := kindsOf_enter s (.owner owner) name

/-- The texts under which amounts are kept: one for all spellings of a known kind, and one for each
text of no known kind. -/
structure KeptApart (s : Snapshot α) (es : List (Entry α)) : Prop where
  canonical : ∀ owner text, (s.kindsOf owner).contains text = true →
    (∃ kind : Kind, kind.name = text) ∨ Kind.parse? text = none
  spellings : ∀ (kind : Kind) owner text other, (s.kindsOf owner).contains text = true →
    (s.kindsOf owner).contains other = true → sameIgnoringCase kind.name text = true →
    sameIgnoringCase kind.name other = true → text = other
  known : ∀ (kind : Kind) owner x, (s.kindsOf owner).get? kind.name = some x ↔
    amountsWhere (sameIgnoringCase kind.name) owner es ≠ [] ∧
      x = CloudDesk.total (amountsWhere (sameIgnoringCase kind.name) owner es)
  unknown : ∀ text, Kind.parse? text = none → ∀ owner x, (s.kindsOf owner).get? text = some x ↔
    amountsWhere (· == text) owner es ≠ [] ∧ x = CloudDesk.total (amountsWhere (· == text) owner es)

theorem entered_keptApart (currency : String) (syncedAt : Option Instant) (es : List (Entry α)) :
    KeptApart (entered currency syncedAt es) es := by
  have hcanonical : ∀ owner text,
      ((entered currency syncedAt es).kindsOf owner).contains text = true →
        Kind.canonical text = text := by
    intro owner text h
    obtain ⟨x, hx⟩ := Option.isSome_iff_exists.mp h
    have hcanonical := canonical_of_mem_entered (Table.mem_entries_of_get? hx)
    exact hcanonical
  refine ⟨?_, ?_, ?_, ?_⟩
  · intro owner text h
    cases hkind : Kind.parse? text with
    | some kind => exact Or.inl ⟨kind, Kind.name_of_canonical (hcanonical owner text h) hkind⟩
    | none => exact Or.inr rfl
  · intro kind owner text other htext hother hsame hsame'
    calc text = Kind.canonical text := (hcanonical owner text htext).symm
      _ = kind.name := canonical_eq_name.mpr hsame
      _ = Kind.canonical other := (canonical_eq_name.mpr hsame').symm
      _ = other := hcanonical owner other hother
  · intro kind owner x
    rw [get?_entered_iff, arrivals_eq fun _ => canonical_eq_name]
  · intro text h owner x
    rw [get?_entered_iff, arrivals_eq fun _ => canonical_eq_unknown h]

/-- Entries that have the same to say of every owner and kind make the same snapshot, with the same
totals and reports. -/
theorem unrelated_entries_commute {es es' : List (Entry α)} (same : SameArrivals es es')
    (currency : String) (syncedAt : Option Instant) :
    entered currency syncedAt es = entered currency syncedAt es' ∧
      (∀ owner, (entered currency syncedAt es).ownerTotal owner =
        (entered currency syncedAt es').ownerTotal owner) ∧
      (entered currency syncedAt es).total = (entered currency syncedAt es').total ∧
      (∀ owner categories, (entered currency syncedAt es).report owner categories =
        (entered currency syncedAt es').report owner categories) ∧
      KeptApart (entered currency syncedAt es) es ∧
      ∀ (s : Snapshot α) (owner name : String), (s.touch owner).kindsOf name = s.kindsOf name := by
  have hsnapshot : entered currency syncedAt es = entered currency syncedAt es' := entered_congr same
  refine ⟨hsnapshot, ?_, ?_, ?_, entered_keptApart currency syncedAt es, kindsOf_touch⟩
  · intro owner
    rw [hsnapshot]
  · rw [hsnapshot]
  · intro owner categories
    rw [hsnapshot]

def arrived : List (Entry Float) :=
  [.amount "alice" "edge_bucket" 0.1, .amount "bob" "GPU" 0.7, .amount "alice" "EDGE_BUCKET" 0.2,
    .owner "carol", .amount "bob" "gpu" 0.3]

def rearranged : List (Entry Float) :=
  [.amount "bob" "gpu" 0.3, .owner "carol", .amount "bob" "GPU" 0.7,
    .amount "alice" "Edge_Bucket" 0.1, .owner "bob", .amount "alice" "edge_bucket" 0.2]

theorem arrived_sameArrivals : SameArrivals arrived rearranged where
  owners owner := by simp [arrived, rearranged, eq_comm, or_comm, or_left_comm]
  amounts owner kind := by
    unfold arrivals
    by_cases halice : owner = "alice"
    · subst halice
      have hsame : arrived.filterMap (Entry.amountOf "alice") =
          rearranged.filterMap (Entry.amountOf "alice") := by decide +kernel
      rw [hsame]
    · by_cases hbob : owner = "bob"
      · subst hbob
        have harrived : arrived.filterMap (Entry.amountOf "bob") = [("GPU", 0.7), ("gpu", 0.3)] := by
          decide +kernel
        have hrearranged : rearranged.filterMap (Entry.amountOf "bob") =
            [("gpu", 0.3), ("GPU", 0.7)] := by decide +kernel
        rw [harrived, hrearranged, amountsUnder, amountsUnder]
        by_cases hkind : kind = "GPU"
        · simp [hkind]
        · simp [List.filter_cons, Ne.symm hkind]
      · simp [arrived, rearranged, List.filterMap_cons, Entry.amountOf, Ne.symm halice, Ne.symm hbob]

theorem rearranged_entries_agree :
    SameArrivals arrived rearranged ∧
      entered "USD" none arrived = entered "USD" none rearranged ∧
      ((entered "USD" none arrived).kindsOf "bob").get? "GPU" = some 0.7 := by
  obtain ⟨hsnapshot, -, -, -, apart, -⟩ :=
    unrelated_entries_commute arrived_sameArrivals "USD" none
  refine ⟨arrived_sameArrivals, hsnapshot, ?_⟩
  rw [apart.unknown "GPU" (by decide)]
  decide +kernel

end CloudDesk.Snapshot
