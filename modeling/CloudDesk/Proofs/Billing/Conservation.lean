import CloudDesk.Proofs.Billing.Report
import CloudDesk.Proofs.Text.ByteOrder
import Mathlib.Algebra.BigOperators.Group.List.Basic
import Mathlib.Algebra.Order.Ring.Rat

namespace CloudDesk

open Taxonomy Text

def ReportLine.Before {α : Type} (l m : ReportLine α) : Prop :=
  utf8 l.owner < utf8 m.owner ∨ l.owner = m.owner ∧ utf8 l.resourceType < utf8 m.resourceType

namespace Snapshot

def Selected (categories : List String) (kind : String) : Prop :=
  categories = [] ∨ kind ∈ expand categories

instance (categories : List String) (kind : String) : Decidable (Selected categories kind) :=
  inferInstanceAs (Decidable (_ ∨ _))

theorem selects_iff (categories : List String) (kind : String) :
    selects categories kind = true ↔ Selected categories kind := by
  simp [selects, Selected]

theorem passes_iff (owner : Option String) (name : String) :
    passes owner name = true ↔ ∀ o ∈ owner, o = name := by
  cases owner <;> simp [passes]

structure InOrder {α : Type} (s : Snapshot α) : Prop where
  owners : s.owners.Sorted
  kinds : ∀ e ∈ s.owners.entries, e.2.Sorted

section

variable {α : Type}

theorem empty_inOrder (currency : String) (syncedAt : Option Instant) :
    (empty currency syncedAt : Snapshot α).InOrder where
  owners := Table.sorted_empty
  kinds _ he := absurd he List.not_mem_nil

namespace InOrder

variable {s : Snapshot α} (h : s.InOrder)

include h

theorem kindsOf (owner : String) : (s.kindsOf owner).Sorted := by
  unfold Snapshot.kindsOf
  cases hget : s.owners.get? owner with
  | none => exact Table.sorted_empty
  | some kinds => exact h.kinds _ (Table.mem_entries_of_get? hget)

theorem put (owner : String) {kinds : Table α} (hkinds : kinds.Sorted) :
    InOrder { s with owners := s.owners.put owner kinds } where
  owners := h.owners.put owner kinds
  kinds e he := by
    obtain rfl | he := Table.mem_place he
    · exact hkinds
    · exact h.kinds e he

variable [Zero α] [Add α]

theorem enter (e : Entry α) : (s.enter e).InOrder := by
  cases e with
  | amount owner kind value => exact h.put owner ((h.kindsOf owner).put _ _)
  | owner owner => exact h.put owner (h.kindsOf owner)

theorem enterAll (es : List (Entry α)) : (s.enterAll es).InOrder := by
  induction es generalizing s with
  | nil => exact h
  | cons e rest ih => exact ih (h.enter e)

end InOrder

variable [Zero α] [Add α]

def shown (s : Snapshot α) (categories : List String) (owner category : String) : List String :=
  (s.kindsOf owner).names.filter fun kind =>
    decide (typeName kind = category ∧ Selected categories kind)

def stored (s : Snapshot α) (owner kind : String) : α := ((s.kindsOf owner).get? kind).getD 0

omit [Add α] in
theorem amounts_shown {s : Snapshot α} (h : s.InOrder) (categories : List String)
    (owner category : String) :
    amountsUnder category
        ((((s.kindsOf owner).entries.filter fun e => selects categories e.1)).map
          fun e => (typeName e.1, e.2)) =
      (s.shown categories owner category).map (s.stored owner) := by
  rw [amountsUnder, List.filter_map, List.map_map, List.filter_filter, shown, Table.names,
    List.filter_map, List.map_map]
  have hsame : (s.kindsOf owner).entries.filter (fun e =>
      ((fun a : String × α => decide (a.1 = category)) ∘ fun e => (typeName e.1, e.2)) e &&
        selects categories e.1) =
      (s.kindsOf owner).entries.filter ((fun kind =>
        decide (typeName kind = category ∧ Selected categories kind)) ∘ (·.1)) := by
    apply List.filter_congr
    intro e _
    rw [Bool.eq_iff_iff]
    simp [selects_iff]
  rw [hsame]
  apply List.map_congr_left
  intro e he
  have hget := ((h.kindsOf owner).get?_eq_some_iff e.1 e.2).mpr (List.mem_of_mem_filter he)
  simp [stored, hget]

theorem mem_ownerLines {s : Snapshot α} (h : s.InOrder) {categories : List String} {owner : String}
    {l : ReportLine α} :
    l ∈ ownerLines categories (owner, s.kindsOf owner) ↔
      l.owner = owner ∧ s.shown categories owner l.resourceType ≠ [] ∧
        l.amount = CloudDesk.total
          ((s.shown categories owner l.resourceType).map (s.stored owner)) := by
  obtain ⟨o, category, amount⟩ := l
  have hread : (category, amount) ∈ (byCategory categories (s.kindsOf owner)).entries ↔
      s.shown categories owner category ≠ [] ∧
        amount = CloudDesk.total ((s.shown categories owner category).map (s.stored owner)) := by
    rw [byCategory_eq, ← (tally_sorted Table.sorted_empty _).get?_eq_some_iff,
      get?_tally_empty_iff, amounts_shown h, ne_eq, List.map_eq_nil_iff]
  simp only [ownerLines, List.mem_map, Prod.exists, ReportLine.mk.injEq]
  rw [← hread]
  constructor
  · rintro ⟨_, _, hmem, rfl, rfl, rfl⟩
    exact ⟨rfl, hmem⟩
  · rintro ⟨rfl, hmem⟩
    exact ⟨category, amount, hmem, rfl, rfl, rfl⟩

theorem ownerLines_pairwise (categories : List String) (e : String × Table α) :
    (ownerLines categories e).Pairwise ReportLine.Before := by
  rw [ownerLines, List.pairwise_map, byCategory_eq]
  exact (tally_sorted Table.sorted_empty _).imp fun hlt => Or.inr ⟨rfl, utf8_lt_utf8.mpr hlt⟩

theorem mem_lines {s : Snapshot α} (h : s.InOrder) {owner : Option String}
    {categories : List String} {l : ReportLine α} :
    l ∈ s.lines owner categories ↔
      (∀ o ∈ owner, o = l.owner) ∧ s.shown categories l.owner l.resourceType ≠ [] ∧
        l.amount = CloudDesk.total
          ((s.shown categories l.owner l.resourceType).map (s.stored l.owner)) := by
  rw [lines_eq h.owners, List.mem_flatMap]
  constructor
  · rintro ⟨name, hname, hl⟩
    obtain ⟨rfl, hshown⟩ := (mem_ownerLines h).mp hl
    exact ⟨(passes_iff owner l.owner).mp (List.mem_filter.mp hname).2, hshown⟩
  · rintro ⟨hpass, hshown⟩
    refine ⟨l.owner, List.mem_filter.mpr ⟨?_, (passes_iff owner l.owner).mpr hpass⟩,
      (mem_ownerLines h).mpr ⟨rfl, hshown⟩⟩
    -- an owner who is not listed has no kinds to show
    rw [Table.mem_names_iff, Table.contains, ← Option.ne_none_iff_isSome]
    intro hnone
    apply hshown.1
    simp [shown, Snapshot.kindsOf, hnone, Table.empty, Table.names]

theorem lines_pairwise {s : Snapshot α} (h : s.InOrder) (owner : Option String)
    (categories : List String) : (s.lines owner categories).Pairwise ReportLine.Before := by
  rw [lines_eq h.owners, List.pairwise_flatMap]
  refine ⟨fun name _ => ownerLines_pairwise categories _, ?_⟩
  refine (h.owners.names_pairwise.filter _).imp fun {a b} hlt l hl m hm => Or.inl ?_
  rw [((mem_ownerLines h).mp hl).1, ((mem_ownerLines h).mp hm).1]
  exact utf8_lt_utf8.mpr hlt

omit [Zero α] [Add α] in
theorem shown_pairwise {s : Snapshot α} (h : s.InOrder) (categories : List String)
    (owner category : String) :
    (s.shown categories owner category).Pairwise fun j k => utf8 j < utf8 k :=
  ((h.kindsOf owner).names_pairwise.filter _).imp utf8_lt_utf8.mpr

theorem report_congr (s : Snapshot α) (owner : Option String) {names categories : List String}
    (h : ∀ name, name ∈ names ↔ name ∈ categories) :
    s.report owner names = s.report owner categories := by
  have hselects : selects names = selects categories := by
    funext kind
    have hnil : names = [] ↔ categories = [] := by
      simp only [List.eq_nil_iff_forall_not_mem, h]
    rw [Bool.eq_iff_iff, selects_iff, selects_iff, Selected, Selected, hnil, expand, expand,
      List.mem_flatMap, List.mem_flatMap]
    simp only [h]
  have hlines : ∀ e : String × Table α, ownerLines names e = ownerLines categories e := by
    intro e
    rw [ownerLines, ownerLines, byCategory, byCategory, hselects]
  simp only [report, lines, funext hlines]

end

section

variable {β γ : Type} [AddCommMonoid β]

theorem total_eq_sum (xs : List β) : CloudDesk.total xs = xs.sum := by
  rw [CloudDesk.total, List.sum_eq_foldl]

theorem sum_place {f : γ → β} {name : String} {value : γ} {more : β} {es : List (String × γ)}
    (h : es.Pairwise fun a b => a.1 < b.1)
    (hvalue : f value = ((Table.find? name es).map f).getD 0 + more) :
    ((Table.place name value es).map fun e => f e.2).sum = (es.map fun e => f e.2).sum + more := by
  induction es with
  | nil => simpa [Table.place, Table.find?] using hvalue
  | cons e rest ih =>
    obtain ⟨k, x⟩ := e
    obtain ⟨hk, hrest⟩ := List.pairwise_cons.mp h
    by_cases hlt : name < k
    · have hnone : Table.find? name ((k, x) :: rest) = none := by
        rw [Option.eq_none_iff_forall_ne_some]
        intro y hy
        obtain hy | hy := List.mem_cons.mp (Table.find?_mem hy)
        · exact absurd hlt (by rw [(Prod.mk.inj hy).1]; exact lt_irrefl k)
        · exact lt_asymm hlt (hk _ hy)
      rw [hnone] at hvalue
      simp only [Table.place, if_pos hlt, List.map_cons, List.sum_cons, hvalue, Option.map_none,
        Option.getD_none, zero_add]
      exact add_comm _ _
    · by_cases heq : name = k
      · subst heq
        simp only [Table.find?, if_true, Option.map_some, Option.getD_some] at hvalue
        simp only [Table.place, if_neg hlt, if_true, List.map_cons, List.sum_cons, hvalue]
        exact add_right_comm _ _ _
      · simp only [Table.find?, if_neg heq] at hvalue
        simp only [Table.place, if_neg hlt, if_neg heq, List.map_cons, List.sum_cons,
          ih hrest hvalue, add_assoc]

theorem sum_accumulate {t : Table β} (h : t.Sorted) (name : String) (amount : β) :
    (accumulate t name amount).values.sum = t.values.sum + amount := by
  apply sum_place (f := id) h
  cases hget : Table.find? name t.entries <;> simp [Table.get?, hget]

theorem sum_tally {t : Table β} (h : t.Sorted) (amounts : List (String × β)) :
    (tally t amounts).values.sum = t.values.sum + (amounts.map Prod.snd).sum := by
  induction amounts generalizing t with
  | nil => simp [tally]
  | cons e rest ih =>
    have hrest := ih (h.put e.1 ((t.get? e.1).getD 0 + e.2))
    have hstep := sum_accumulate h e.1 e.2
    rw [accumulate] at hstep
    rw [List.map_cons, List.sum_cons, ← add_assoc, ← hstep, ← hrest]
    rfl

theorem report_total (s : Snapshot β) (owner : Option String) (categories : List String) :
    (s.report owner categories).total =
      ((s.owners.entries.filter fun e => passes owner e.1).map fun e =>
        ((e.2.entries.filter fun k => selects categories k.1).map Prod.snd).sum).sum := by
  have howner : ∀ e : String × Table β,
      ((ownerLines categories e).map ReportLine.amount).sum =
        ((e.2.entries.filter fun k => selects categories k.1).map Prod.snd).sum := by
    intro e
    have hvalues : (ownerLines categories e).map ReportLine.amount =
        (byCategory categories e.2).values := by
      rw [ownerLines, List.map_map]
      rfl
    rw [hvalues, byCategory_eq, sum_tally Table.sorted_empty, List.map_map]
    exact zero_add _
  have htotal : (s.report owner categories).total =
      ((s.lines owner categories).map ReportLine.amount).sum := total_eq_sum _
  rw [htotal, lines, List.map_flatMap, List.flatMap_def, List.sum_flatten, List.map_map]
  congr 1
  exact List.map_congr_left fun e _ => howner e

theorem total_eq {s : Snapshot β} (h : s.InOrder) :
    s.total = (s.owners.entries.map fun e => e.2.values.sum).sum := by
  rw [Snapshot.total, total_eq_sum, Table.names, List.map_map]
  congr 1
  apply List.map_congr_left
  intro e he
  have hget := (h.owners.get?_eq_some_iff e.1 e.2).mpr he
  simp [ownerTotal, kindsOf, hget, total_eq_sum]

theorem report_whole {s : Snapshot β} (h : s.InOrder) : (s.report none []).total = s.total := by
  have hpass : (s.owners.entries.filter fun e => passes none e.1) = s.owners.entries :=
    List.filter_eq_self.mpr fun _ _ => rfl
  have hall : ∀ e : String × Table β, (e.2.entries.filter fun k => selects [] k.1) = e.2.entries :=
    fun e => List.filter_eq_self.mpr fun _ _ => rfl
  rw [report_total, total_eq h, hpass]
  simp only [hall]
  rfl

theorem sum_filter_or {p q : String → Bool} (h : ∀ name, p name = true → q name = false)
    (es : List (String × β)) :
    ((es.filter fun e => p e.1 || q e.1).map Prod.snd).sum =
      ((es.filter fun e => p e.1).map Prod.snd).sum +
        ((es.filter fun e => q e.1).map Prod.snd).sum := by
  induction es with
  | nil => simp
  | cons e rest ih =>
    cases hp : p e.1 with
    | true => simp [hp, h e.1 hp, ih, add_assoc]
    | false => cases hq : q e.1 <;> simp [hp, hq, ih, add_left_comm]

theorem report_append (s : Snapshot β) (owner : Option String) {front back : List String}
    (hfront : front ≠ []) (hback : back ≠ [])
    (h : ∀ kind ∈ expand front, kind ∉ expand back) :
    (s.report owner (front ++ back)).total =
      (s.report owner front).total + (s.report owner back).total := by
  have hboth : ∀ kind, selects (front ++ back) kind = (selects front kind || selects back kind) := by
    intro kind
    rw [Bool.eq_iff_iff, Bool.or_eq_true, selects_iff, selects_iff, selects_iff]
    simp [Selected, expand, hfront, hback]
  have hapart : ∀ kind, selects front kind = true → selects back kind = false := by
    intro kind hkind
    have hmem := ((selects_iff front kind).mp hkind).resolve_left hfront
    rw [← Bool.not_eq_true, selects_iff, Selected, not_or]
    exact ⟨hback, h kind hmem⟩
  simp only [report_total, hboth, sum_filter_or hapart, List.sum_map_add]

def Entry.value : Entry β → β
  | .amount _ _ value => value
  | .owner _ => 0

theorem total_put {s : Snapshot β} (h : s.InOrder) (owner : String) {kinds : Table β} {more : β}
    (hkinds : kinds.Sorted) (hmore : kinds.values.sum = (s.kindsOf owner).values.sum + more) :
    Snapshot.total { s with owners := s.owners.put owner kinds } = s.total + more := by
  rw [total_eq h, total_eq (h.put owner hkinds)]
  apply sum_place (f := fun kinds : Table β => kinds.values.sum) h.owners
  rw [hmore, Snapshot.kindsOf, Table.get?]
  cases Table.find? owner s.owners.entries <;> rfl

theorem total_enter {s : Snapshot β} (h : s.InOrder) (e : Entry β) :
    (s.enter e).total = s.total + e.value := by
  cases e with
  | amount owner kind value =>
    exact total_put h owner ((h.kindsOf owner).put _ _) (sum_accumulate (h.kindsOf owner) _ value)
  | owner owner => exact total_put h owner (h.kindsOf owner) (add_zero _).symm

theorem total_enterAll {s : Snapshot β} (h : s.InOrder) (es : List (Entry β)) :
    (s.enterAll es).total = s.total + (es.map Entry.value).sum := by
  induction es generalizing s with
  | nil => exact (add_zero _).symm
  | cons e rest ih =>
    rw [List.map_cons, List.sum_cons, ← add_assoc, ← total_enter h e, ← ih (h.enter e)]
    rfl

theorem report_entered (currency : String) (syncedAt : Option Instant) (es : List (Entry β)) :
    ((entered currency syncedAt es).report none []).total = (es.map Entry.value).sum := by
  have hempty := empty_inOrder (α := β) currency syncedAt
  have htotal := total_enterAll hempty es
  have hzero : (empty currency syncedAt : Snapshot β).total = 0 := rfl
  rw [hzero, zero_add] at htotal
  exact (report_whole (hempty.enterAll es)).trans htotal

end

/-- What the lines and the total of a report are. -/
structure Complete {α : Type} [Zero α] [Add α] (s : Snapshot α) (owner : Option String)
    (categories : List String) (r : Report α) : Prop where
  ascending : r.lines.Pairwise ReportLine.Before
  lines : ∀ name category, (∃ l ∈ r.lines, l.owner = name ∧ l.resourceType = category) ↔
    (∀ o ∈ owner, o = name) ∧ ∃ kind ∈ (s.kindsOf name).names,
      typeName kind = category ∧ (categories = [] ∨ kind ∈ expand categories)
  kinds : ∀ name category, (s.shown categories name category).Pairwise fun j k => utf8 j < utf8 k
  amounts : ∀ l ∈ r.lines, l.amount = CloudDesk.total
    ((s.shown categories l.owner l.resourceType).map (s.stored l.owner))
  total : r.total = CloudDesk.total (r.lines.map ReportLine.amount)

/-- What the totals of reports are when amounts are added exactly. -/
structure Conserved (s : Snapshot ℚ) : Prop where
  whole : (s.report none []).total = s.total
  parts : ∀ owner front back, front ≠ [] → back ≠ [] →
    (∀ kind ∈ expand front, kind ∉ expand back) →
      (s.report owner (front ++ back)).total =
        (s.report owner front).total + (s.report owner back).total

theorem report_complete {α : Type} [Zero α] [Add α] {s : Snapshot α} (h : s.InOrder)
    (owner : Option String) (categories : List String) :
    Complete s owner categories (s.report owner categories) where
  ascending := lines_pairwise h owner categories
  lines name category := by
    have hshown : s.shown categories name category ≠ [] ↔ ∃ kind ∈ (s.kindsOf name).names,
        typeName kind = category ∧ (categories = [] ∨ kind ∈ expand categories) := by
      rw [ne_eq, List.eq_nil_iff_forall_not_mem, not_forall_not]
      simp only [shown, List.mem_filter, decide_eq_true_eq]
      rfl
    rw [← hshown]
    constructor
    · rintro ⟨l, hl, rfl, rfl⟩
      obtain ⟨hpass, hkinds, -⟩ := (mem_lines h).mp hl
      exact ⟨hpass, hkinds⟩
    · rintro ⟨hpass, hkinds⟩
      let amounts := (s.shown categories name category).map (s.stored name)
      exact ⟨⟨name, category, CloudDesk.total amounts⟩, (mem_lines h).mpr ⟨hpass, hkinds, rfl⟩, rfl, rfl⟩
  kinds := shown_pairwise h categories
  amounts l hl := ((mem_lines h).mp hl).2.2
  total := rfl

/-- Every report is complete and depends on its categories as a set; and exact totals are conserved,
from what is entered to the parts of a report. -/
theorem reports_lose_nothing {α : Type} [Zero α] [Add α] {s : Snapshot α} (ordered : s.InOrder)
    (owner : Option String) (categories : List String) :
    Complete s owner categories (s.report owner categories) ∧
      (∀ names : List String, (∀ name, name ∈ names ↔ name ∈ categories) →
        s.report owner names = s.report owner categories) ∧
      (∀ exact : Snapshot ℚ, exact.InOrder → Conserved exact) ∧
      ∀ (currency : String) (syncedAt : Option Instant) (es : List (Entry ℚ)),
        ((entered currency syncedAt es).report none []).total = (es.map Entry.value).sum := by
  refine ⟨report_complete ordered owner categories, fun names hnames => s.report_congr owner hnames,
    fun exact hexact => ?_, report_entered⟩
  exact ⟨report_whole hexact, fun o _ _ => report_append exact o⟩

def exactBuckets : List (Entry ℚ) :=
  [.amount "alice" "edge_bucket" 2, .amount "alice" "SSN_BUCKET" (1 / 10),
    .amount "alice" "GPU_RESERVATION" 4, .amount "bob" "EDGE_BUCKET" 8, .owner "carol"]

theorem exact_buckets_add_up :
    (entered "USD" none exactBuckets).InOrder ∧
      Complete (entered "USD" none exactBuckets) (some "alice") ["Bucket"]
        ((entered "USD" none exactBuckets).report (some "alice") ["Bucket"]) ∧
      (entered "USD" none exactBuckets).report (some "alice") ["Bucket", "Bucket"] =
        (entered "USD" none exactBuckets).report (some "alice") ["Bucket"] ∧
      ((entered "USD" none exactBuckets).report none (["Bucket"] ++ ["GPU_RESERVATION"])).total =
        101 / 10 + 4 ∧
      ((entered "USD" none exactBuckets).report none []).total = 141 / 10 := by
  have ordered : (entered "USD" none exactBuckets).InOrder := (empty_inOrder _ _).enterAll _
  obtain ⟨hcomplete, hset, hconserved, hentered⟩ :=
    reports_lose_nothing ordered (some "alice") ["Bucket"]
  refine ⟨ordered, hcomplete, hset _ (by simp), ?_, ?_⟩
  · have hparts := (hconserved _ ordered).parts none ["Bucket"] ["GPU_RESERVATION"] (by simp)
      (by simp) (by decide)
    have hbuckets : ((entered "USD" none exactBuckets).report none ["Bucket"]).total = 101 / 10 := by
      decide +kernel
    have hgpu : ((entered "USD" none exactBuckets).report none ["GPU_RESERVATION"]).total = 4 := by
      decide +kernel
    rw [hparts, hbuckets, hgpu]
  · rw [hentered]
    decide +kernel

end Snapshot

end CloudDesk
