import CloudDesk.Proofs.Taxonomy
import Mathlib.Data.List.Count
import Mathlib.Data.List.Nodup
import Mathlib.Data.List.Perm.Basic

namespace CloudDesk

open Text

namespace Kind

theorem candidates_eq (text : String) :
    all.filter (fun k => sameIgnoringCase k.name text) = (parse? text).toList := by
  have hmem : ∀ k, k ∈ all.filter (fun k => sameIgnoringCase k.name text) ↔ parse? text = some k := by
    intro k
    rw [List.mem_filter, and_iff_right k.mem_all, parse?_eq_some_iff]
  have hnodup : (all.filter fun k => sameIgnoringCase k.name text).Nodup :=
    List.Nodup.filter _ (by decide)
  cases h : parse? text with
  | none =>
    refine List.eq_nil_iff_forall_not_mem.mpr fun k hk => ?_
    rw [hmem, h] at hk
    cases hk
  | some k =>
    refine List.perm_singleton.mp ((List.perm_ext_iff_of_nodup hnodup (List.nodup_singleton k)).mpr ?_)
    intro j
    rw [hmem, h, List.mem_singleton, Option.some.injEq, eq_comm]

theorem find?_eq_parse? {ks : List Kind} (hks : ks.Perm all) (text : String) :
    ks.find? (fun k => sameIgnoringCase k.name text) = parse? text := by
  have hcandidates := hks.filter fun k => sameIgnoringCase k.name text
  rw [candidates_eq] at hcandidates
  rw [← List.head?_filter]
  cases h : parse? text with
  | none =>
    rw [h] at hcandidates
    rw [List.perm_nil.mp hcandidates]
    rfl
  | some k =>
    rw [h] at hcandidates
    rw [List.perm_singleton.mp hcandidates]
    rfl

theorem parse?_congr {text text' : String} (h : sameIgnoringCase text text' = true) :
    parse? text = parse? text' := by
  rw [sameIgnoringCase, beq_iff_eq] at h
  have hsame : ∀ k : Kind, sameIgnoringCase k.name text = sameIgnoringCase k.name text' := fun k => by
    rw [sameIgnoringCase, sameIgnoringCase, h]
  simp only [parse?, hsame]

end Kind

namespace Category

theorem name_of_ofName? {name : String} {c : Category} (h : ofName? name = some c) : c.name = name := by
  have hname := List.find?_some h
  exact beq_iff_eq.mp hname

theorem kinds_nodup (c : Category) : c.kinds.Nodup := by cases c <;> decide

theorem kinds_pairwise (c : Category) :
    c.kinds.Pairwise fun j k => j.scope.rank ≤ k.scope.rank := by
  rw [kinds, CategoryTable.inverse_eq, List.pairwise_map]
  exact (CategoryTable.pairwise_sortByScope Taxonomy.table.entries).filter _

end Category

namespace Taxonomy

theorem expand_append (a b : List String) : expand (a ++ b) = expand a ++ expand b :=
  List.flatMap_append

theorem expand_singleton (name : String) : expand [name] = expandName name :=
  List.flatMap_singleton expandName name

theorem expandName_category (c : Category) : expandName c.name = c.kinds.map Kind.name := by
  rw [expandName, Category.ofName?_name]

/-- An identifier is the name of a category only if that is the one kind of the category. -/
theorem expandName_kind (k : Kind) : expandName k.name = [k.name] := by cases k <;> decide

theorem expandName_cases (name : String) :
    (∃ c : Category, c.name = name ∧ expandName name = c.kinds.map Kind.name) ∨
      expandName name = [name] := by
  cases h : Category.ofName? name with
  | none => exact Or.inr (by rw [expandName, h])
  | some c => exact Or.inl ⟨c, Category.name_of_ofName? h, by rw [expandName, h]⟩

theorem expandName_of_mem {name member : String} (h : member ∈ expandName name) :
    expandName member = [member] := by
  obtain ⟨c, -, hc⟩ | hself := expandName_cases name
  · rw [hc] at h
    obtain ⟨k, -, rfl⟩ := List.mem_map.mp h
    exact expandName_kind k
  · rw [hself, List.mem_singleton] at h
    rw [h, hself]

theorem expand_expand (names : List String) : expand (expand names) = expand names := by
  have hself : ∀ name, (expandName name).flatMap expandName = expandName name := by
    intro name
    rw [List.flatMap_congr fun member hm => expandName_of_mem hm, List.flatMap_singleton']
  rw [expand, expand, List.flatMap_assoc]
  simp only [hself]

theorem typeName_kind (k : Kind) : typeName k.name = k.category.name :=
  typeName_of_some (Kind.parse?_name k)

theorem typeName_category (c : Category) : typeName c.name = c.name := by cases c <;> decide

theorem typeName_typeName (text : String) : typeName (typeName text) = typeName text := by
  cases h : Kind.parse? text with
  | some k => rw [typeName_of_some h, typeName_category]
  | none => rw [typeName_of_none h, typeName_of_none h]

theorem typeName_of_mem_expandName {name member : String} (hshown : typeName name = name)
    (h : member ∈ expandName name) : typeName member = name := by
  obtain ⟨c, rfl, hc⟩ | hself := expandName_cases name
  · rw [hc] at h
    obtain ⟨k, hk, rfl⟩ := List.mem_map.mp h
    rw [typeName_kind, (c.mem_kinds k).mp hk]
  · rw [hself, List.mem_singleton] at h
    rw [h, hshown]

/-- Identifiers of kinds, those of edges first, then those of the platform, then shared ones. -/
def ByScope (names : List String) : Prop :=
  ∃ ks : List Kind, names = ks.map Kind.name ∧ ks.Pairwise fun j k => j.scope.rank ≤ k.scope.rank

theorem expandName_byScope (c : Category) : ByScope (expandName c.name) :=
  ⟨c.kinds, expandName_category c, c.kinds_pairwise⟩

theorem count_expandName (k : Kind) : (expandName k.category.name).count k.name = 1 := by
  have hmem : k ∈ k.category.kinds := (k.category.mem_kinds k).mpr rfl
  rw [expandName_category, List.count_map_of_injective _ _ fun _ _ => Kind.name_injective,
    List.count_eq_one_of_mem k.category.kinds_nodup hmem]

/-- Names expand one by one, and what they expand to expands no further. How a text is shown is
shown as itself, and so is all that it expands to; among that is the kind which the text is read as,
once, and the kinds come by scope. No text goes by two kinds, so that it is read as the same kind in
whatever order the kinds are tried, and in whatever case its letters are. -/
theorem names_keep_their_category (a b : List String) (text : String) :
    expand (a ++ b) = expand a ++ expand b ∧ expand (expand a) = expand a ∧
      typeName (typeName text) = typeName text ∧
      (∀ member ∈ expand [typeName text], typeName member = typeName text) ∧
      (∀ k, Kind.parse? text = some k →
        (expand [typeName text]).count k.name = 1 ∧ ByScope (expand [typeName text])) ∧
      Kind.all.filter (fun k => sameIgnoringCase k.name text) = (Kind.parse? text).toList ∧
      (∀ ks : List Kind, ks.Perm Kind.all →
        ks.find? (fun k => sameIgnoringCase k.name text) = Kind.parse? text) ∧
      ∀ text', sameIgnoringCase text text' = true → Kind.parse? text = Kind.parse? text' := by
  refine ⟨expand_append a b, expand_expand a, typeName_typeName text, fun member hm => ?_,
    fun k hk => ?_, Kind.candidates_eq text, fun ks hks => Kind.find?_eq_parse? hks text,
    fun text' h => Kind.parse?_congr h⟩
  · rw [expand_singleton] at hm
    exact typeName_of_mem_expandName (typeName_typeName text) hm
  · rw [expand_singleton, typeName_of_some hk]
    exact ⟨count_expandName k, expandName_byScope k.category⟩

/-- Buckets of edges are shown among all buckets, whichever letters are capital and although the
search comes to them last. -/
theorem edge_bucket_among_buckets :
    Kind.parse? "Edge_bucket" = some .edgeBucket ∧
      (expand [typeName "Edge_bucket"]).count "EDGE_BUCKET" = 1 ∧
      ByScope (expand [typeName "Edge_bucket"]) ∧
      Kind.all.reverse.find? (fun k => sameIgnoringCase k.name "Edge_bucket") =
        Kind.parse? "edge_Bucket" := by
  have hparse : Kind.parse? "Edge_bucket" = some .edgeBucket := by decide
  have hcase : sameIgnoringCase "Edge_bucket" "edge_Bucket" = true := by decide
  obtain ⟨-, -, -, -, hkind, -, horder, hsame⟩ :=
    names_keep_their_category [] [] "Edge_bucket"
  obtain ⟨hcount, hscope⟩ := hkind .edgeBucket hparse
  exact ⟨hparse, hcount, hscope, (horder _ Kind.all.reverse_perm).trans (hsame "edge_Bucket" hcase)⟩

end Taxonomy

end CloudDesk
