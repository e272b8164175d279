import CloudDesk.Proofs.Except
import CloudDesk.Proofs.Url.Form
import CloudDesk.Url.Reading

namespace CloudDesk.Url

open Text

/-- No sign stands in the segment at which it, or the path, would end. -/
structure Unbroken (segment : List Char) : Prop where
  slash : '/' ∉ segment
  question : '?' ∉ segment
  hash : '#' ∉ segment

theorem unbroken_nil : Unbroken [] := ⟨List.not_mem_nil, List.not_mem_nil, List.not_mem_nil⟩

theorem mem_percentEncode {set : Char → Bool} {cs : List Char} {c : Char} (h : c ∈ percentEncode set cs) :
    (c ∈ cs ∧ set c = false) ∨ isFormPlain c = true ∨ c = '%' := by
  obtain ⟨a, ha, hc⟩ := List.mem_flatMap.mp h
  split_ifs at hc with hset
  · obtain ⟨b, -, hb⟩ := List.mem_flatMap.mp hc
    exact .inr (mem_percentByte hb)
  · rw [List.mem_singleton.mp hc]
    exact .inl ⟨ha, Bool.eq_false_iff.mpr hset⟩

theorem not_mem_percentEncode {set : Char → Bool} {mark : Char} {cs : List Char}
    (hplain : isFormPlain mark = false) (hpercent : mark ≠ '%') (h : mark ∉ cs ∨ set mark = true) :
    mark ∉ percentEncode set cs := by
  intro hmark
  obtain ⟨hmem, hset⟩ | hform | hsign := mem_percentEncode hmark
  · obtain hnot | hin := h
    · exact hnot hmem
    · rw [hset] at hin
      cases hin
  · rw [hplain] at hform
    cases hform
  · exact hpercent hsign

theorem unbroken_percentEncode {cs : List Char} (h : '/' ∉ cs) : Unbroken (percentEncode pathSet cs) where
  slash := not_mem_percentEncode (by decide) (by decide) (.inl h)
  question := not_mem_percentEncode (by decide) (by decide) (.inr (by decide))
  hash := not_mem_percentEncode (by decide) (by decide) (.inr (by decide))

/-- Dots remove segments and add empty ones. -/
theorem resolve_unbroken {before segments : List (List Char)} (hbefore : ∀ s ∈ before, Unbroken s)
    (h : ∀ s ∈ segments, Unbroken s) : ∀ s ∈ resolve false before segments, Unbroken s := by
  induction segments generalizing before with
  | nil =>
    intro s hs
    exact hbefore s (List.mem_reverse.mp hs)
  | cons segment rest ih =>
    obtain ⟨hsegment, hrest⟩ := List.forall_mem_cons.mp h
    have hlast : ∀ ss : List (List Char), (∀ s ∈ ss, Unbroken s) →
        ∀ s ∈ (if rest.isEmpty then [] :: ss else ss), Unbroken s := by
      intro ss hss
      split_ifs
      · exact List.forall_mem_cons.mpr ⟨unbroken_nil, hss⟩
      · exact hss
    have hparent : ∀ s ∈ parent before, Unbroken s := by
      cases before with
      | nil => exact hbefore
      | cons segment before =>
        rw [parent]
        split_ifs
        · exact hbefore
        · exact (List.forall_mem_cons.mp hbefore).2
    rw [resolve]
    by_cases hdouble : isDoubleDot segment = true
    · rw [if_pos hdouble]
      exact ih (hlast _ hparent) hrest
    · rw [if_neg hdouble]
      by_cases hdot : isDot segment = true
      · rw [if_pos hdot]
        exact ih (hlast _ hbefore) hrest
      · rw [if_neg hdot]
        exact ih (List.forall_mem_cons.mpr ⟨hsegment, hbefore⟩) hrest

theorem readSegments_unbroken (special : Bool) (cs : List Char) :
    ∀ s ∈ readSegments special false cs, Unbroken s := by
  apply resolve_unbroken
  · exact List.forall_mem_nil _
  · intro s hs
    obtain ⟨part, hpart, rfl⟩ := List.mem_map.mp hs
    exact unbroken_percentEncode (not_mem_of_mem_splitAt hpart)

theorem pathAfter_unbroken (special : Bool) (cs : List Char) :
    ∀ s ∈ pathAfter special cs, Unbroken s := by
  simp only [pathAfter]
  split
  · split_ifs
    · exact List.forall_mem_singleton.mpr unbroken_nil
    · exact List.forall_mem_nil _
  · exact readSegments_unbroken special _

theorem readHosted_eq_ok {scheme : String} {special : Bool} {cs : List Char} {u : Url}
    (h : readHosted scheme special cs = .ok u) :
    ∃ rest, u.path = .rooted (pathAfter special rest) := by
  obtain ⟨⟨authority, rest⟩, -, h⟩ := bind_eq_ok h
  cases h
  exact ⟨rest, rfl⟩

theorem readFile_eq_ok {isBroken : Nat → Bool} {cs : List Char} {u : Url}
    (h : readFile isBroken cs = .ok u) : u.scheme = "file" := by
  obtain ⟨⟨host, segments⟩, -, h⟩ := bind_eq_ok h
  cases h
  rfl

theorem path_of_parse {text : String} {u : Url} (h : parse text = .ok u)
    (hspecial : isSpecial u.scheme = true) (hfile : u.scheme ≠ "file") :
    ∃ segments, u.path = .rooted segments ∧ ∀ s ∈ segments, Unbroken s := by
  have hhosted : ∃ scheme special cs, readHosted scheme special cs = .ok u := by
    unfold parse at h
    dsimp only at h
    split at h
    · cases h
    · split_ifs at h with _ hscheme
      · exact absurd (readFile_eq_ok h) hfile
      · exact ⟨_, _, _, h⟩
      · split at h
        · exact ⟨_, _, _, h⟩
        · cases h
          exact absurd hspecial hscheme
  obtain ⟨scheme, special, cs, hhosted⟩ := hhosted
  obtain ⟨rest, hrest⟩ := readHosted_eq_ok hhosted
  exact ⟨_, hrest, pathAfter_unbroken special rest⟩

def closed (path : List Char) : List Char := if path.getLast? = some '/' then path else path ++ ['/']

theorem closed_append_slash {path : List Char} (h : path.getLast? ≠ some '/') :
    closed (path ++ ['/']) = closed path := by
  have hslash : (path ++ ['/']).getLast? = some '/' := List.getLast?_concat
  rw [closed, closed, if_pos hslash, if_neg h]

theorem writeSegments_append (front back : List (List Char)) :
    writeSegments (front ++ back) = writeSegments front ++ writeSegments back :=
  List.flatMap_append

theorem withSlash_eq (segments : List (List Char)) :
    ∃ front, withSlash segments = front ++ [[]] ∧ (segments = front ∨ segments = front ++ [[]]) := by
  unfold withSlash
  split_ifs with h
  · obtain ⟨front, hfront⟩ := List.getLast?_eq_some_iff.mp h
    exact ⟨front, hfront, .inr hfront⟩
  · exact ⟨segments, rfl, .inl rfl⟩

theorem getLast?_writeSegments {segments : List (List Char)} (h : ∀ s ∈ segments, '/' ∉ s) :
    (writeSegments segments).getLast? = some '/' ↔ segments.getLast? = some [] := by
  obtain rfl | ⟨front, last, rfl⟩ := List.eq_nil_or_concat' segments
  · exact iff_of_false (by simp [writeSegments]) (by simp)
  · have hwrite : writeSegments (front ++ [last]) = writeSegments front ++ '/' :: last := by
      rw [writeSegments_append, writeSegments, writeSegments, List.flatMap_singleton]
    rw [hwrite, List.getLast?_concat, List.getLast?_append_of_ne_nil _ (List.cons_ne_nil _ _)]
    cases last with
    | nil => exact iff_of_true rfl rfl
    | cons c rest =>
      have hslash : '/' ∉ c :: rest := h _ (List.mem_concat_self)
      rw [List.getLast?_cons_cons]
      exact iff_of_false (fun he => hslash (List.mem_of_getLast? he)) (by simp)

theorem writeSegments_withSlash {segments : List (List Char)} (h : ∀ s ∈ segments, '/' ∉ s) :
    writeSegments (withSlash segments) = closed (writeSegments segments) := by
  by_cases hlast : segments.getLast? = some []
  · rw [withSlash, if_pos hlast, closed, if_pos ((getLast?_writeSegments h).mpr hlast)]
  · rw [withSlash, if_neg hlast, closed, if_neg (mt (getLast?_writeSegments h).mp hlast),
      writeSegments_append]
    rfl

theorem not_mem_writeSegments {mark : Char} (hmark : mark ≠ '/') {segments : List (List Char)}
    (h : ∀ s ∈ segments, mark ∉ s) : mark ∉ writeSegments segments := by
  intro hmem
  obtain ⟨s, hs, hc⟩ := List.mem_flatMap.mp hmem
  obtain hslash | hc := List.mem_cons.mp hc
  · exact hmark hslash
  · exact h s hs hc

theorem folder_join {base : Url} {segments : List (List Char)} (h : base.path = .rooted segments)
    (more : List (List Char)) : base.folder.join more =
      .ok { base with
        path := .rooted ((withSlash segments).dropLast ++ more), query := none, fragment := none } := by
  simp only [folder, h, join]

end CloudDesk.Url
