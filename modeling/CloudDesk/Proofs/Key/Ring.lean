import CloudDesk.Key.Ring
import CloudDesk.Proofs.Table

namespace CloudDesk

def KeyRecord.undated (r : KeyRecord) : KeyRecord :=
  { r with uploadedAt := ⟨0, 0⟩, updatedAt := ⟨0, 0⟩ }

theorem KeyRecord.status_of_undated {r r' : KeyRecord} (h : r'.undated = r.undated) :
    r'.status = r.status :=
  (congrArg KeyRecord.status h :)

namespace KeyRing

/-- A record that is filed has the edge key name of the binding, or keeps that of the record before.
-/
inductive Filing (ring : KeyRing) (owner : String) (binding : KeyBinding) :
    Except KeyError KeyRecord × KeyRing → Prop
  | refused (e : KeyError) : Filing ring owner binding (.error e, ring)
  | filed (record : KeyRecord)
      (hname : record.edgeKeyName = binding.edgeKeyName ∨
        ∃ before, ring.get? owner = some before ∧ record.edgeKeyName = before.edgeKeyName) :
      Filing ring owner binding (.ok record, ring.put owner record)

theorem register_filing (ring : KeyRing) (owner text : String) (binding : KeyBinding)
    (now : Instant) : Filing ring owner binding (ring.register owner text binding now) := by
  unfold register
  cases PublicKey.parse text with
  | error e => exact .refused _
  | ok key =>
    cases ring.get? owner with
    | some record => exact .refused _
    | none => exact .filed _ (Or.inl rfl)

theorem replace_filing (ring : KeyRing) (owner text : String) (binding : KeyBinding)
    (now : Instant) : Filing ring owner binding (ring.replace owner text binding now) := by
  unfold replace
  cases PublicKey.parse text with
  | error e => exact .refused _
  | ok key =>
    cases ring.get? owner with
    | none => exact .refused _
    | some record =>
      by_cases hn : record.status = .new
      · simp only [hn, if_true]
        exact .refused _
      · simp only [hn, if_false]
        exact .filed _ (Or.inl rfl)

theorem confirm_filing (ring : KeyRing) (owner : String) (binding : KeyBinding) (succeeded : Bool)
    (now : Instant) : Filing ring owner binding (ring.confirm owner succeeded now) := by
  unfold confirm
  cases hr : ring.get? owner with
  | none => exact .refused _
  | some record =>
    by_cases hn : record.status = .new
    · simp only [hn, if_true]
      exact .filed _ (Or.inr ⟨record, hr, rfl⟩)
    · simp only [hn, if_false]
      exact .refused _

def entry (ring : KeyRing) (owner : String) : Option KeyRecord :=
  (ring.get? owner).map KeyRecord.undated

/-- Two calls say the same and leave the same record of the owner, the times in it apart. -/
def SameFor (owner : String) (r r' : Except KeyError KeyRecord × KeyRing) : Prop :=
  r'.1.map KeyRecord.undated = r.1.map KeyRecord.undated ∧ entry r'.2 owner = entry r.2 owner

section

variable {ring ring' : KeyRing} {owner : String}

theorem entry_cases (h : ring'.entry owner = ring.entry owner) :
    (ring.get? owner = none ∧ ring'.get? owner = none) ∨
      ∃ record record', ring.get? owner = some record ∧ ring'.get? owner = some record' ∧
        record'.undated = record.undated := by
  unfold entry at h
  cases hr : ring.get? owner with
  | none =>
    rw [hr, Option.map_none, Option.map_eq_none_iff] at h
    exact Or.inl ⟨rfl, h⟩
  | some record =>
    rw [hr, Option.map_some, Option.map_eq_some_iff] at h
    obtain ⟨record', hr', hu⟩ := h
    exact Or.inr ⟨record, record', rfl, hr', hu⟩

theorem status_eq (h : ring'.entry owner = ring.entry owner) :
    ring'.status owner = ring.status owner := by
  unfold status
  obtain ⟨hr, hr'⟩ | ⟨record, record', hr, hr', hu⟩ := entry_cases h
  · rw [hr, hr']
  · rw [hr, hr']
    exact KeyRecord.status_of_undated hu

theorem sameFor_refused (h : ring'.entry owner = ring.entry owner) (e : KeyError) :
    SameFor owner (.error e, ring) (.error e, ring') := ⟨rfl, h⟩

theorem sameFor_file {record record' : KeyRecord} (h : record'.undated = record.undated) :
    SameFor owner (ring.file owner record) (ring'.file owner record') := by
  refine ⟨congrArg Except.ok h, ?_⟩
  simp only [entry, file, Table.get?_put, if_true, Option.map_some, h]

theorem register_sameFor (h : ring'.entry owner = ring.entry owner) (text : String)
    (binding : KeyBinding) (now now' : Instant) :
    SameFor owner (ring.register owner text binding now)
      (ring'.register owner text binding now') := by
  unfold register
  cases PublicKey.parse text with
  | error e => exact sameFor_refused h _
  | ok key =>
    obtain ⟨hr, hr'⟩ | ⟨record, record', hr, hr', -⟩ := entry_cases h
    · rw [hr, hr']
      exact sameFor_file rfl
    · rw [hr, hr']
      exact sameFor_refused h _

theorem replace_sameFor (h : ring'.entry owner = ring.entry owner) (text : String)
    (binding : KeyBinding) (now now' : Instant) :
    SameFor owner (ring.replace owner text binding now)
      (ring'.replace owner text binding now') := by
  unfold replace
  cases PublicKey.parse text with
  | error e => exact sameFor_refused h _
  | ok key =>
    obtain ⟨hr, hr'⟩ | ⟨record, record', hr, hr', hu⟩ := entry_cases h
    · rw [hr, hr']
      exact sameFor_refused h _
    · simp only [hr, hr', KeyRecord.status_of_undated hu]
      by_cases hn : record.status = .new
      · simp only [hn, if_true]
        exact sameFor_refused h _
      · simp only [hn, if_false]
        exact sameFor_file rfl

theorem confirm_sameFor (h : ring'.entry owner = ring.entry owner) (succeeded : Bool)
    (now now' : Instant) :
    SameFor owner (ring.confirm owner succeeded now) (ring'.confirm owner succeeded now') := by
  unfold confirm
  obtain ⟨hr, hr'⟩ | ⟨record, record', hr, hr', hu⟩ := entry_cases h
  · rw [hr, hr']
    exact sameFor_refused h _
  · simp only [hr, hr', KeyRecord.status_of_undated hu]
    by_cases hn : record.status = .new
    · simp only [hn, if_true]
      have hsettled := congrArg (fun r : KeyRecord =>
        { r with status := if succeeded then .active else .failed }) hu
      exact sameFor_file hsettled
    · simp only [hn, if_false]
      exact sameFor_refused h _

end

end KeyRing

end CloudDesk
