import CloudDesk.Budget.Gate
import CloudDesk.Proofs.Wire.Records

namespace CloudDesk

open Wire

/-- A sound value of a type survives, and one that a text decodes to, exactly if what it holds of
values of any shape can stand in a record. How the parts of a number become its value does not
matter. -/
structure Endures (α : Type) [Wire α] (Sound Fits : α → Prop) : Prop where
  values : ∀ x : α, Sound x → (Survives x ↔ Fits x)
  texts : ∀ (measure : Decimal.Parts → Float) (text : String) (x : α),
    Wire.decode (Json.readWith measure text) = .ok x → (Survives x ↔ Fits x)

/-- Soundness is all that a value needs, and a text has no numbers but finite ones. -/
theorem endures_of_sound {α : Type} [Wire α] {Sound Fits : α → Prop}
    (hdecode : ∀ {j : Json} {x : α}, j.Everywhere Json.HasNumber → Wire.decode j = .ok x → Sound x)
    (hsurvives : ∀ {x : α}, Sound x → (Survives x ↔ Fits x)) : Endures α Sound Fits where
  values _ hsound := hsurvives hsound
  texts _ text _ hx := hsurvives (hdecode (Json.readWith_hasNumber text) hx)

theorem endures_of_survives {α : Type} [Wire α] {Sound : α → Prop}
    (hdecode : ∀ {j : Json} {x : α}, j.Everywhere Json.HasNumber → Wire.decode j = .ok x → Sound x)
    (hsurvives : ∀ {x : α}, Sound x → Survives x) : Endures α Sound (fun _ => True) :=
  endures_of_sound hdecode fun h => iff_of_true (hsurvives h) trivial

theorem Exceeded.event_survives {e : Exceeded} (hceiling : e.ceiling.isFinite = true)
    (haccrued : e.accrued.isFinite = true) (operation : String) {stamp : Stamp}
    (hid : stamp.id.bytes.length = 16) (hnow : stamp.now.Sound) : Survives (e.event operation stamp) := by
  have hpayload : (e.event operation stamp).payload =
      .object [("accrued", .float e.accrued), ("ceiling", .float e.ceiling), ("scope", .string e.scope.name)] := by
    simp only [event, Json.ofFloat, hceiling, haccrued, if_true]
  have heverywhere : ∀ {P : Json → Prop}, P (e.event operation stamp).payload →
      P (.float e.accrued) → P (.float e.ceiling) → P (.string e.scope.name) →
      (e.event operation stamp).payload.Everywhere P := by
    intro P hobject ha hc hs
    rw [hpayload] at hobject ⊢
    simp [Json.everywhere_object_iff, hobject, (Json.everywhere_leaf_iff rfl).mpr ha,
      (Json.everywhere_leaf_iff rfl).mpr hc, (Json.everywhere_leaf_iff rfl).mpr hs]
  have hnames : (e.event operation stamp).payload.HasValue := by
    rw [hpayload]
    simp only [Json.HasValue, List.pairwise_cons, List.forall_mem_cons]
    exact ⟨⟨by decide, by decide, List.forall_mem_nil _⟩, ⟨by decide, List.forall_mem_nil _⟩,
      List.forall_mem_nil _, List.Pairwise.nil⟩
  have hplain : (e.event operation stamp).payload.IsPlain := by
    rw [hpayload]
    simp [Json.IsPlain, Json.holdsText, Json.textName]
  have hdepth : (e.event operation stamp).payload.height ≤ Json.maxDepth := by
    rw [hpayload]
    simp [Json.height, Json.fieldsHeight, Json.maxDepth]
  exact AuditEvent.survives ⟨hid, heverywhere hnames haccrued hceiling trivial, hnow⟩
    ⟨hdepth, heverywhere hplain trivial trivial trivial⟩

theorem records_survive :
    Endures Policy Policy.Sound (fun _ => True) ∧
    Endures AuditEvent AuditEvent.Sound (fun e => Embeds e.payload) ∧
    Endures CostRecord CostRecord.Sound (fun _ => True) ∧
    Endures KeyRecord KeyRecord.Sound (fun r => Embeds r.details) ∧
    Endures Template (fun _ => True) (fun _ => True) ∧
    Endures StorageResource (fun _ => True) (fun _ => True) ∧
    Endures SharedInfo (fun _ => True) (fun _ => True) ∧
    ∀ (e : Exceeded) (operation : String) (stamp : Stamp), e.ceiling.isFinite = true →
      e.accrued.isFinite = true → stamp.id.bytes.length = 16 → stamp.now.Sound →
        Survives (e.event operation stamp) :=
  ⟨endures_of_survives Policy.sound_of_decode Policy.survives,
    endures_of_sound AuditEvent.sound_of_decode AuditEvent.survives_iff,
    endures_of_survives CostRecord.sound_of_decode CostRecord.survives,
    endures_of_sound KeyRecord.sound_of_decode KeyRecord.survives_iff,
    endures_of_survives (fun _ _ => trivial) fun _ => survives_of_decode (Template.decode_encode _),
    endures_of_survives (fun _ _ => trivial) fun _ => survives_of_decode (StorageResource.decode_encode _),
    endures_of_survives (fun _ _ => trivial) fun _ => survives_of_decode (SharedInfo.decode_encode _),
    fun _ operation _ hceiling haccrued => Exceeded.event_survives hceiling haccrued operation⟩

def eventWith (payload : Json) : AuditEvent :=
  ⟨⟨List.replicate 16 7⟩, "alice", .ownerLimitReached, "create_notebook", payload, ⟨1483228799, 1500000000⟩⟩

theorem eventWith_sound {payload : Json} (h : payload.Everywhere Json.HasValue) :
    (eventWith payload).Sound := by
  have hleap : Instant.Sound ⟨1483228799, 1500000000⟩ := ⟨by decide, by decide⟩
  exact ⟨rfl, h, hleap⟩

def nestedPayload : Json := .object [("limit", .float 10.5), ("tags", .array [.null])]

theorem nestedPayload_everywhere {P : Json → Prop} (hobject : P nestedPayload) (hlimit : P (.float 10.5))
    (htags : P (.array [.null])) (hnull : P .null) : nestedPayload.Everywhere P := by
  refine Json.everywhere_object_iff.mpr ⟨hobject, ?_⟩
  simp [Json.everywhere_array_iff, htags, (Json.everywhere_leaf_iff rfl).mpr hlimit,
    (Json.everywhere_leaf_iff rfl).mpr hnull]

theorem nested_payload_survives : (eventWith nestedPayload).Sound ∧ Embeds nestedPayload ∧
    Survives (eventWith nestedPayload) := by
  have hfinite : (10.5 : Float).isFinite = true := by decide +kernel
  have hascending : nestedPayload.HasValue := by
    simp only [nestedPayload, Json.HasValue, List.pairwise_pair]
    decide
  have hsound := eventWith_sound (nestedPayload_everywhere hascending hfinite trivial trivial)
  have hplain : nestedPayload.IsPlain := by
    simp [nestedPayload, Json.IsPlain, Json.holdsText, Json.textName]
  have hembeds : Embeds nestedPayload := ⟨by decide, nestedPayload_everywhere hplain trivial trivial trivial⟩
  exact ⟨hsound, hembeds, (records_survive.2.1.values _ hsound).mpr hembeds⟩

/-- An object that looks like a text standing for its value. -/
def lookalike : Json := .object [(Json.textName, .string "5")]

/-- It is read as that value. -/
theorem lookalike_changes : (eventWith lookalike).Sound ∧ lookalike.height ≤ Json.maxDepth ∧
    ¬ Survives (eventWith lookalike) := by
  have hvalue : lookalike.Everywhere Json.HasValue := by
    refine Json.everywhere_object_iff.mpr ⟨List.pairwise_singleton .., ?_⟩
    exact List.forall_mem_singleton.mpr ((Json.everywhere_leaf_iff rfl).mpr trivial)
  refine ⟨eventWith_sound hvalue, by decide, fun h => ?_⟩
  obtain ⟨here, -⟩ := ((AuditEvent.survives_iff (eventWith_sound hvalue)).mp h).plain
  have hplain : Json.holdsText [(Json.textName, .string "5")] = false := here
  simp [Json.holdsText] at hplain

end CloudDesk
