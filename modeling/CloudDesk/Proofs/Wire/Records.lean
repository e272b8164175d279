import CloudDesk.Billing.Record
import CloudDesk.Budget.Audit
import CloudDesk.Budget.Policy
import CloudDesk.Infrastructure.Info
import CloudDesk.Infrastructure.Template
import CloudDesk.Key.Record
import CloudDesk.Proofs.Wire.Basic

namespace CloudDesk

open Json (HasNumber HasValue need want need_eq_ok_iff want_eq_ok_iff)

namespace Wire

theorem picked {α : Type} [Wire α] [RefusesFaults α] {wanted : List Json.Field} {name : String} {value : Json}
    {x : α} (hwanted : Json.named? wanted name = some (Json.field α name)) (h : Wire.decode value = .ok x) :
    value ≠ .fault .name ∧ ∃ w, Json.named? wanted name = some w ∧ w.check value = .ok () := by
  refine ⟨?_, _, hwanted, Json.field_passes name h⟩
  rintro rfl
  exact RefusesFaults.decode_fault .name x h

section

variable {α : Type} [Wire α] {P : Json → Prop} {wanted : List Json.Field} {j : Json} {name : String}
  {fs : List (String × Json)}

theorem everywhere_of_lookup {value : Json} (hj : j.Everywhere P) (hfs : j.fields wanted = .ok fs)
    (h : fs.lookup name = some value) : value.Everywhere P := by
  obtain ⟨before, after, rfl, -⟩ := List.lookup_eq_some_iff.mp h
  obtain ⟨-, inside⟩ := hj
  exact inside value (Json.mem_parts_of_fields hfs (name, value) (by simp))

theorem need_inside {x : α} (hj : j.Everywhere P) (hfs : j.fields wanted = .ok fs) (h : need fs name = .ok x) :
    ∃ value, value.Everywhere P ∧ Wire.decode value = .ok x := by
  obtain ⟨value, hlookup, hdecode⟩ := need_eq_ok_iff.mp h
  exact ⟨value, everywhere_of_lookup hj hfs hlookup, hdecode⟩

theorem want_inside {x : Option α} (hj : j.Everywhere P) (hfs : j.fields wanted = .ok fs)
    (h : want fs name = .ok x) : ∀ y ∈ x, ∃ value, value.Everywhere P ∧ Wire.decode value = .ok y := by
  intro y hy
  obtain ⟨value, hlookup, hdecode⟩ | ⟨-, rfl⟩ := want_eq_ok_iff.mp h
  · exact ⟨value, everywhere_of_lookup hj hfs hlookup, decode_of_option hdecode y hy⟩
  · cases hy

end

theorem decode_named {α : Type} {all : List α} {name : α → String} {x : α}
    (h : all.find? (fun y => name y == name x) = some x) :
    (Json.ofNames all name).decode ((Json.ofNames all name).encode x) = .ok x := by
  change Json.ofNames.find all name (name x) = .ok x
  rw [Json.ofNames.find, h]

theorem refusesFaults_named {α : Type} (all : List α) (name : α → String) :
    @RefusesFaults α (Json.ofNames all name) :=
  @RefusesFaults.mk α (Json.ofNames all name) nofun

instance : RefusesFaults KeyStatus := refusesFaults_named _ _
instance : RefusesFaults AuditKind := refusesFaults_named _ _
instance : RefusesFaults TemplateKind := refusesFaults_named _ _
instance : RefusesFaults Kind := refusesFaults_named _ _
instance : RefusesFaults Category := refusesFaults_named _ _
instance : RefusesFaults Provider := refusesFaults_named _ _

end Wire

open Wire

namespace Policy

structure Sound (p : Policy) : Prop where
  ceiling : p.ceiling.isFinite = true
  accrued : p.accrued.isFinite = true
  refreshedAt : ∀ t ∈ p.refreshedAt, t.Sound

def wanted : List Json.Field := [Json.field String "owner", Json.field Float "ceiling",
  Json.field Float "accrued", Json.field (Option Instant) "refreshed_at"]

theorem decode_iff {j : Json} {p : Policy} : Wire.decode j = .ok p ↔ ∃ fs, j.fields wanted = .ok fs ∧
    need fs "owner" = .ok p.owner ∧ need fs "ceiling" = .ok p.ceiling ∧ need fs "accrued" = .ok p.accrued ∧
    want fs "refreshed_at" = .ok p.refreshedAt := by
  simp only [Wire.decode, ofFields, bind_eq_ok_iff]
  refine exists_congr fun fs => and_congr_right fun _ => ⟨?_, ?_⟩
  · rintro ⟨_, howner, _, hceiling, _, haccrued, _, hrefreshed, h⟩
    cases h
    exact ⟨howner, hceiling, haccrued, hrefreshed⟩
  · rintro ⟨howner, hceiling, haccrued, hrefreshed⟩
    exact ⟨_, howner, _, hceiling, _, haccrued, _, hrefreshed, rfl⟩

theorem sound_of_decode {j : Json} {p : Policy} (hj : j.Everywhere HasNumber) (h : Wire.decode j = .ok p) :
    p.Sound := by
  obtain ⟨fs, hfs, -, hceiling, haccrued, hrefreshed⟩ := decode_iff.mp h
  obtain ⟨ceiling, hplain, hceiling⟩ := need_inside hj hfs hceiling
  obtain ⟨accrued, hplain', haccrued⟩ := need_inside hj hfs haccrued
  refine ⟨isFinite_of_decode hplain hceiling, isFinite_of_decode hplain' haccrued, fun t ht => ?_⟩
  obtain ⟨value, -, ht⟩ := want_inside hj hfs hrefreshed t ht
  exact Wire.sound_of_decode ht

theorem survives {p : Policy} (h : p.Sound) : Survives p := by
  have hceiling : Wire.decode (Wire.encode p.ceiling) = .ok p.ceiling := decode_float h.ceiling
  have haccrued : Wire.decode (Wire.encode p.accrued) = .ok p.accrued := decode_float h.accrued
  obtain ⟨t, ht, hsame⟩ := option_survives fun t ht => ⟨instant_survives (h.refreshedAt t ht), nofun⟩
  have hfields : (Json.object p.toFields).fields wanted = .ok p.toFields := by
    refine Json.fields_object (by simp [toFields]) ?_
    simp only [toFields, List.forall_mem_cons]
    exact ⟨picked rfl (decode_string p.owner), picked rfl hceiling, picked rfl haccrued, picked rfl ht, by simp⟩
  refine ⟨⟨p.owner, p.ceiling, p.accrued, t⟩, decode_iff.mpr ⟨_, hfields, ?_⟩, ?_⟩
  · exact ⟨need_eq_ok_iff.mpr ⟨_, rfl, decode_string p.owner⟩, need_eq_ok_iff.mpr ⟨_, rfl, hceiling⟩,
      need_eq_ok_iff.mpr ⟨_, rfl, haccrued⟩, want_eq_ok_iff.mpr (Or.inl ⟨_, rfl, ht⟩)⟩
  · change Json.object (toFields ⟨p.owner, p.ceiling, p.accrued, t⟩) = Json.object p.toFields
    rw [toFields, toFields, hsame]

end Policy

namespace CostRecord

structure Sound (r : CostRecord) : Prop where
  amount : r.amount.isFinite = true
  timestamp : r.timestamp.Sound

def wanted : List Json.Field := [Json.field String "resource_kind", Json.field Float "amount",
  Json.field String "currency", Json.field Instant "timestamp"]

def toFields (r : CostRecord) : List (String × Json) := [("resource_kind", Wire.encode r.kind),
  ("amount", Wire.encode r.amount), ("currency", Wire.encode r.currency), ("timestamp", Wire.encode r.timestamp)]

theorem decode_iff {j : Json} {r : CostRecord} : Wire.decode j = .ok r ↔ ∃ fs, j.fields wanted = .ok fs ∧
    need fs "resource_kind" = .ok r.kind ∧ need fs "amount" = .ok r.amount ∧
    need fs "currency" = .ok r.currency ∧ need fs "timestamp" = .ok r.timestamp := by
  simp only [Wire.decode, bind_eq_ok_iff]
  refine exists_congr fun fs => and_congr_right fun _ => ⟨?_, ?_⟩
  · rintro ⟨_, hkind, _, hamount, _, hcurrency, _, htimestamp, h⟩
    cases h
    exact ⟨hkind, hamount, hcurrency, htimestamp⟩
  · rintro ⟨hkind, hamount, hcurrency, htimestamp⟩
    exact ⟨_, hkind, _, hamount, _, hcurrency, _, htimestamp, rfl⟩

theorem sound_of_decode {j : Json} {r : CostRecord} (hj : j.Everywhere HasNumber) (h : Wire.decode j = .ok r) :
    r.Sound := by
  obtain ⟨fs, hfs, -, hamount, -, htimestamp⟩ := decode_iff.mp h
  obtain ⟨amount, hnumber, hamount⟩ := need_inside hj hfs hamount
  obtain ⟨timestamp, -, htimestamp⟩ := need_inside hj hfs htimestamp
  exact ⟨isFinite_of_decode hnumber hamount, Wire.sound_of_decode htimestamp⟩

theorem survives {r : CostRecord} (h : r.Sound) : Survives r := by
  have hkind := decode_string r.kind
  have hamount := decode_float h.amount
  have hcurrency := decode_string r.currency
  obtain ⟨t, ht, hsame⟩ := instant_survives h.timestamp
  have hfields : (Json.object r.toFields).fields wanted = .ok r.toFields := by
    refine Json.fields_object (by simp [toFields]) ?_
    simp only [toFields, List.forall_mem_cons]
    exact ⟨picked rfl hkind, picked rfl hamount, picked rfl hcurrency, picked rfl ht, by simp⟩
  refine ⟨{ r with timestamp := t }, decode_iff.mpr ⟨_, hfields, ?_⟩, ?_⟩
  · exact ⟨need_eq_ok_iff.mpr ⟨_, rfl, hkind⟩, need_eq_ok_iff.mpr ⟨_, rfl, hamount⟩,
      need_eq_ok_iff.mpr ⟨_, rfl, hcurrency⟩, need_eq_ok_iff.mpr ⟨_, rfl, ht⟩⟩
  · change Json.object (toFields { r with timestamp := t }) = Json.object r.toFields
    rw [toFields, toFields, hsame]

end CostRecord

namespace AuditKind

theorem decode_encode (k : AuditKind) : Wire.decode (Wire.encode k) = .ok k :=
  decode_named (by cases k <;> rfl)

end AuditKind

namespace AuditEvent

structure Sound (e : AuditEvent) : Prop where
  id : e.id.bytes.length = 16
  payload : e.payload.Everywhere HasValue
  occurredAt : e.occurredAt.Sound

def wanted : List Json.Field := [Json.field Uuid "id", Json.field String "owner",
  Json.field AuditKind "event_type", Json.field String "operation", Json.field Json "payload",
  Json.field Instant "occurred_at"]

def toFields (e : AuditEvent) : List (String × Json) := [("id", Wire.encode e.id),
  ("owner", Wire.encode e.owner), ("event_type", Wire.encode e.kind), ("operation", Wire.encode e.operation),
  ("payload", Wire.encode e.payload), ("occurred_at", Wire.encode e.occurredAt)]

theorem decode_iff {j : Json} {e : AuditEvent} : Wire.decode j = .ok e ↔ ∃ fs, j.fields wanted = .ok fs ∧
    need fs "id" = .ok e.id ∧ need fs "owner" = .ok e.owner ∧ need fs "event_type" = .ok e.kind ∧
    need fs "operation" = .ok e.operation ∧ need fs "payload" = .ok e.payload ∧
    need fs "occurred_at" = .ok e.occurredAt := by
  simp only [Wire.decode, bind_eq_ok_iff]
  refine exists_congr fun fs => and_congr_right fun _ => ⟨?_, ?_⟩
  · rintro ⟨_, hid, _, howner, _, hkind, _, hoperation, _, hpayload, _, hoccurred, h⟩
    cases h
    exact ⟨hid, howner, hkind, hoperation, hpayload, hoccurred⟩
  · rintro ⟨hid, howner, hkind, hoperation, hpayload, hoccurred⟩
    exact ⟨_, hid, _, howner, _, hkind, _, hoperation, _, hpayload, _, hoccurred, rfl⟩

theorem sound_of_decode {j : Json} {e : AuditEvent} (hj : j.Everywhere HasNumber) (h : Wire.decode j = .ok e) :
    e.Sound := by
  obtain ⟨fs, hfs, hid, -, -, -, hpayload, hoccurred⟩ := decode_iff.mp h
  obtain ⟨id, -, hid⟩ := need_inside hj hfs hid
  obtain ⟨payload, hnumbers, hpayload⟩ := need_inside hj hfs hpayload
  obtain ⟨occurred, -, hoccurred⟩ := need_inside hj hfs hoccurred
  exact ⟨length_of_decode hid, hasValue_of_decode hnumbers hpayload, Wire.sound_of_decode hoccurred⟩

theorem survives {e : AuditEvent} (h : e.Sound) (hpayload : Embeds e.payload) : Survives e := by
  have hid := decode_uuid h.id
  have howner := decode_string e.owner
  have hkind := e.kind.decode_encode
  have hoperation := decode_string e.operation
  have hpayload := (decode_embedded_iff h.payload).mpr hpayload
  obtain ⟨t, ht, hsame⟩ := instant_survives h.occurredAt
  have hfields : (Json.object e.toFields).fields wanted = .ok e.toFields := by
    refine Json.fields_object (by simp [toFields]) ?_
    simp only [toFields, List.forall_mem_cons]
    exact ⟨picked rfl hid, picked rfl howner, picked rfl hkind, picked rfl hoperation, picked rfl hpayload,
      picked rfl ht, by simp⟩
  refine ⟨{ e with occurredAt := t }, decode_iff.mpr ⟨_, hfields, ?_⟩, ?_⟩
  · exact ⟨need_eq_ok_iff.mpr ⟨_, rfl, hid⟩, need_eq_ok_iff.mpr ⟨_, rfl, howner⟩,
      need_eq_ok_iff.mpr ⟨_, rfl, hkind⟩, need_eq_ok_iff.mpr ⟨_, rfl, hoperation⟩,
      need_eq_ok_iff.mpr ⟨_, rfl, hpayload⟩, need_eq_ok_iff.mpr ⟨_, rfl, ht⟩⟩
  · change Json.object (toFields { e with occurredAt := t }) = Json.object e.toFields
    rw [toFields, toFields, hsame]

theorem survives_iff {e : AuditEvent} (h : e.Sound) : Survives e ↔ Embeds e.payload := by
  refine ⟨?_, survives h⟩
  rintro ⟨y, hy, hsame⟩
  obtain ⟨fs, hfs, -, -, -, -, hpayload, -⟩ := decode_iff.mp hy
  obtain ⟨-, rfl, -⟩ := Json.pick_eq_ok_iff.mp hfs
  have hread : Wire.decode (Wire.encode e.payload) = .ok y.payload := hpayload
  have hkept : some y.payload = some e.payload := congrArg (fun j => j.parts[4]?) hsame
  rw [Option.some.inj hkept] at hread
  exact (decode_embedded_iff h.payload).mp hread

end AuditEvent

namespace KeyStatus

theorem decode_encode (s : KeyStatus) : Wire.decode (Wire.encode s) = .ok s :=
  decode_named (by cases s <;> rfl)

end KeyStatus

namespace KeyRecord

structure Sound (r : KeyRecord) : Prop where
  details : r.details.Everywhere HasValue
  uploadedAt : r.uploadedAt.Sound
  updatedAt : r.updatedAt.Sound

def wanted : List Json.Field := [Json.field String "owner", Json.field KeyStatus "status",
  Json.field String "public_key", Json.field String "fingerprint", Json.field String "edge_key_name",
  Json.field Json "provider_details", Json.field Instant "uploaded_at", Json.field Instant "updated_at"]

def toFields (r : KeyRecord) : List (String × Json) := [("owner", Wire.encode r.owner),
  ("status", Wire.encode r.status), ("public_key", Wire.encode r.publicKey),
  ("fingerprint", Wire.encode r.fingerprint), ("edge_key_name", Wire.encode r.edgeKeyName),
  ("provider_details", Wire.encode r.details), ("uploaded_at", Wire.encode r.uploadedAt),
  ("updated_at", Wire.encode r.updatedAt)]

theorem decode_iff {j : Json} {r : KeyRecord} : Wire.decode j = .ok r ↔ ∃ fs, j.fields wanted = .ok fs ∧
    need fs "owner" = .ok r.owner ∧ need fs "status" = .ok r.status ∧ need fs "public_key" = .ok r.publicKey ∧
    need fs "fingerprint" = .ok r.fingerprint ∧ need fs "edge_key_name" = .ok r.edgeKeyName ∧
    need fs "provider_details" = .ok r.details ∧ need fs "uploaded_at" = .ok r.uploadedAt ∧
    need fs "updated_at" = .ok r.updatedAt := by
  simp only [Wire.decode, bind_eq_ok_iff]
  refine exists_congr fun fs => and_congr_right fun _ => ⟨?_, ?_⟩
  · rintro ⟨_, howner, _, hstatus, _, hkey, _, hfingerprint, _, hname, _, hdetails, _, huploaded, _, hupdated, h⟩
    cases h
    exact ⟨howner, hstatus, hkey, hfingerprint, hname, hdetails, huploaded, hupdated⟩
  · rintro ⟨howner, hstatus, hkey, hfingerprint, hname, hdetails, huploaded, hupdated⟩
    exact ⟨_, howner, _, hstatus, _, hkey, _, hfingerprint, _, hname, _, hdetails, _, huploaded, _, hupdated, rfl⟩

theorem sound_of_decode {j : Json} {r : KeyRecord} (hj : j.Everywhere HasNumber) (h : Wire.decode j = .ok r) :
    r.Sound := by
  obtain ⟨fs, hfs, -, -, -, -, -, hdetails, huploaded, hupdated⟩ := decode_iff.mp h
  obtain ⟨details, hnumbers, hdetails⟩ := need_inside hj hfs hdetails
  obtain ⟨uploaded, -, huploaded⟩ := need_inside hj hfs huploaded
  obtain ⟨updated, -, hupdated⟩ := need_inside hj hfs hupdated
  exact ⟨hasValue_of_decode hnumbers hdetails, Wire.sound_of_decode huploaded, Wire.sound_of_decode hupdated⟩

theorem survives {r : KeyRecord} (h : r.Sound) (hdetails : Embeds r.details) : Survives r := by
  have howner := decode_string r.owner
  have hstatus := r.status.decode_encode
  have hkey := decode_string r.publicKey
  have hfingerprint := decode_string r.fingerprint
  have hname := decode_string r.edgeKeyName
  have hdetails := (decode_embedded_iff h.details).mpr hdetails
  obtain ⟨t, ht, hsame⟩ := instant_survives h.uploadedAt
  obtain ⟨t', ht', hsame'⟩ := instant_survives h.updatedAt
  have hfields : (Json.object r.toFields).fields wanted = .ok r.toFields := by
    refine Json.fields_object (by simp [toFields]) ?_
    simp only [toFields, List.forall_mem_cons]
    exact ⟨picked rfl howner, picked rfl hstatus, picked rfl hkey, picked rfl hfingerprint, picked rfl hname,
      picked rfl hdetails, picked rfl ht, picked rfl ht', by simp⟩
  refine ⟨{ r with uploadedAt := t, updatedAt := t' }, decode_iff.mpr ⟨_, hfields, ?_⟩, ?_⟩
  · exact ⟨need_eq_ok_iff.mpr ⟨_, rfl, howner⟩, need_eq_ok_iff.mpr ⟨_, rfl, hstatus⟩,
      need_eq_ok_iff.mpr ⟨_, rfl, hkey⟩, need_eq_ok_iff.mpr ⟨_, rfl, hfingerprint⟩,
      need_eq_ok_iff.mpr ⟨_, rfl, hname⟩, need_eq_ok_iff.mpr ⟨_, rfl, hdetails⟩,
      need_eq_ok_iff.mpr ⟨_, rfl, ht⟩, need_eq_ok_iff.mpr ⟨_, rfl, ht'⟩⟩
  · change Json.object (toFields { r with uploadedAt := t, updatedAt := t' }) = Json.object r.toFields
    rw [toFields, toFields, hsame, hsame']

theorem survives_iff {r : KeyRecord} (h : r.Sound) : Survives r ↔ Embeds r.details := by
  refine ⟨?_, survives h⟩
  rintro ⟨y, hy, hsame⟩
  obtain ⟨fs, hfs, -, -, -, -, -, hdetails, -⟩ := decode_iff.mp hy
  obtain ⟨-, rfl, -⟩ := Json.pick_eq_ok_iff.mp hfs
  have hread : Wire.decode (Wire.encode r.details) = .ok y.details := hdetails
  have hkept : some y.details = some r.details := congrArg (fun j => j.parts[5]?) hsame
  rw [Option.some.inj hkept] at hread
  exact (decode_embedded_iff h.details).mp hread

end KeyRecord

namespace TemplateKind

theorem decode_encode (k : TemplateKind) : Wire.decode (Wire.encode k) = .ok k :=
  decode_named (by cases k <;> rfl)

end TemplateKind

namespace Template

def wanted : List Json.Field := [Json.field String "name", Json.field TemplateKind "kind",
  Json.field String "application", Json.field String "description", Json.field (List String) "shapes"]

def toFields (t : Template) : List (String × Json) := [("name", Wire.encode t.name), ("kind", Wire.encode t.kind),
  ("application", Wire.encode t.application), ("description", Wire.encode t.description),
  ("shapes", Wire.encode t.shapes)]

theorem decode_encode (t : Template) : Wire.decode (Wire.encode t) = .ok t := by
  have hname := decode_string t.name
  have hkind := t.kind.decode_encode
  have happlication := decode_string t.application
  have hdescription := decode_string t.description
  have hshapes : Wire.decode (Wire.encode t.shapes) = .ok t.shapes := decode_list fun s _ => decode_string s
  have hfields : (Json.object t.toFields).fields wanted = .ok t.toFields := by
    refine Json.fields_object (by simp [toFields]) ?_
    simp only [toFields, List.forall_mem_cons]
    exact ⟨picked rfl hname, picked rfl hkind, picked rfl happlication, picked rfl hdescription,
      picked rfl hshapes, by simp⟩
  refine bind_eq_ok_iff.mpr ⟨_, hfields, ?_⟩
  simp only [bind_eq_ok_iff]
  exact ⟨_, need_eq_ok_iff.mpr ⟨_, rfl, hname⟩, _, need_eq_ok_iff.mpr ⟨_, rfl, hkind⟩,
    _, need_eq_ok_iff.mpr ⟨_, rfl, happlication⟩, _, need_eq_ok_iff.mpr ⟨_, rfl, hdescription⟩,
    _, need_eq_ok_iff.mpr ⟨_, rfl, hshapes⟩, rfl⟩

end Template

namespace Kind

theorem decode_encode (k : Kind) : Wire.decode (Wire.encode k) = .ok k :=
  decode_named (by cases k <;> rfl)

end Kind

namespace Category

theorem decode_encode (c : Category) : Wire.decode (Wire.encode c) = .ok c :=
  decode_named (by cases c <;> rfl)

end Category

namespace Provider

theorem decode_encode (p : Provider) : Wire.decode (Wire.encode p) = .ok p :=
  decode_named (by cases p <;> rfl)

end Provider

namespace StorageResource

def wanted : List Json.Field :=
  [Json.field Kind "kind", Json.field Category "category", Json.field String "name"]

def toFields (r : StorageResource) : List (String × Json) := [("kind", Wire.encode r.kind),
  ("category", Wire.encode r.category), ("name", Wire.encode r.name)]

theorem decode_encode (r : StorageResource) : Wire.decode (Wire.encode r) = .ok r := by
  have hkind := r.kind.decode_encode
  have hcategory := r.category.decode_encode
  have hname := decode_string r.name
  have hfields : (Json.object r.toFields).fields wanted = .ok r.toFields := by
    refine Json.fields_object (by simp [toFields]) ?_
    simp only [toFields, List.forall_mem_cons]
    exact ⟨picked rfl hkind, picked rfl hcategory, picked rfl hname, by simp⟩
  refine bind_eq_ok_iff.mpr ⟨_, hfields, ?_⟩
  simp only [bind_eq_ok_iff]
  exact ⟨_, need_eq_ok_iff.mpr ⟨_, rfl, hkind⟩, _, need_eq_ok_iff.mpr ⟨_, rfl, hcategory⟩,
    _, need_eq_ok_iff.mpr ⟨_, rfl, hname⟩, rfl⟩

end StorageResource

namespace SharedInfo

def wanted : List Json.Field := [Json.field Provider "provider", Json.field String "owner",
  Json.field String "user_name", Json.field String "edge_node_name", Json.field String "subnet_name",
  Json.field String "security_group_name", Json.field String "region",
  Json.field (Option String) "resource_group", Json.field (Option String) "storage_account",
  Json.field (List StorageResource) "storage"]

def toFields (i : SharedInfo) : List (String × Json) := [("provider", Wire.encode i.provider),
  ("owner", Wire.encode i.owner), ("user_name", Wire.encode i.userName),
  ("edge_node_name", Wire.encode i.edgeNodeName), ("subnet_name", Wire.encode i.subnetName),
  ("security_group_name", Wire.encode i.securityGroupName), ("region", Wire.encode i.region)] ++
  whenSome "resource_group" i.resourceGroup ++ whenSome "storage_account" i.storageAccount ++
  [("storage", Wire.encode i.storage)]

theorem picked_whenSome {name : String} (h : Json.named? wanted name = some (Json.field (Option String) name))
    (x : Option String) : ∀ f ∈ whenSome name x, f.2 ≠ .fault .name ∧
      ∃ w, Json.named? wanted f.1 = some w ∧ w.check f.2 = .ok () := by
  cases x with
  | none => exact List.forall_mem_nil _
  | some s =>
    have hs : Wire.decode (.string s) = .ok (some s) := rfl
    exact List.forall_mem_cons.mpr ⟨picked h hs, List.forall_mem_nil _⟩

theorem fields_toFields (i : SharedInfo) : (Json.object i.toFields).fields wanted = .ok i.toFields := by
  have hstorage : Wire.decode (Wire.encode i.storage) = .ok i.storage := decode_list fun r _ => r.decode_encode
  refine Json.fields_object ?_ ?_
  · obtain ⟨provider, owner, userName, edge, subnet, security, region, group, account, storage⟩ := i
    cases group <;> cases account <;> simp [toFields, whenSome]
  · simp only [toFields, List.forall_mem_append, List.forall_mem_cons]
    exact ⟨⟨⟨⟨picked rfl i.provider.decode_encode, picked rfl (decode_string _), picked rfl (decode_string _),
      picked rfl (decode_string _), picked rfl (decode_string _), picked rfl (decode_string _),
      picked rfl (decode_string _), List.forall_mem_nil _⟩, picked_whenSome rfl _⟩, picked_whenSome rfl _⟩,
      picked rfl hstorage, List.forall_mem_nil _⟩

/-- With or without the fields in between, each optional field is found as it was left. -/
theorem wanted_toFields (i : SharedInfo) : want i.toFields "resource_group" = .ok i.resourceGroup ∧
    want i.toFields "storage_account" = .ok i.storageAccount ∧
    need i.toFields "storage" = Wire.decode (α := List StorageResource) (Wire.encode i.storage) := by
  obtain ⟨provider, owner, userName, edge, subnet, security, region, group, account, storage⟩ := i
  cases group <;> cases account <;> exact ⟨rfl, rfl, rfl⟩

theorem decode_encode (i : SharedInfo) : Wire.decode (Wire.encode i) = .ok i := by
  have hstorage : Wire.decode (Wire.encode i.storage) = .ok i.storage := decode_list fun r _ => r.decode_encode
  obtain ⟨hgroup, haccount, hneed⟩ := wanted_toFields i
  refine bind_eq_ok_iff.mpr ⟨_, i.fields_toFields, ?_⟩
  simp only [bind_eq_ok_iff]
  exact ⟨_, need_eq_ok_iff.mpr ⟨_, rfl, i.provider.decode_encode⟩, _, need_eq_ok_iff.mpr ⟨_, rfl, decode_string _⟩,
    _, need_eq_ok_iff.mpr ⟨_, rfl, decode_string _⟩, _, need_eq_ok_iff.mpr ⟨_, rfl, decode_string _⟩,
    _, need_eq_ok_iff.mpr ⟨_, rfl, decode_string _⟩, _, need_eq_ok_iff.mpr ⟨_, rfl, decode_string _⟩,
    _, need_eq_ok_iff.mpr ⟨_, rfl, decode_string _⟩, _, hgroup, _, haccount, _, hneed.trans hstorage, rfl⟩

end SharedInfo

end CloudDesk
