import CloudDesk.Proofs.Json.Value
import Mathlib.Data.List.Nodup

namespace CloudDesk.Json

@[simp] theorem skip_eq_ok_iff {j : Json} {u : Unit} : skip j = .ok u ↔ j.isComplete = true := by
  unfold skip
  split_ifs with h <;> simp [h]

def named? (wanted : List Field) (name : String) : Option Field :=
  wanted.find? fun w => w.name == name

/-- A field that does not stop the reading: its name is known, and it is wanted and passes its
check, or it can be passed over. -/
def Passes (wanted : List Field) (f : String × Json) : Prop :=
  f.2 ≠ .fault .name ∧ match named? wanted f.1 with
    | some w => w.check f.2 = .ok ()
    | none => f.2.isComplete = true

def isWanted (wanted : List Field) (f : String × Json) : Bool := (named? wanted f.1).isSome

theorem not_pick_of_name {wanted : List Field} {seen : List String} {f : String × Json}
    {rest fs : List (String × Json)} (h : f.2 = .fault .name) :
    pick wanted seen (f :: rest) ≠ .ok fs := by
  obtain ⟨name, value⟩ := f
  cases h
  simp [pick]

theorem pick_cons {wanted : List Field} {seen : List String} {f : String × Json}
    {rest : List (String × Json)} (h : f.2 ≠ .fault .name) :
    pick wanted seen (f :: rest) = match named? wanted f.1 with
      | none => skip f.2 >>= fun _ => pick wanted seen rest
      | some w =>
        if seen.contains f.1 then .error .mismatch
        else w.check f.2 >>= fun _ => pick wanted (f.1 :: seen) rest >>= fun more => .ok (f :: more) := by
  obtain ⟨name, value⟩ := f
  rw [pick]
  · rfl
  · rintro rfl
    exact h rfl

theorem pick_unknown_iff {wanted : List Field} {seen : List String} {f : String × Json}
    {rest fs : List (String × Json)} (hname : f.2 ≠ .fault .name) (h : named? wanted f.1 = none) :
    pick wanted seen (f :: rest) = .ok fs ↔ f.2.isComplete = true ∧ pick wanted seen rest = .ok fs := by
  rw [pick_cons hname, h, bind_eq_ok_iff]
  simp

theorem pick_wanted_iff {wanted : List Field} {seen : List String} {f : String × Json} {w : Field}
    {rest fs : List (String × Json)} (hname : f.2 ≠ .fault .name) (h : named? wanted f.1 = some w) :
    pick wanted seen (f :: rest) = .ok fs ↔ f.1 ∉ seen ∧ w.check f.2 = .ok () ∧
      ∃ more, pick wanted (f.1 :: seen) rest = .ok more ∧ f :: more = fs := by
  rw [pick_cons hname, h]
  by_cases hseen : f.1 ∈ seen
  · simp [hseen]
  · simp [hseen, bind_eq_ok_iff, Unique.exists_iff]

theorem pick_eq_ok_iff {wanted : List Field} {fields fs : List (String × Json)} {seen : List String} :
    pick wanted seen fields = .ok fs ↔
      (∀ f ∈ fields, Passes wanted f) ∧ fs = fields.filter (isWanted wanted) ∧
        (fs.map Prod.fst).Nodup ∧ ∀ name ∈ fs.map Prod.fst, name ∉ seen := by
  induction fields generalizing seen fs with
  | nil =>
    rw [pick]
    constructor
    · intro h
      cases h
      simp
    · rintro ⟨-, rfl, -, -⟩
      rfl
  | cons f rest ih =>
    by_cases hname : f.2 = .fault .name
    · simp [not_pick_of_name hname, Passes, hname]
    rw [List.forall_mem_cons]
    cases hw : named? wanted f.1 with
    | none =>
      have hpasses : Passes wanted f ↔ f.2.isComplete = true := by simp [Passes, hw, hname]
      have hout : isWanted wanted f = false := by simp [isWanted, hw]
      rw [pick_unknown_iff hname hw, ih, hpasses, List.filter_cons_of_neg (by simp [hout]), and_assoc]
    | some w =>
      have hpasses : Passes wanted f ↔ w.check f.2 = .ok () := by simp [Passes, hw, hname]
      have hin : isWanted wanted f = true := by simp [isWanted, hw]
      rw [pick_wanted_iff hname hw, hpasses, List.filter_cons_of_pos hin]
      constructor
      · rintro ⟨hseen, hcheck, more, hmore, rfl⟩
        obtain ⟨hrest, rfl, hnodup, hnew⟩ := ih.mp hmore
        refine ⟨⟨hcheck, hrest⟩, rfl, List.nodup_cons.mpr ⟨fun hf => hnew _ hf (by simp), hnodup⟩, ?_⟩
        exact List.forall_mem_cons.mpr ⟨hseen, fun name hn hs => hnew name hn (by simp [hs])⟩
      · rintro ⟨⟨hcheck, hrest⟩, rfl, hnodup, hnew⟩
        rw [List.map_cons] at hnodup hnew
        obtain ⟨hf, hnodup⟩ := List.nodup_cons.mp hnodup
        obtain ⟨hseen, hnew⟩ := List.forall_mem_cons.mp hnew
        refine ⟨hseen, hcheck, _, ih.mpr ⟨hrest, rfl, hnodup, fun name hn hs => ?_⟩, rfl⟩
        obtain rfl | hs := List.mem_cons.mp hs
        · exact hf hn
        · exact hnew name hn hs

def called (name : String) (f : String × Json) : Bool := f.1 == name

theorem lookup_eq_head? (name : String) (fs : List (String × Json)) :
    fs.lookup name = (fs.filter (called name)).head?.map Prod.snd := by
  induction fs with
  | nil => rfl
  | cons f rest ih =>
    obtain ⟨other, value⟩ := f
    by_cases h : name = other
    · subst h
      simp [called]
    · have hcalled : called name (other, value) = false := by simp [called, Ne.symm h]
      rw [List.lookup_cons, beq_false_of_ne h, List.filter_cons_of_neg (by simp [hcalled])]
      exact ih

theorem count_name (name : String) (fs : List (String × Json)) :
    (fs.map Prod.fst).count name = (fs.filter (called name)).length := by
  rw [List.count, List.countP_map, List.countP_eq_length_filter]
  rfl

theorem filter_called_of_lookup {name : String} {value : Json} {fs : List (String × Json)}
    (hnodup : (fs.map Prod.fst).Nodup) (h : fs.lookup name = some value) :
    fs.filter (called name) = [(name, value)] := by
  have hle := List.nodup_iff_count_le_one.mp hnodup name
  rw [count_name] at hle
  rw [lookup_eq_head?] at h
  have hname : ∀ f ∈ fs.filter (called name), f.1 = name := fun f hf => by
    simpa [called] using (List.mem_filter.mp hf).2
  match hfs : fs.filter (called name), h, hle, hname with
  | [], h, _, _ => simp at h
  | [f], h, _, hname =>
    have hvalue : f.2 = value := by simpa using h
    rw [← hname f (by simp), ← hvalue]
  | _ :: _ :: _, _, hle, _ => simp at hle

theorem lookup_of_filter_called {name : String} {value : Json} {fs : List (String × Json)}
    (h : fs.filter (called name) = [(name, value)]) : fs.lookup name = some value := by
  rw [lookup_eq_head?, h]
  rfl

/-- A record with the named fields: an object that has each of them once and nothing else that
cannot be passed over, or an array of them in the order of the names. -/
inductive Holds (names : List String) (value : String → Json) : Json → Prop
  | object (fields : List (String × Json))
      (once : ∀ name ∈ names, fields.filter (called name) = [(name, value name)])
      (others : ∀ f ∈ fields, f.1 ∉ names → f.2.isComplete = true)
      (read : ∀ f ∈ fields, f.2 ≠ .fault .name) : Holds names value (.object fields)
  | array : Holds names value (.array (names.map value))

theorem named?_eq_none_iff {wanted : List Field} {name : String} :
    named? wanted name = none ↔ name ∉ wanted.map Field.name := by
  simp [named?]

theorem named?_mem {wanted : List Field} {name : String} {w : Field} (h : named? wanted name = some w) :
    w ∈ wanted ∧ w.name = name :=
  ⟨List.mem_of_find?_eq_some h, by simpa using List.find?_some h⟩

theorem named?_of_mem {wanted : List Field} (hnodup : (wanted.map Field.name).Nodup) {w : Field}
    (h : w ∈ wanted) : named? wanted w.name = some w := by
  cases hw : named? wanted w.name with
  | none => exact absurd (List.mem_map_of_mem h) (named?_eq_none_iff.mp hw)
  | some w' =>
    obtain ⟨hmem, hname⟩ := named?_mem hw
    rw [List.inj_on_of_nodup_map hnodup hmem h hname]

theorem filter_wanted_called {wanted : List Field} {name : String} (h : name ∈ wanted.map Field.name)
    (fields : List (String × Json)) :
    (fields.filter (isWanted wanted)).filter (called name) = fields.filter (called name) := by
  rw [List.filter_filter]
  apply List.filter_congr
  intro f _
  by_cases hf : f.1 = name
  · have hsome : isWanted wanted f = true := by
      rw [isWanted, hf, ← Option.ne_none_iff_isSome]
      exact fun hnone => named?_eq_none_iff.mp hnone h
    simp [hsome]
  · simp [called, hf]

def Reads (wanted : List Field) (value : String → Json) (fs : List (String × Json)) : Prop :=
  ∀ w ∈ wanted, fs.lookup w.name = some (value w.name)

def Checks (wanted : List Field) (value : String → Json) : Prop :=
  ∀ w ∈ wanted, w.check (value w.name) = .ok ()

section

variable {wanted : List Field} {value : String → Json} {fields : List (String × Json)}

theorem once_of_reads (hnodup : ((fields.filter (isWanted wanted)).map Prod.fst).Nodup)
    (hreads : Reads wanted value (fields.filter (isWanted wanted))) {w : Field} (hw : w ∈ wanted) :
    fields.filter (called w.name) = [(w.name, value w.name)] := by
  rw [← filter_wanted_called (List.mem_map_of_mem hw)]
  exact filter_called_of_lookup hnodup (hreads w hw)

theorem reads_of_once (honce : ∀ w ∈ wanted, fields.filter (called w.name) = [(w.name, value w.name)]) :
    Reads wanted value (fields.filter (isWanted wanted)) := by
  intro w hw
  apply lookup_of_filter_called
  rw [filter_wanted_called (List.mem_map_of_mem hw), honce w hw]

theorem nodup_of_once (honce : ∀ w ∈ wanted, fields.filter (called w.name) = [(w.name, value w.name)]) :
    ((fields.filter (isWanted wanted)).map Prod.fst).Nodup := by
  rw [List.nodup_iff_count_le_one]
  intro name
  by_cases hname : name ∈ wanted.map Field.name
  · rw [count_name, filter_wanted_called hname]
    obtain ⟨w, hw, rfl⟩ := List.mem_map.mp hname
    rw [honce w hw]
    exact Nat.le_refl 1
  · rw [List.count_eq_zero.mpr]
    · exact Nat.zero_le 1
    · intro hmem
      obtain ⟨f, hf, rfl⟩ := List.mem_map.mp hmem
      have hsome := (List.mem_filter.mp hf).2
      rw [isWanted, named?_eq_none_iff.mpr hname] at hsome
      cases hsome

theorem checks_of_passes (hwanted : (wanted.map Field.name).Nodup) (hpasses : ∀ f ∈ fields, Passes wanted f)
    (honce : ∀ w ∈ wanted, fields.filter (called w.name) = [(w.name, value w.name)]) :
    Checks wanted value := by
  intro w hw
  have hmem : (w.name, value w.name) ∈ fields.filter (called w.name) := by
    rw [honce w hw]
    exact List.mem_singleton_self _
  have hpass := (hpasses _ (List.mem_filter.mp hmem).1).2
  rw [named?_of_mem hwanted hw] at hpass
  exact hpass

theorem passes_of_checks {f : String × Json} (hf : f ∈ fields) (hread : f.2 ≠ .fault .name)
    (hother : f.1 ∉ wanted.map Field.name → f.2.isComplete = true)
    (honce : ∀ w ∈ wanted, fields.filter (called w.name) = [(w.name, value w.name)])
    (hchecks : Checks wanted value) : Passes wanted f := by
  refine ⟨hread, ?_⟩
  cases hw : named? wanted f.1 with
  | none => exact hother (named?_eq_none_iff.mp hw)
  | some w =>
    obtain ⟨hmem, hname⟩ := named?_mem hw
    have hcalled : f ∈ fields.filter (called w.name) := List.mem_filter.mpr ⟨hf, by simp [called, hname]⟩
    rw [honce w hmem, List.mem_singleton] at hcalled
    have hcheck := hchecks w hmem
    rw [hcalled]
    exact hcheck

theorem pick_reads_iff (hwanted : (wanted.map Field.name).Nodup) :
    (∃ fs, pick wanted [] fields = .ok fs ∧ Reads wanted value fs) ↔
      Holds (wanted.map Field.name) value (.object fields) ∧ Checks wanted value := by
  constructor
  · rintro ⟨fs, hpick, hreads⟩
    obtain ⟨hpasses, rfl, hnodup, -⟩ := pick_eq_ok_iff.mp hpick
    have honce : ∀ w ∈ wanted, _ := fun w => once_of_reads hnodup hreads
    refine ⟨.object fields ?_ ?_ fun f hf => (hpasses f hf).1, checks_of_passes hwanted hpasses honce⟩
    · exact List.forall_mem_map.mpr honce
    · intro f hf hname
      have hpass := (hpasses f hf).2
      rw [named?_eq_none_iff.mpr hname] at hpass
      exact hpass
  · rintro ⟨⟨_, honce, hothers, hread⟩, hchecks⟩
    have honce := List.forall_mem_map.mp honce
    refine ⟨_, pick_eq_ok_iff.mpr ⟨fun f hf => ?_, rfl, nodup_of_once honce, by simp⟩, reads_of_once honce⟩
    exact passes_of_checks hf (hread f hf) (hothers f hf) honce hchecks

end

theorem reads_cons {wanted : List Field} {w : Field} (hnew : w.name ∉ wanted.map Field.name)
    {value : String → Json} {item : Json} {fs : List (String × Json)} :
    Reads (w :: wanted) value ((w.name, item) :: fs) ↔ item = value w.name ∧ Reads wanted value fs := by
  have hlater : ∀ w' ∈ wanted, ((w.name, item) :: fs).lookup w'.name = fs.lookup w'.name := by
    intro w' hw'
    have hne : (w'.name == w.name) = false :=
      beq_false_of_ne fun heq => hnew (heq ▸ List.mem_map_of_mem hw')
    rw [List.lookup_cons, hne]
  rw [Reads, List.forall_mem_cons, List.lookup_cons, beq_self_eq_true]
  exact and_congr Option.some_inj (forall₂_congr fun w' hw' => by rw [hlater w' hw'])

theorem align_cons_iff {wanted : List Field} {w : Field} {item : Json} {items : List Json}
    {fs : List (String × Json)} :
    align (w :: wanted) (item :: items) = .ok fs ↔
      w.check item = .ok () ∧ ∃ more, align wanted items = .ok more ∧ (w.name, item) :: more = fs := by
  simp [align, bind_eq_ok_iff, Unique.exists_iff]

theorem align_reads_iff {wanted : List Field} (hwanted : (wanted.map Field.name).Nodup)
    {value : String → Json} {items : List Json} :
    (∃ fs, align wanted items = .ok fs ∧ Reads wanted value fs) ↔
      items = (wanted.map Field.name).map value ∧ Checks wanted value := by
  induction wanted generalizing items with
  | nil => cases items <;> simp [align, Reads, Checks]
  | cons w wanted ih =>
    obtain ⟨hnew, hwanted⟩ := List.nodup_cons.mp hwanted
    cases items with
    | nil => simp [align]
    | cons item items =>
      simp only [align_cons_iff, List.map_cons, List.cons.injEq, Checks, List.forall_mem_cons]
      constructor
      · rintro ⟨_, ⟨hcheck, more, hmore, rfl⟩, hreads⟩
        obtain ⟨rfl, hrest⟩ := (reads_cons hnew).mp hreads
        obtain ⟨hitems, hchecks⟩ := (ih hwanted).mp ⟨more, hmore, hrest⟩
        exact ⟨⟨rfl, hitems⟩, hcheck, hchecks⟩
      · rintro ⟨⟨rfl, hitems⟩, hcheck, hchecks⟩
        obtain ⟨more, hmore, hreads⟩ := (ih hwanted).mpr ⟨hitems, hchecks⟩
        exact ⟨_, ⟨hcheck, more, hmore, rfl⟩, (reads_cons hnew).mpr ⟨rfl, hreads⟩⟩

/-- The wanted fields of a record are read exactly where the record holds them and their values
pass. -/
theorem fields_read_iff {wanted : List Field} (hwanted : (wanted.map Field.name).Nodup)
    {value : String → Json} {j : Json} :
    (∃ fs, j.fields wanted = .ok fs ∧ Reads wanted value fs) ↔
      Holds (wanted.map Field.name) value j ∧ Checks wanted value := by
  cases j with
  | object fields => exact pick_reads_iff hwanted
  | array items =>
    rw [fields, align_reads_iff hwanted]
    refine and_congr_left fun _ => ⟨?_, ?_⟩
    · rintro rfl
      exact .array
    · rintro ⟨⟩
      rfl
  | _ =>
    constructor
    · rintro ⟨_, h, _⟩
      cases h
    · rintro ⟨h, _⟩
      cases h

theorem mem_align {wanted : List Field} {items : List Json} {fs : List (String × Json)}
    (h : align wanted items = .ok fs) : ∀ f ∈ fs, f.2 ∈ items := by
  induction wanted generalizing items fs with
  | nil =>
    cases items <;> cases h
    simp
  | cons w wanted ih =>
    cases items with
    | nil => cases h
    | cons item items =>
      obtain ⟨-, more, hmore, rfl⟩ := align_cons_iff.mp h
      refine List.forall_mem_cons.mpr ⟨List.mem_cons_self, fun f hf => ?_⟩
      exact List.mem_cons_of_mem _ (ih hmore f hf)

theorem mem_parts_of_fields {wanted : List Field} {j : Json} {fs : List (String × Json)}
    (h : j.fields wanted = .ok fs) : ∀ f ∈ fs, f.2 ∈ j.parts := by
  cases j with
  | object fields =>
    obtain ⟨-, rfl, -⟩ := pick_eq_ok_iff.mp h
    exact fun f hf => List.mem_map_of_mem (List.mem_filter.mp hf).1
  | array items => exact mem_align h
  | _ => cases h

theorem fields_object {wanted : List Field} {fs : List (String × Json)} (hnodup : (fs.map Prod.fst).Nodup)
    (h : ∀ f ∈ fs, f.2 ≠ .fault .name ∧ ∃ w, named? wanted f.1 = some w ∧ w.check f.2 = .ok ()) :
    (object fs).fields wanted = .ok fs := by
  refine pick_eq_ok_iff.mpr ⟨fun f hf => ?_, ?_, hnodup, by simp⟩
  · obtain ⟨hname, w, hw, hcheck⟩ := h f hf
    exact ⟨hname, by rw [hw]; exact hcheck⟩
  · refine (List.filter_eq_self.mpr fun f hf => ?_).symm
    obtain ⟨-, w, hw, -⟩ := h f hf
    rw [isWanted, hw]
    rfl

theorem need_eq_ok_iff {α : Type} [Wire α] {fs : List (String × Json)} {name : String} {x : α} :
    need fs name = .ok x ↔ ∃ value, fs.lookup name = some value ∧ Wire.decode value = .ok x := by
  unfold need
  cases fs.lookup name <;> simp

theorem want_eq_ok_iff {α : Type} [Wire α] {fs : List (String × Json)} {name : String} {x : Option α} :
    want fs name = .ok x ↔ (∃ value, fs.lookup name = some value ∧ Wire.decode value = .ok x) ∨
      fs.lookup name = none ∧ x = none := by
  unfold want
  cases fs.lookup name <;> simp [eq_comm]

theorem field_passes {α : Type} [Wire α] {value : Json} {x : α} (name : String)
    (h : Wire.decode value = .ok x) : (field α name).check value = .ok () := by
  simp only [field, h]
  rfl

end CloudDesk.Json
