import CloudDesk.Proofs.Desk.Effects
import CloudDesk.Proofs.Desk.Notebook
import Mathlib.Data.List.Forall2

namespace CloudDesk

/-- Names that differ at most by hyphens in place of underscores, or the other way round. -/
def SpelledAlike (a b : String) : Prop :=
  List.Forall₂ (fun c c' => c = c' ∨ (c ∈ ['_', '-'] ∧ c' ∈ ['_', '-'])) a.toList b.toList

def hyphenated (c : Char) : Char := if c = '_' then '-' else c

theorem hyphenated_eq_iff (c c' : Char) :
    hyphenated c = hyphenated c' ↔ c = c' ∨ (c ∈ ['_', '-'] ∧ c' ∈ ['_', '-']) := by
  unfold hyphenated
  split_ifs <;> grind

theorem userName_eq_iff (a b : String) : userName a = userName b ↔ SpelledAlike a b := by
  have hmap : userName a = userName b ↔ a.toList.map hyphenated = b.toList.map hyphenated :=
    String.ofList_inj
  rw [hmap, ← List.forall₂_eq_eq_eq, List.forall₂_map_left_iff, List.forall₂_map_right_iff]
  simp only [hyphenated_eq_iff]
  rfl

theorem userName_eq_self {owner : String} (h : '_' ∉ owner.toList) : userName owner = owner :=
  String.toList_inj.mp (String.toList_ofList.trans (Text.replace_of_not_mem h '-'))

theorem userName_eq_plain {owner plain : String} (hunderscore : '_' ∉ plain.toList)
    (hhyphen : '-' ∉ plain.toList) : userName owner = plain ↔ owner = plain := by
  constructor
  · intro h
    have hlist : owner.toList.map hyphenated = plain.toList := by
      rw [← h]
      exact String.toList_ofList.symm
    have hown : '_' ∉ owner.toList := by
      intro hmem
      apply hhyphen
      rw [← hlist]
      exact List.mem_map.mpr ⟨'_', hmem, rfl⟩
    rw [← userName_eq_self hown, h]
  · rintro rfl
    exact userName_eq_self hunderscore

def resourceName (baseName user ending : String) : String := baseName ++ "-" ++ user ++ ending

theorem resourceName_eq (baseName : String) {user ending rest : String}
    (h : rest = "-" ++ user ++ ending) : baseName ++ rest = resourceName baseName user ending := by
  rw [h, resourceName, String.append_assoc, String.append_assoc, String.append_assoc]

def endings : List String := ["-edge", "-subnet", "-edge-sg", "-bucket", "-container", "-key"]

/-- No ending is at the end of another one. -/
theorem endings_suffix : ∀ e ∈ endings, ∀ e' ∈ endings, e.toList <:+ e'.toList → e = e' := by
  decide +kernel

theorem resourceName_inj {baseName u u' e e' : String} (he : e ∈ endings) (he' : e' ∈ endings)
    (h : resourceName baseName u e = resourceName baseName u' e') : u = u' := by
  have hlist := congrArg String.toList h
  simp only [resourceName, String.toList_append] at hlist
  -- both endings end the same name, so one of them ends the other
  have hsame : e = e' := by
    have hend := List.suffix_append (baseName.toList ++ "-".toList ++ u.toList) e.toList
    have hend' := List.suffix_append (baseName.toList ++ "-".toList ++ u'.toList) e'.toList
    rw [hlist] at hend
    obtain hsuffix | hsuffix := List.suffix_or_suffix_of_suffix hend hend'
    · exact endings_suffix e he e' he' hsuffix
    · exact (endings_suffix e' he' e he hsuffix).symm
  rw [hsame, resourceName, resourceName, String.append_left_inj, String.append_right_inj] at h
  exact h

def SharedInfo.namesIn (info : SharedInfo) (scope : Scope) : List String :=
  (info.storage.filter fun r => r.kind.scope = scope).map (·.name)

namespace Cloud

def storageEnding : Cloud → String
  | .aws => "-bucket"
  | .azure => "-container"

def keyEnding : Cloud → String
  | .aws => "-key"
  | .azure => "-edge"

variable (cloud : Cloud) (s : Settings) (owner : String)

theorem storageEnding_mem : cloud.storageEnding ∈ endings := by
  cases cloud <;> decide

theorem keyEnding_mem : cloud.keyEnding ∈ endings := by
  cases cloud <;> decide

theorem namesIn_edge : (cloud.sharedInfo s owner).namesIn .edge =
    [resourceName s.baseName (userName owner) cloud.storageEnding] := by
  cases cloud <;> rfl

theorem namesIn_ssn : (cloud.sharedInfo s owner).namesIn .ssn =
    [resourceName s.baseName "ssn" cloud.storageEnding] := by
  cases cloud with
  | aws => exact congrArg List.singleton (resourceName_eq s.baseName rfl)
  | azure => exact congrArg List.singleton (resourceName_eq s.baseName rfl)

theorem namesIn_collaboration : (cloud.sharedInfo s owner).namesIn .collaboration =
    [resourceName s.baseName "shared" cloud.storageEnding] := by
  cases cloud with
  | aws => exact congrArg List.singleton (resourceName_eq s.baseName rfl)
  | azure => exact congrArg List.singleton (resourceName_eq s.baseName rfl)

theorem edgeKeyName_eq : (cloud.keyBinding s owner).edgeKeyName =
    resourceName s.baseName (userName owner) cloud.keyEnding := by
  cases cloud <;> rfl

end Cloud

theorem own_storage_common_iff (cloud : Cloud) (baseName : String) {owner user : String}
    (hunderscore : '_' ∉ user.toList) (hhyphen : '-' ∉ user.toList) :
    resourceName baseName (userName owner) cloud.storageEnding =
      resourceName baseName user cloud.storageEnding ↔ owner = user := by
  rw [← userName_eq_plain hunderscore hhyphen]
  constructor
  · exact resourceName_inj cloud.storageEnding_mem cloud.storageEnding_mem
  · intro h
    rw [h]

namespace Desk

def KeysBound (d : Desk) : Prop :=
  ∀ owner record, d.keys.get? owner = some record →
    record.edgeKeyName = (d.binding owner).edgeKeyName

theorem perform_keysBound {d : Desk} (h : d.KeysBound) (stamp : Stamp) (call : Call) :
    (d.perform stamp call).desk.KeysBound := by
  have hbinding : (d.perform stamp call).desk.binding = d.binding := by
    funext owner
    simp only [binding, cloud, settings, perform_bundle]
  intro owner record hrecord
  rw [hbinding]
  cases perform_files stamp d call with
  | nothing hkeys =>
    rw [hkeys] at hrecord
    exact h owner record hrecord
  | record hcall howner hanswer hkeys hname =>
    rw [hkeys, Table.get?_put] at hrecord
    split_ifs at hrecord with ho
    · cases hrecord
      subst ho
      obtain hname | ⟨before, hbefore, hname⟩ := hname
      · exact hname
      · exact hname.trans (h owner before hbefore)
    · exact h owner record hrecord

/-- The names that are derived for an owner: the edge node, the subnet, the security group and the
storage of the owner, and the edge key name of the owner's key. -/
def namesOf (d : Desk) (owner : String) : List String :=
  let info := d.cloud.sharedInfo d.settings owner
  [info.edgeNodeName, info.subnetName, info.securityGroupName] ++ info.namesIn .edge ++
    ((d.keys.get? owner).map KeyRecord.edgeKeyName).toList

theorem edgeNodeName_mem (d : Desk) (owner : String) :
    resourceName d.settings.baseName (userName owner) "-edge" ∈ d.namesOf owner :=
  List.mem_cons_self

theorem namesOf_form {d : Desk} (h : d.KeysBound) {owner n : String} (hn : n ∈ d.namesOf owner) :
    ∃ e ∈ endings, n = resourceName d.settings.baseName (userName owner) e := by
  simp only [namesOf, Cloud.namesIn_edge, List.mem_append, List.mem_cons, List.not_mem_nil,
    or_false, Option.mem_toList] at hn
  obtain ((rfl | rfl | rfl) | rfl) | hkey := hn
  · exact ⟨"-edge", by decide, rfl⟩
  · exact ⟨"-subnet", by decide, rfl⟩
  · exact ⟨"-edge-sg", by decide, rfl⟩
  · exact ⟨d.cloud.storageEnding, d.cloud.storageEnding_mem, rfl⟩
  · obtain ⟨record, hrecord, rfl⟩ := Option.map_eq_some_iff.mp hkey
    refine ⟨d.cloud.keyEnding, d.cloud.keyEnding_mem, ?_⟩
    rw [h owner record hrecord, binding, Cloud.edgeKeyName_eq]

theorem names_shared_iff {d : Desk} (h : d.KeysBound) (a b : String) :
    (∃ n ∈ d.namesOf a, n ∈ d.namesOf b) ↔ SpelledAlike a b := by
  rw [← userName_eq_iff]
  constructor
  · rintro ⟨n, ha, hb⟩
    obtain ⟨e, he, hn⟩ := namesOf_form h ha
    obtain ⟨e', he', hn'⟩ := namesOf_form h hb
    exact resourceName_inj he he' (hn.symm.trans hn')
  · intro hsame
    refine ⟨_, d.edgeNodeName_mem a, ?_⟩
    rw [hsame]
    exact d.edgeNodeName_mem b

end Desk

namespace Service

theorem step_keysBound {s : Service} (h : s.desk.KeysBound) (e : Event) :
    (s.step e).desk.KeysBound := by
  cases hr : e.request? with
  | none =>
    obtain ⟨schedule, hdesk⟩ := s.step_desk hr
    rw [hdesk]
    exact h
  | some r =>
    cases e with
    | request stamp r =>
      simp only [step, Desk.handle_desk]
      cases Call.ofRequest r with
      | error rejection => exact h
      | ok call => exact Desk.perform_keysBound h stamp call
    | _ => cases hr

theorem run_keysBound {s : Service} (h : s.desk.KeysBound) (events : List Event) :
    (s.run events).desk.KeysBound := by
  induction events generalizing s with
  | nil => exact h
  | cons e rest ih => exact ih (step_keysBound h e)

/-- Two owners have a name in common if and only if their own names differ in underscores and
hyphens alone. The storage of an owner has the name of that of the platform only if the owner is
called ssn, and that of the storage which all share only if the owner is called shared. -/
theorem names_tell_owners_apart (bundle : Bundle) (seed : List Policy) (currency : String)
    (defaultCeiling : Option Float) (timing : Option (Nat × Nat)) (events : List Event) :
    let d := ((opened bundle seed Table.empty currency defaultCeiling timing).run events).desk
    (∀ a b, (∃ n ∈ d.namesOf a, n ∈ d.namesOf b) ↔ SpelledAlike a b) ∧
      ∀ owner,
        let info := d.cloud.sharedInfo d.settings owner
        ((∃ n ∈ info.namesIn .edge, n ∈ info.namesIn .ssn) ↔ owner = "ssn") ∧
          ((∃ n ∈ info.namesIn .edge, n ∈ info.namesIn .collaboration) ↔ owner = "shared") := by
  intro d
  have hopened : (opened bundle seed Table.empty currency defaultCeiling timing).desk.KeysBound :=
    fun _ _ h => nomatch h
  refine ⟨Desk.names_shared_iff (run_keysBound hopened events), fun owner => ⟨?_, ?_⟩⟩
  · simp only [Cloud.namesIn_edge, Cloud.namesIn_ssn, List.mem_singleton, exists_eq_left]
    exact own_storage_common_iff d.cloud _ (by decide) (by decide)
  · simp only [Cloud.namesIn_edge, Cloud.namesIn_collaboration, List.mem_singleton, exists_eq_left]
    exact own_storage_common_iff d.cloud _ (by decide) (by decide)

/-- An underscore and a hyphen give the same names, and an owner called ssn that of the platform. -/
theorem underscores_do_not_tell_owners_apart :
    "a_b" ≠ "a-b" ∧ openDesk.namesOf "a_b" = openDesk.namesOf "a-b" ∧
      (openDesk.binding "a_b").edgeKeyName = (openDesk.binding "a-b").edgeKeyName ∧
      (openDesk.cloud.sharedInfo openDesk.settings "ssn").namesIn .edge =
        (openDesk.cloud.sharedInfo openDesk.settings "ssn").namesIn .ssn := by
  decide +kernel

end Service

end CloudDesk
