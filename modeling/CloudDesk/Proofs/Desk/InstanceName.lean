import CloudDesk.Proofs.Desk.Notebook
import CloudDesk.Proofs.Desk.Requests

namespace CloudDesk

open Text Http

/-- The first pair of names joined is the second one joined, cut at a later place. The two places
share a hyphen, or there is something between them. -/
def CutLater (user name user' name' : String) : Prop :=
  (user = user' ++ "-nb" ∧ name' = "nb-" ++ name) ∨
    ∃ middle, user = user' ++ "-nb-" ++ middle ∧ name' = middle ++ "-nb-" ++ name

def separator : List Char := "-nb-".toList

/-- Where a separator and a name end like another separator and name, the first name is the second
one or holds the second separator, whole or up to the shared hyphen. -/
theorem separator_append_iff (name name' front : List Char) :
    separator ++ name' = front ++ (separator ++ name) ↔
      (front = [] ∧ name' = name) ∨
      (front = "-nb".toList ∧ name' = "nb-".toList ++ name) ∨
        ∃ middle, front = separator ++ middle ∧ name' = middle ++ (separator ++ name) := by
  have hsep : separator = ['-', 'n', 'b', '-'] := rfl
  constructor
  · intro h
    rw [hsep] at h ⊢
    match front, h with
    | [], h => exact Or.inl ⟨rfl, by simpa using h⟩
    | [x], h => simp at h
    | [x, y], h => simp at h
    | [x, y, z], h =>
      obtain ⟨rfl, rfl, rfl, rfl⟩ : '-' = x ∧ 'n' = y ∧ 'b' = z ∧ name' = 'n' :: 'b' :: '-' :: name := by
        simpa using h
      exact Or.inr (Or.inl ⟨rfl, rfl⟩)
    | x :: y :: z :: w :: middle, h =>
      obtain ⟨rfl, rfl, rfl, rfl, rfl⟩ : '-' = x ∧ 'n' = y ∧ 'b' = z ∧ '-' = w ∧
          name' = middle ++ ('-' :: 'n' :: 'b' :: '-' :: name) := by
        simpa using h
      exact Or.inr (Or.inr ⟨middle, rfl, rfl⟩)
  · rintro (⟨rfl, rfl⟩ | ⟨rfl, rfl⟩ | ⟨middle, rfl, rfl⟩)
    · rfl
    · rfl
    · simp

theorem cutLater_iff (user name user' name' : String) :
    CutLater user name user' name' ↔
      ∃ front, front ≠ [] ∧ user.toList = user'.toList ++ front ∧
        separator ++ name'.toList = front ++ (separator ++ name.toList) := by
  constructor
  · rintro (⟨rfl, rfl⟩ | ⟨middle, rfl, rfl⟩)
    · exact ⟨"-nb".toList, by decide, by simp, by simp [separator]⟩
    · exact ⟨separator ++ middle.toList, by simp [separator], by simp [separator],
        by simp [separator]⟩
  · rintro ⟨front, hne, huser, hname⟩
    rw [separator_append_iff] at hname
    obtain ⟨rfl, -⟩ | ⟨rfl, hname⟩ | ⟨middle, rfl, hname⟩ := hname
    · exact absurd rfl hne
    · refine Or.inl ⟨String.toList_inj.mp ?_, String.toList_inj.mp ?_⟩
      · rw [huser, String.toList_append]
      · rw [hname, String.toList_append]
    · refine Or.inr ⟨String.ofList middle, String.toList_inj.mp ?_, String.toList_inj.mp ?_⟩
      · simp [huser, separator]
      · simp [hname, separator]

theorem exists_front_iff (user name user' name' : String) :
    (∃ front, user.toList = user'.toList ++ front ∧
        separator ++ name'.toList = front ++ (separator ++ name.toList)) ↔
      (user = user' ∧ name = name') ∨ CutLater user name user' name' := by
  rw [cutLater_iff]
  constructor
  · rintro ⟨front, huser, hname⟩
    by_cases hfront : front = []
    · subst hfront
      rw [List.append_nil, String.toList_inj] at huser
      rw [List.nil_append, List.append_cancel_left_eq, String.toList_inj] at hname
      exact Or.inl ⟨huser, hname.symm⟩
    · exact Or.inr ⟨front, hfront, huser, hname⟩
  · rintro (⟨rfl, rfl⟩ | ⟨front, -, h⟩)
    · exact ⟨[], (List.append_nil _).symm, rfl⟩
    · exact ⟨front, h⟩

theorem instanceName_eq_iff (baseName user name user' name' : String) :
    baseName ++ "-" ++ user ++ "-nb-" ++ name = baseName ++ "-" ++ user' ++ "-nb-" ++ name' ↔
      (user = user' ∧ name = name') ∨ CutLater user name user' name' ∨
        CutLater user' name' user name := by
  have hlist : baseName ++ "-" ++ user ++ "-nb-" ++ name =
        baseName ++ "-" ++ user' ++ "-nb-" ++ name' ↔
      user.toList ++ (separator ++ name.toList) =
        user'.toList ++ (separator ++ name'.toList) := by
    rw [← String.toList_inj]
    simp [separator]
  rw [hlist, List.append_eq_append_iff, exists_front_iff, exists_front_iff, eq_comm (a := user'),
    eq_comm (a := name')]
  tauto

def Http.Reply.instanceName? (reply : Reply) : Option String :=
  match reply.body with
  | .json (.object fs) =>
    match fs.find? fun f => f.1 == "instance_name" with
    | some (_, .string name) => some name
    | _ => none
  | _ => none

theorem notebook_instanceName? (n : Notebook) :
    (Answer.notebook n).reply.instanceName? = some n.instanceName := by
  simp [Answer.reply, Answer.body, Notebook.toJson, Http.Reply.instanceName?]

namespace Desk

theorem prepareNotebook_named {d : Desk} {now : Instant} {owner : String} {r : NotebookRequest}
    {n : Notebook} (h : d.prepareNotebook now owner r = .ok n) :
    n.instanceName = d.instanceName owner r.name := by
  unfold prepareNotebook at h
  split_ifs at h
  obtain ⟨template, -, rfl⟩ := map_eq_ok h
  rfl

/-- Whoever gets a notebook gets it under the name that the desk makes of the owner and the request.
-/
def Names (d : Desk) (owner : String) (r : NotebookRequest) (o : Outcome) : Prop :=
  ∀ a, o.answer = .ok a → ∃ n, a = .notebook n ∧ n.instanceName = d.instanceName owner r.name

theorem guardNotebook_names (d : Desk) (stamp : Stamp) (owner : String) (r : NotebookRequest) :
    d.Names owner r (d.guardNotebook stamp owner r) := by
  intro a h
  obtain ⟨n, hanswer, rfl⟩ := map_eq_ok h
  have hguard := mapError_eq_ok hanswer
  unfold Gate.guard at hguard
  cases hx : Gate.exhausted (BudgetStore.get d.store) owner with
  | error e => simp [hx] at hguard
  | ok e =>
    cases e with
    | some e => simp [hx] at hguard
    | none =>
      simp only [hx] at hguard
      exact ⟨n, rfl, prepareNotebook_named (mapError_eq_ok hguard)⟩

theorem createNotebook_names (d : Desk) (stamp : Stamp) (owner : String) (r : NotebookRequest) :
    d.Names owner r (d.createNotebook stamp owner r) := by
  obtain ⟨store, hstore⟩ := d.onboard_withStore owner
  apply of_checked (P := d.Names owner r)
  · rintro - a ⟨⟩
  · intro ho
    apply of_onboarded (P := d.Names owner r) hstore
    · rintro e a ⟨⟩
    · exact (d.withStore store).guardNotebook_names stamp owner r

theorem handle_instanceName? {d : Desk} {stamp : Stamp} {q : Request} {owner : String}
    {r : NotebookRequest} (hcall : Call.ofRequest q = .ok (.createNotebook owner r))
    (haccepted : (d.handle stamp q).1.status = 202) :
    (d.handle stamp q).1.instanceName? = some (d.instanceName owner r.name) := by
  have hpost : q.method = "POST" := ((Call.ofRequest_matches hcall).newcomer owner rfl).method
  have hreply : (d.handle stamp q).1 = (d.createNotebook stamp owner r).reply := by
    unfold handle
    rw [hcall]
    exact if_neg (by rw [hpost]; decide)
  rw [hreply] at haccepted ⊢
  have hnames := d.createNotebook_names stamp owner r
  unfold Outcome.reply at haccepted ⊢
  cases hanswer : (d.createNotebook stamp owner r).answer with
  | error f =>
    rw [hanswer] at haccepted
    exact absurd haccepted f.category.status_ne_accepted
  | ok a =>
    obtain ⟨n, rfl, hn⟩ := hnames a hanswer
    exact (notebook_instanceName? n).trans (congrArg some hn)

end Desk

/-- Two accepted requests, of whatever owners in whatever states of desks with one base name, are
answered with the same instance name if and only if the owners have the same user name and the
notebooks the same name, or the one pair of names is the other one cut at a later place. -/
theorem instance_names_agree_iff {d d' : Desk} (hbase : d.settings.baseName = d'.settings.baseName)
    {stamp stamp' : Stamp} {q q' : Request} {owner owner' : String} {r r' : NotebookRequest}
    (hcall : Call.ofRequest q = .ok (.createNotebook owner r))
    (hcall' : Call.ofRequest q' = .ok (.createNotebook owner' r'))
    (haccepted : (d.handle stamp q).1.status = 202)
    (haccepted' : (d'.handle stamp' q').1.status = 202) :
    (d.handle stamp q).1.instanceName? = (d'.handle stamp' q').1.instanceName? ↔
      (userName owner = userName owner' ∧ r.name = r'.name) ∨
        CutLater (userName owner) r.name (userName owner') r'.name ∨
        CutLater (userName owner') r'.name (userName owner) r.name := by
  rw [Desk.handle_instanceName? hcall haccepted, Desk.handle_instanceName? hcall' haccepted',
    Option.some.injEq, Desk.instanceName, Desk.instanceName, hbase, instanceName_eq_iff]

def kinDesk : Desk where
  bundle := ⟨.aws, Settings.create "desk" ⟨"http", [], [], none, none, .rooted [[]], none, none⟩⟩
  books := ⟨.memory Table.empty, Snapshot.empty "USD" none⟩
  keys := Table.ofList <| ["a", "a-nb", "a-nb-b"].map fun owner =>
    (owner, ⟨owner, .active, "", "", "", .null, ⟨0, 0⟩, ⟨0, 0⟩⟩)
  defaultCeiling := none
  schedule := none

def askNamed (owner name : String) : Request :=
  ⟨"POST", "/infrastructure/" ++ owner ++ "/exploratory", some "application/json",
    utf8 ("\x7b\"name\":\"" ++ name ++ "\",\"application\":\"Jupyter\",\"shape\":\"m5.large\"\x7d")⟩

theorem askNamed_call {owner name : String}
    (h : (owner = "a-nb" ∧ name = "c") ∨ (owner = "a" ∧ name = "nb-c")) :
    Call.ofRequest (askNamed owner name) =
      .ok (.createNotebook owner ⟨name, "Jupyter", "m5.large"⟩) := by
  apply eq_ok_of_toOption
  obtain ⟨rfl, rfl⟩ | ⟨rfl, rfl⟩ := h <;> decide +kernel

/-- Two owners get notebooks of one name, since a hyphen ends the one separator and begins the
other. -/
theorem shared_hyphen_joins_alike :
    (kinDesk.handle ⟨⟨0, 0⟩, ⟨[]⟩⟩ (askNamed "a-nb" "c")).1.status = 202 ∧
      (kinDesk.handle ⟨⟨0, 0⟩, ⟨[]⟩⟩ (askNamed "a" "nb-c")).1.status = 202 ∧
      (kinDesk.handle ⟨⟨0, 0⟩, ⟨[]⟩⟩ (askNamed "a-nb" "c")).1.instanceName? =
        (kinDesk.handle ⟨⟨0, 0⟩, ⟨[]⟩⟩ (askNamed "a" "nb-c")).1.instanceName? := by
  have hfirst : (kinDesk.handle ⟨⟨0, 0⟩, ⟨[]⟩⟩ (askNamed "a-nb" "c")).1.status = 202 := by
    decide +kernel
  have hsecond : (kinDesk.handle ⟨⟨0, 0⟩, ⟨[]⟩⟩ (askNamed "a" "nb-c")).1.status = 202 := by
    decide +kernel
  have hcut : CutLater (userName "a-nb") "c" (userName "a") "nb-c" :=
    Or.inl ⟨by decide, by decide⟩
  exact ⟨hfirst, hsecond, (instance_names_agree_iff rfl (askNamed_call (by simp))
    (askNamed_call (by simp)) hfirst hsecond).mpr (Or.inr (Or.inl hcut))⟩

/-- A notebook of one owner has the instance name of one of another owner. -/
theorem separator_in_both_names :
    (kinDesk.handle ⟨⟨0, 0⟩, ⟨[]⟩⟩ (askNamed "a-nb-b" "c")).1.status = 202 ∧
      (kinDesk.handle ⟨⟨0, 0⟩, ⟨[]⟩⟩ (askNamed "a" "b-nb-c")).1.status = 202 ∧
      (kinDesk.handle ⟨⟨0, 0⟩, ⟨[]⟩⟩ (askNamed "a-nb-b" "c")).1.instanceName? =
        some "desk-a-nb-b-nb-c" ∧
      (kinDesk.handle ⟨⟨0, 0⟩, ⟨[]⟩⟩ (askNamed "a" "b-nb-c")).1.instanceName? =
        some "desk-a-nb-b-nb-c" ∧
      userName "a-nb-b" ≠ userName "a" ∧ "c" ≠ "b-nb-c" := by
  decide +kernel

end CloudDesk
