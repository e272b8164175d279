import CloudDesk.Proofs.Desk.Service
import CloudDesk.Proofs.Text

namespace CloudDesk

open Text Http

/-- What is needed, and the category of the refusal where it is missing. -/
structure Requirement where
  holds : Prop
  category : Failure.Category

inductive Decided {α : Type} : List Requirement → Except Failure α → Prop
  | refused {q : Requirement} {rest : List Requirement} {f : Failure} (hmissing : ¬ q.holds)
      (hcategory : f.category = q.category) : Decided (q :: rest) (.error f)
  | passed {q : Requirement} {rest : List Requirement} {result : Except Failure α}
      (hmet : q.holds) (hrest : Decided rest result) : Decided (q :: rest) result
  | allowed (a : α) : Decided [] (.ok a)

namespace Decided

variable {α : Type} {reqs : List Requirement} {result : Except Failure α}

theorem ok_iff (h : Decided reqs result) :
    (∃ a, result = .ok a) ↔ ∀ q ∈ reqs, q.holds := by
  induction h with
  | refused hmissing hcategory =>
    constructor
    · rintro ⟨a, ha⟩
      cases ha
    · exact fun hall => absurd (hall _ List.mem_cons_self) hmissing
  | passed hmet hrest ih =>
    rw [ih, List.forall_mem_cons]
    exact (and_iff_right hmet).symm
  | allowed a => exact ⟨fun _ q hq => absurd hq List.not_mem_nil, fun _ => ⟨a, rfl⟩⟩

theorem first_missing {before rest : List Requirement} {q : Requirement}
    (h : Decided (before ++ q :: rest) result) (hbefore : ∀ b ∈ before, b.holds)
    (hmissing : ¬ q.holds) : ∃ f, result = .error f ∧ f.category = q.category := by
  induction before with
  | nil =>
    cases h with
    | refused _ hcategory => exact ⟨_, rfl, hcategory⟩
    | passed hmet _ => exact absurd hmet hmissing
  | cons b before ih =>
    obtain ⟨hb, hbefore⟩ := List.forall_mem_cons.mp hbefore
    cases h with
    | refused hb' _ => exact absurd hb hb'
    | passed _ hrest => exact ih hrest hbefore

end Decided

structure NotebookName (name : String) : Prop where
  length : 1 ≤ name.toList.length ∧ name.toList.length ≤ 32
  characters : ∀ c ∈ name.toList, ('a' ≤ c ∧ c ≤ 'z') ∨ ('0' ≤ c ∧ c ≤ '9') ∨ c = '-'
  start : name.toList.head? ≠ some '-'

def Spendable (p : Option Policy) : Prop := ∀ q, p = some q → ¬ q.ceiling ≤ q.accrued

instance (p : Option Policy) : Decidable (Spendable p) :=
  decidable_of_iff (∀ q ∈ p, ¬ q.ceiling ≤ q.accrued) Iff.rfl

def CanOnboard (default : Option Float) (t : Policies) (owner : String) : Prop :=
  ∀ ceiling, default = some ceiling →
    t.contains owner = true ∨ (isAllBlank owner = false ∧ isAmount ceiling = true)

instance (default : Option Float) (t : Policies) (owner : String) :
    Decidable (CanOnboard default t owner) :=
  decidable_of_iff (∀ ceiling ∈ default,
    t.contains owner = true ∨ (isAllBlank owner = false ∧ isAmount ceiling = true)) Iff.rfl

namespace Desk

def Offers (d : Desk) (application : String) (template : Template) : Prop :=
  template ∈ d.cloud.exploratory ∧ sameIgnoringCase template.application application = true

def preparation (d : Desk) (owner : String) (r : NotebookRequest) : List Requirement := [
  ⟨NotebookName r.name, .badRequest⟩,
  ⟨d.keys.status owner = .active, .conflict⟩,
  ⟨∃ template, d.Offers r.application template, .badRequest⟩,
  ⟨∃ template, d.Offers r.application template ∧ r.shape ∈ template.shapes, .badRequest⟩]

def requirements (d : Desk) (t : Policies) (owner : String) (r : NotebookRequest) :
    List Requirement :=
  ⟨owner ≠ platformOwner, .badRequest⟩ ::
  ⟨CanOnboard d.defaultCeiling t owner, .invalidBudget⟩ ::
  ⟨Spendable (t.get? platformOwner), .budgetExceeded⟩ ::
  ⟨Spendable ((t.onboarded d.defaultCeiling owner).get? owner), .budgetExceeded⟩ ::
  d.preparation owner r

end Desk

theorem isLetterOrDigit_iff (c : Char) :
    Desk.isNotebookName.isLetterOrDigit c = true ↔
      ('a' ≤ c ∧ c ≤ 'z') ∨ ('0' ≤ c ∧ c ≤ '9') := by
  have hlower : c.isLower = (decide ('a' ≤ c) && decide (c ≤ 'z')) := rfl
  have hdigit : c.isDigit = (decide ('0' ≤ c) && decide (c ≤ '9')) := rfl
  rw [Desk.isNotebookName.isLetterOrDigit, hlower, hdigit]
  simp only [Bool.or_eq_true, Bool.and_eq_true, decide_eq_true_eq]

theorem isNotebookName_iff (name : String) :
    Desk.isNotebookName name = true ↔ NotebookName name := by
  unfold Desk.isNotebookName
  cases hn : name.toList with
  | nil =>
    simp only [Bool.false_eq_true, false_iff]
    intro h
    have hlength := h.length.1
    rw [hn] at hlength
    cases hlength
  | cons c rest =>
    simp only [Bool.and_eq_true, List.all_eq_true, Bool.or_eq_true, beq_iff_eq, decide_eq_true_eq,
      isLetterOrDigit_iff]
    constructor
    · rintro ⟨⟨hc, hrest⟩, hlength⟩
      refine ⟨?_, ?_, ?_⟩
      · rw [hn, List.length_cons]
        omega
      · rw [hn]
        exact List.forall_mem_cons.mpr ⟨hc.imp id Or.inl, fun x hx => or_assoc.mp (hrest x hx)⟩
      · rw [hn, List.head?_cons]
        rintro ⟨⟩
        revert hc
        decide
    · intro h
      obtain ⟨hlength, hchars, hstart⟩ := h
      rw [hn] at hlength hchars hstart
      obtain ⟨hc, hrest⟩ := List.forall_mem_cons.mp hchars
      rw [List.length_cons] at hlength
      refine ⟨⟨?_, fun x hx => or_assoc.mpr (hrest x hx)⟩, by omega⟩
      obtain hc | hc | hc := hc
      · exact Or.inl hc
      · exact Or.inr hc
      · exact absurd (congrArg some hc) hstart

instance (name : String) : Decidable (NotebookName name) :=
  decidable_of_iff _ (isNotebookName_iff name)

namespace Desk

theorem applications_distinct (cloud : Cloud) :
    ∀ s ∈ cloud.exploratory, ∀ t ∈ cloud.exploratory,
      sameIgnoringCase s.application t.application = true → s = t := by
  cases cloud <;> decide +kernel

theorem Offers.unique {d : Desk} {application : String} {s t : Template}
    (hs : d.Offers application s) (ht : d.Offers application t) : s = t := by
  apply applications_distinct d.cloud s hs.1 t ht.1
  have hsame := hs.2
  have htame := ht.2
  simp only [sameIgnoringCase, beq_iff_eq] at hsame htame ⊢
  rw [hsame, htame]

theorem offers_of_find {d : Desk} {application : String} {template : Template}
    (h : d.cloud.findExploratory application = some template) : d.Offers application template := by
  unfold Cloud.findExploratory at h
  exact ⟨List.mem_of_find?_eq_some h, (List.find?_eq_some_iff_append.mp h).1⟩

theorem not_offers_of_find {d : Desk} {application : String}
    (h : d.cloud.findExploratory application = none) (template : Template) :
    ¬ d.Offers application template :=
  fun ho => List.find?_eq_none.mp h template ho.1 ho.2

theorem prepareNotebook_decided (d : Desk) (now : Instant) (owner : String) (r : NotebookRequest) :
    Decided (d.preparation owner r) (d.prepareNotebook now owner r) := by
  unfold prepareNotebook preparation
  by_cases hname : NotebookName r.name
  · rw [if_neg (by simp [(isNotebookName_iff r.name).mpr hname])]
    refine .passed hname ?_
    by_cases hkey : d.keys.status owner = .active
    · rw [if_neg (not_not.mpr hkey)]
      refine .passed hkey ?_
      unfold chooseTemplate
      cases hfind : d.cloud.findExploratory r.application with
      | none =>
        refine .refused ?_ rfl
        rintro ⟨template, ho⟩
        exact not_offers_of_find hfind template ho
      | some template =>
        have ho := offers_of_find hfind
        refine .passed ⟨template, ho⟩ ?_
        by_cases hshape : r.shape ∈ template.shapes
        · have hs : template.supports r.shape = true := List.contains_iff_mem.mpr hshape
          simp only [hs, if_true]
          exact .passed ⟨template, ho, hshape⟩ (.allowed _)
        · have hs : ¬ template.supports r.shape = true :=
            fun h => hshape (List.contains_iff_mem.mp h)
          simp only [hs]
          refine .refused ?_ rfl
          rintro ⟨other, hother, h⟩
          rw [hother.unique ho] at h
          exact hshape h
    · rw [if_pos hkey]
      exact .refused hkey rfl
  · rw [if_pos (by simp [mt (isNotebookName_iff r.name).mp hname])]
    exact .refused hname rfl

end Desk

theorem clear_iff (p : Option Policy) : Gate.Clear (.ok p) ↔ Spendable p := by
  constructor
  · rintro ⟨p', h, hp⟩
    cases h
    exact hp
  · exact fun hp => ⟨p, rfl, hp⟩

theorem not_spendable_of_exhausted {p : Policy} (h : p.ceiling ≤ p.accrued) :
    ¬ Spendable (some p) := fun hs => hs p rfl h

namespace Desk

theorem onboard_decided {d : Desk} {t : Policies} (h : d.books.store = .memory t)
    (owner : String) :
    ((d.onboard owner).1 = .ok () ∧ CanOnboard d.defaultCeiling t owner) ∨
      ∃ cause, (d.onboard owner).1 = .error (.invalid cause) ∧
        ¬ CanOnboard d.defaultCeiling t owner := by
  rw [onboard_result h]
  unfold CanOnboard
  cases d.defaultCeiling with
  | none => exact Or.inl ⟨rfl, fun ceiling hc => by cases hc⟩
  | some ceiling =>
    simp only [Option.some.injEq, forall_eq', ← Policies.ensureOwner_isOk]
    cases (t.ensureOwner owner ceiling).1 with
    | ok created => exact Or.inl ⟨rfl, rfl⟩
    | error cause => exact Or.inr ⟨cause, rfl, Bool.false_ne_true⟩

theorem guardNotebook_decided {d : Desk} {t : Policies} (h : d.books.store = .memory t)
    (stamp : Stamp) {owner : String} (ho : owner ≠ platformOwner) (r : NotebookRequest) :
    ∃ result : Except Failure Notebook,
      (d.guardNotebook stamp owner r).answer = result.map .notebook ∧
        Decided (⟨Spendable (t.get? platformOwner), .budgetExceeded⟩ ::
          ⟨Spendable (t.get? owner), .budgetExceeded⟩ :: d.preparation owner r) result := by
  have hlookup : ∀ name, BudgetStore.get d.store name = .ok (t.get? name) := by
    intro name
    rw [store, h]
    rfl
  refine ⟨_, rfl, ?_⟩
  unfold Gate.guard
  have hverdict := Gate.exhausted_verdict (BudgetStore.get d.store) owner
  generalize Gate.exhausted (BudgetStore.get d.store) owner = v at hverdict
  cases hverdict with
  | platformFails hfound => cases (hlookup platformOwner).symm.trans hfound
  | platformExhausted hfound hle =>
    have hp := Except.ok.inj ((hlookup platformOwner).symm.trans hfound)
    refine .refused ?_ rfl
    rw [hp]
    exact not_spendable_of_exhausted hle
  | ownerFails _ _ hfound => cases (hlookup owner).symm.trans hfound
  | ownerExhausted hplatform _ hfound hle =>
    have hp := Except.ok.inj ((hlookup owner).symm.trans hfound)
    rw [hlookup, clear_iff] at hplatform
    refine .passed hplatform (.refused ?_ rfl)
    rw [hp]
    exact not_spendable_of_exhausted hle
  | admitted hplatform howner =>
    have howner := howner ho
    rw [hlookup, clear_iff] at hplatform howner
    have hprepared := d.prepareNotebook_decided stamp.now owner r
    refine .passed hplatform (.passed howner ?_)
    dsimp only
    cases hr : d.prepareNotebook stamp.now owner r with
    | error f =>
      rw [hr] at hprepared
      exact hprepared
    | ok n =>
      rw [hr] at hprepared
      exact hprepared

theorem createNotebook_decided {d : Desk} {t : Policies} (h : d.books.store = .memory t)
    (stamp : Stamp) (owner : String) (r : NotebookRequest) :
    ∃ result : Except Failure Notebook,
      (d.createNotebook stamp owner r).answer = result.map .notebook ∧
        Decided (d.requirements t owner r) result := by
  unfold createNotebook checkOwner requirements
  by_cases ho : owner = platformOwner
  · rw [if_pos ho]
    exact ⟨.error .reservedOwner, rfl, .refused (not_not.mpr ho) rfl⟩
  · rw [if_neg ho]
    have hdesk := onboard_desk h ho
    have hdecided := onboard_decided h owner
    generalize d.onboard owner = onboarded at hdesk hdecided
    obtain ⟨result, after⟩ := onboarded
    dsimp only at hdesk
    subst hdesk
    obtain ⟨rfl, hcan⟩ | ⟨cause, rfl, hcannot⟩ := hdecided
    · obtain ⟨result, hanswer, hrest⟩ := guardNotebook_decided
        (d := d.withStore (.memory (t.onboarded d.defaultCeiling owner))) rfl stamp ho r
      rw [Policies.get?_onboarded_of_ne d.defaultCeiling t (Ne.symm ho)] at hrest
      exact ⟨result, hanswer, .passed ho (.passed hcan hrest)⟩
    · exact ⟨.error (.store (.invalid cause)), rfl, .passed ho (.refused hcannot rfl)⟩

end Desk

theorem ofPath_notebooks {segment : List Char} (hne : segment ≠ []) (hslash : '/' ∉ segment) :
    Route.ofPath ("/infrastructure/".toList ++ segment ++ "/exploratory".toList) =
      some (.notebooks (String.ofList segment)) := by
  have hpath : "/infrastructure/".toList ++ segment ++ "/exploratory".toList =
      '/' :: ("infrastructure".toList ++ '/' :: (segment ++ '/' :: "exploratory".toList)) := by
    simp
  have hnamed : (String.ofList segment).isEmpty = false := by
    simpa using hne
  rw [hpath, Route.ofPath, splitAt_append (by decide), splitAt_append hslash,
    splitAt_of_not_mem (by decide)]
  simp [Route.ofSegments, Route.ofSegments.named, hnamed]

/-- The request is a POST to the notebooks of the owner, with a body that is well formed. -/
structure AsksNotebook (q : Request) (owner : String) (r : NotebookRequest) : Prop where
  method : q.method = "POST"
  path : ∃ segment : List Char, segment ≠ [] ∧ '/' ∉ segment ∧
    q.path = "/infrastructure/".toList ++ segment ++ "/exploratory".toList ∧
    decodeSegment segment = .ok owner
  body : q.payload Call.decodeNotebook = .ok r

theorem AsksNotebook.call {q : Request} {owner : String} {r : NotebookRequest}
    (h : AsksNotebook q owner r) : Call.ofRequest q = .ok (.createNotebook owner r) := by
  obtain ⟨segment, hne, hslash, hpath, howner⟩ := h.path
  have hroute : q.route = .ok (.notebooks (String.ofList segment)) := by
    unfold Request.route
    rw [hpath, ofPath_notebooks hne hslash]
    simp [Route.methods, Request.effectiveMethod, h.method]
  unfold Call.ofRequest
  rw [hroute]
  simp only [bind, Except.bind, Call.ofRoute, String.toList_ofList, howner, h.body]
  rfl

theorem Failure.Category.status_ne_accepted (c : Failure.Category) : c.status ≠ 202 := by
  cases c <;> decide

/-- A notebook is accepted if and only if nothing is missing that it needs, the first thing that is
missing decides how it is refused, and the desk is changed by onboarding alone. -/
theorem notebook_needs_everything {d : Desk} {t : Policies} (hstore : d.books.store = .memory t)
    (stamp : Stamp) {q : Request} {owner : String} {r : NotebookRequest}
    (hasks : AsksNotebook q owner r) :
    ((d.handle stamp q).1.status = 202 ↔ ∀ c ∈ d.requirements t owner r, c.holds) ∧
      (∀ before c rest, d.requirements t owner r = before ++ c :: rest →
        (∀ b ∈ before, b.holds) → ¬ c.holds →
          (d.handle stamp q).1.status = c.category.status ∧
          ∃ message, (d.handle stamp q).1.body =
            .json (.object [("error", .string c.category.name), ("message", .string message)])) ∧
      (d.handle stamp q).2.1 = d.withStore (.memory (t.onboarded d.defaultCeiling owner)) := by
  obtain ⟨result, hanswer, hdecided⟩ := Desk.createNotebook_decided hstore stamp owner r
  have hreply : (d.handle stamp q).1 =
      match result with
      | .error f => f.reply
      | .ok n => (Answer.notebook n).reply := by
    have hget : q.method ≠ "HEAD" := by
      rw [hasks.method]
      decide
    unfold Desk.handle
    rw [hasks.call]
    simp only [Desk.withoutBody, if_neg hget, Desk.perform, Desk.Outcome.reply, hanswer]
    cases result <;> rfl
  rw [hreply]
  refine ⟨?_, ?_, ?_⟩
  · rw [← hdecided.ok_iff]
    cases result with
    | error f =>
      have hrefused : f.reply.status ≠ 202 := f.category.status_ne_accepted
      simp [hrefused]
    | ok n => simp [Answer.reply, Answer.status]
  · intro before c rest hsplit hbefore hmissing
    rw [hsplit] at hdecided
    obtain ⟨f, rfl, hcategory⟩ := hdecided.first_missing hbefore hmissing
    rw [← hcategory]
    exact ⟨rfl, f.message, rfl⟩
  · rw [Desk.handle_desk, hasks.call]
    exact Desk.createNotebook_desk hstore stamp owner r

def openPolicies : Policies := .ofPolicies [⟨"alice", 50.0, 10.0, none⟩]

def openDesk : Desk where
  bundle := ⟨.aws, Settings.create "desk" ⟨"http", [], [], none, none, .rooted [[]], none, none⟩⟩
  books := ⟨.memory openPolicies, Snapshot.empty "USD" none⟩
  keys := Table.ofList [("alice", ⟨"alice", .active, "", "", "", .null, ⟨0, 0⟩, ⟨0, 0⟩⟩)]
  defaultCeiling := some 0.0
  schedule := none

def askNotebook (owner : String) : Request :=
  ⟨"POST", "/infrastructure/" ++ owner ++ "/exploratory", some "application/json",
    utf8 "\x7b\"name\":\"nb-1\",\"application\":\"Jupyter\",\"shape\":\"m5.large\"\x7d"⟩

theorem askNotebook_asks {owner : String} (h : owner = "alice" ∨ owner = "bob") :
    AsksNotebook (askNotebook owner) owner ⟨"nb-1", "Jupyter", "m5.large"⟩ := by
  have hparts : owner.toList ≠ [] ∧ '/' ∉ owner.toList ∧
      (askNotebook owner).path =
        "/infrastructure/".toList ++ owner.toList ++ "/exploratory".toList ∧
      (decodeSegment owner.toList).toOption = some owner ∧
      ((askNotebook owner).payload Call.decodeNotebook).toOption =
        some ⟨"nb-1", "Jupyter", "m5.large"⟩ := by
    obtain rfl | rfl := h <;> decide +kernel
  obtain ⟨hne, hslash, hpath, howner, hbody⟩ := hparts
  exact ⟨rfl, ⟨owner.toList, hne, hslash, hpath, eq_ok_of_toOption howner⟩,
    eq_ok_of_toOption hbody⟩

theorem alice_is_served_and_bob_is_not :
    (openDesk.handle ⟨⟨0, 0⟩, ⟨[]⟩⟩ (askNotebook "alice")).1.status = 202 ∧
      (openDesk.handle ⟨⟨0, 0⟩, ⟨[]⟩⟩ (askNotebook "bob")).1.status = 402 := by
  have halice := notebook_needs_everything (d := openDesk) rfl ⟨⟨0, 0⟩, ⟨[]⟩⟩
    (askNotebook_asks (Or.inl rfl))
  have hbob := notebook_needs_everything (d := openDesk) rfl ⟨⟨0, 0⟩, ⟨[]⟩⟩
    (askNotebook_asks (Or.inr rfl))
  constructor
  · obtain ⟨template, hmem, hsame, hshape⟩ : ∃ template ∈ Cloud.aws.exploratory,
        sameIgnoringCase template.application "Jupyter" = true ∧ "m5.large" ∈ template.shapes := by
      decide +kernel
    rw [halice.1]
    simp only [Desk.requirements, Desk.preparation, List.forall_mem_cons]
    exact ⟨by decide, by decide +kernel, by decide +kernel, by decide +kernel, by decide,
      by decide +kernel, ⟨template, hmem, hsame⟩, ⟨template, ⟨hmem, hsame⟩, hshape⟩, by simp⟩
  · have hmissing : ¬ Spendable ((openPolicies.onboarded (some 0.0) "bob").get? "bob") := by
      decide +kernel
    refine (hbob.2.1 [_, _, _] ⟨_, .budgetExceeded⟩ _ rfl ?_ hmissing).1
    simp only [List.forall_mem_cons]
    exact ⟨by decide, by decide +kernel, by decide +kernel, by simp⟩

end CloudDesk
