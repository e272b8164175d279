import CloudDesk.Desk.Serving
import CloudDesk.Proofs.Budget.Gate
import CloudDesk.Proofs.Budget.Store

namespace CloudDesk

namespace Policies

def onboarded (default : Option Float) (t : Policies) (owner : String) : Policies :=
  if owner = platformOwner then t
  else
    match default with
    | none => t
    | some ceiling => (t.ensureOwner owner ceiling).2

def after (default : Option Float) (t : Policies) : Call → Policies
  | .setBudget owner ceiling =>
    if owner = platformOwner then t else (t.setCeiling owner ceiling).2
  | .uploadKey owner _ | .createNotebook owner _ => onboarded default t owner
  | _ => t

/-- Every policy is kept but for its ceiling, and a new one has no spending and is not the
platform's. -/
def Grows (t t' : Policies) : Prop :=
  ∀ owner, t'.get? owner = t.get? owner ∨
    (∃ p ceiling, t.get? owner = some p ∧ t'.get? owner = some { p with ceiling }) ∨
    (t.get? owner = none ∧ owner ≠ platformOwner ∧
      ∃ ceiling, t'.get? owner = some ⟨owner, ceiling, 0.0, none⟩)

theorem Grows.refl (t : Policies) : Grows t t := fun _ => Or.inl rfl

theorem setCeiling_grows (t : Policies) {owner : String} (ho : owner ≠ platformOwner)
    (ceiling : Float) : Grows t (t.setCeiling owner ceiling).2 := by
  cases hr : (t.setCeiling owner ceiling).1 with
  | error e =>
    rw [setCeiling_error hr]
    exact Grows.refl t
  | ok p =>
    obtain ⟨ht, hp⟩ := setCeiling_ok hr
    intro other
    rw [ht, Table.get?_put]
    by_cases h : other = owner
    · subst h
      rw [if_pos rfl]
      obtain ⟨p₀, hp₀, rfl⟩ | ⟨hn, rfl⟩ := hp
      · exact Or.inr (Or.inl ⟨p₀, ceiling, hp₀, rfl⟩)
      · exact Or.inr (Or.inr ⟨hn, ho, ceiling, rfl⟩)
    · exact Or.inl (if_neg h)

theorem onboarded_grows (default : Option Float) (t : Policies) (owner : String) :
    Grows t (t.onboarded default owner) := by
  unfold onboarded
  split_ifs with ho
  · exact Grows.refl t
  · cases default with
    | none => exact Grows.refl t
    | some ceiling =>
      obtain h | ⟨hn, h⟩ := t.ensureOwner_cases owner ceiling
      · simp only [h]
        exact Grows.refl t
      · intro other
        simp only [h, Table.get?_put]
        by_cases hother : other = owner
        · subst hother
          exact Or.inr (Or.inr ⟨hn, ho, ceiling, if_pos rfl⟩)
        · exact Or.inl (if_neg hother)

theorem get?_onboarded_of_ne (default : Option Float) (t : Policies) {owner other : String}
    (h : other ≠ owner) : (t.onboarded default owner).get? other = t.get? other := by
  unfold onboarded
  split_ifs
  · rfl
  · cases default with
    | none => rfl
    | some ceiling =>
      obtain ht | ⟨-, ht⟩ := t.ensureOwner_cases owner ceiling
      · simp only [ht]
      · simp only [ht, Table.get?_put, if_neg h]

def ceiling? (t : Policies) (owner : String) : Option Float := (t.get? owner).map Policy.ceiling

/-- A ceiling was kept, or is the default one of an owner who had none. -/
def CeilingFrom (default before after : Option Float) : Prop :=
  after = before ∨ (before = none ∧ after = default)

theorem setCeiling_ceiling? (t : Policies) (owner : String) (ceiling : Float) (other : String) :
    (t.setCeiling owner ceiling).2.ceiling? other =
      if owner = other ∧ (t.setCeiling owner ceiling).1.isOk = true then some ceiling
      else t.ceiling? other := by
  cases hr : (t.setCeiling owner ceiling).1 with
  | error e =>
    rw [setCeiling_error hr, if_neg (fun h => Bool.false_ne_true h.2)]
  | ok p =>
    obtain ⟨ht, hp⟩ := setCeiling_ok hr
    have hc : p.ceiling = ceiling := by
      obtain ⟨_, -, rfl⟩ | ⟨-, rfl⟩ := hp <;> rfl
    rw [ht, ceiling?, Table.get?_put]
    by_cases ho : owner = other
    · rw [if_pos ho.symm, if_pos ⟨ho, rfl⟩, Option.map_some, hc]
    · rw [if_neg (Ne.symm ho), if_neg (fun h => ho h.1), ceiling?]

theorem onboarded_ceiling? (default : Option Float) (t : Policies) (owner other : String) :
    CeilingFrom default (t.ceiling? other) ((t.onboarded default owner).ceiling? other) := by
  unfold onboarded
  split_ifs with ho
  · exact Or.inl rfl
  · cases default with
    | none => exact Or.inl rfl
    | some ceiling =>
      obtain h | ⟨hnone, h⟩ := t.ensureOwner_cases owner ceiling
      · exact Or.inl (congrArg (ceiling? · other) h)
      · simp only [h, ceiling?, Table.get?_put]
        by_cases he : other = owner
        · rw [if_pos he, he, hnone]
          exact Or.inr ⟨rfl, rfl⟩
        · rw [if_neg he]
          exact Or.inl rfl

theorem ceiling?_writeAll (time : Instant) (updates : List (String × Float)) (t : Policies)
    (owner : String) : (writeAll time updates t).2.ceiling? owner = t.ceiling? owner := by
  have hspent : ∀ amount, Policy.ceiling ∘ spent time amount = Policy.ceiling := by
    intro amount
    cases amount <;> rfl
  rw [ceiling?, get?_writeAll, Option.map_map, hspent, ceiling?]

theorem after_grows (default : Option Float) (t : Policies) (call : Call) :
    Grows t (t.after default call) := by
  cases call with
  | setBudget owner ceiling =>
    simp only [after]
    split_ifs with ho
    · exact Grows.refl t
    · exact setCeiling_grows t ho ceiling
  | uploadKey owner text => exact onboarded_grows default t owner
  | createNotebook owner r => exact onboarded_grows default t owner
  | _ => exact Grows.refl t

theorem after_inOrder {t : Policies} (h : InOrder t) (default : Option Float) (call : Call) :
    InOrder (t.after default call) := by
  have honboarded : ∀ owner, InOrder (t.onboarded default owner) := by
    intro owner
    unfold onboarded
    split_ifs
    · exact h
    · cases default with
      | none => exact h
      | some ceiling => exact ensureOwner_inOrder h owner ceiling
  cases call with
  | setBudget owner ceiling =>
    simp only [after]
    split_ifs
    · exact h
    · exact setCeiling_inOrder h owner ceiling
  | uploadKey owner text => exact honboarded owner
  | createNotebook owner r => exact honboarded owner
  | _ => exact h

end Policies

namespace Desk

theorem onboard_desk {d : Desk} {t : Policies} (h : d.books.store = .memory t) {owner : String}
    (ho : owner ≠ platformOwner) :
    (d.onboard owner).2 = d.withStore (.memory (t.onboarded d.defaultCeiling owner)) := by
  unfold onboard Policies.onboarded
  cases hc : d.defaultCeiling with
  | none =>
    simp only [ho, if_false, withStore, ← h]
  | some ceiling =>
    simp only [ho, if_false, store, h]
    rfl

theorem onboard_result {d : Desk} {t : Policies} (h : d.books.store = .memory t) (owner : String) :
    (d.onboard owner).1 =
      match d.defaultCeiling with
      | none => .ok ()
      | some ceiling => ((t.ensureOwner owner ceiling).1.mapError .invalid).map fun _ => () := by
  unfold onboard
  cases d.defaultCeiling with
  | none => rfl
  | some ceiling =>
    simp only [store, h]
    rfl

theorem onboard_withStore (d : Desk) (owner : String) :
    ∃ store, (d.onboard owner).2 = d.withStore store := by
  unfold onboard
  cases d.defaultCeiling with
  | none => exact ⟨d.store, rfl⟩
  | some ceiling => exact ⟨_, rfl⟩

section

variable {P : Outcome → Prop} {d : Desk} {owner : String}

theorem of_checked {rest : Outcome}
    (hreserved : owner = platformOwner → P (d.unchanged (.error .reservedOwner)))
    (hrest : owner ≠ platformOwner → P rest) :
    P (match checkOwner owner with
      | .error e => d.unchanged (.error e)
      | .ok () => rest) := by
  unfold checkOwner
  by_cases ho : owner = platformOwner
  · rw [if_pos ho]
    exact hreserved ho
  · rw [if_neg ho]
    exact hrest ho

theorem of_onboarded {after : Desk} (hafter : (d.onboard owner).2 = after) {rest : Desk → Outcome}
    (herror : ∀ e, P (after.unchanged (.error (.store e)))) (hrest : P (rest after)) :
    P (match d.onboard owner with
      | (.error e, d) => d.unchanged (.error (.store e))
      | (.ok (), d) => rest d) := by
  generalize d.onboard owner = onboarded at hafter
  obtain ⟨result, after'⟩ := onboarded
  subst hafter
  cases result with
  | error e => exact herror e
  | ok u => exact hrest

end

theorem createNotebook_desk {d : Desk} {t : Policies} (h : d.books.store = .memory t)
    (stamp : Stamp) (owner : String) (r : NotebookRequest) :
    (d.createNotebook stamp owner r).desk =
      d.withStore (.memory (t.onboarded d.defaultCeiling owner)) := by
  apply of_checked (P := fun o => o.desk = d.withStore (.memory (t.onboarded d.defaultCeiling owner)))
  · intro ho
    simp only [ho, unchanged, Policies.onboarded, if_true, withStore, ← h]
  · intro ho
    apply of_onboarded (P := fun o => o.desk = d.withStore _) (onboard_desk h ho)
    · exact fun e => rfl
    · exact Gate.guard_state _ _ _ _ _ _ rfl

theorem ofRing_books (d : Desk) (answer : KeyRecord → Answer)
    (r : Except KeyError KeyRecord × KeyRing) : (d.ofRing answer r).desk.books = d.books := rfl

theorem uploadKey_books {d : Desk} {t : Policies} (h : d.books.store = .memory t)
    (now : Instant) (owner text : String) :
    (d.uploadKey now owner text).desk.books =
      ⟨.memory (t.onboarded d.defaultCeiling owner), d.books.snapshot⟩ := by
  apply of_checked
    (P := fun o => o.desk.books = ⟨.memory (t.onboarded d.defaultCeiling owner), d.books.snapshot⟩)
  · intro ho
    simp only [ho, unchanged, Policies.onboarded, if_true, ← h]
  · intro ho
    apply of_onboarded (P := fun o => o.desk.books = ⟨.memory _, d.books.snapshot⟩)
      (onboard_desk h ho)
    · exact fun e => rfl
    · exact ofRing_books _ .newKey _

theorem setBudget_books {d : Desk} {t : Policies} (h : d.books.store = .memory t)
    (owner : String) (ceiling : Float) :
    (d.setBudget owner ceiling).desk.books =
      ⟨.memory (t.after d.defaultCeiling (.setBudget owner ceiling)), d.books.snapshot⟩ := by
  unfold setBudget checkOwner
  by_cases ho : owner = platformOwner
  · simp only [ho, if_true, unchanged, Policies.after, ← h]
  · simp only [ho, if_false, Policies.after, store, h]
    rfl

theorem setBudget_isOk {d : Desk} {t : Policies} (h : d.books.store = .memory t) (owner : String)
    (ceiling : Float) :
    (d.setBudget owner ceiling).answer.isOk =
      (decide (owner ≠ platformOwner) && (t.setCeiling owner ceiling).1.isOk) := by
  unfold setBudget checkOwner
  by_cases ho : owner = platformOwner
  · simp [ho, unchanged, Except.isOk, Except.toBool]
  · simp only [ho, if_false, store, h]
    generalize hr : t.setCeiling owner ceiling = r
    have hs : BudgetStore.setCeiling (Store.memory t) owner ceiling =
        (r.1.mapError .invalid, .memory r.2) := by rw [← hr]; rfl
    rw [hs]
    cases r.1 <;> simp [ho, Except.isOk, Except.toBool, Except.mapError, Except.map]

theorem perform_books {d : Desk} {t : Policies} (h : d.books.store = .memory t) (stamp : Stamp)
    (call : Call) :
    (d.perform stamp call).desk.books =
      ⟨.memory (t.after d.defaultCeiling call), d.books.snapshot⟩ := by
  have hbooks : d.books = ⟨.memory t, d.books.snapshot⟩ := by rw [← h]
  cases call with
  | setBudget owner ceiling => exact setBudget_books h owner ceiling
  | uploadKey owner text => exact uploadKey_books h stamp.now owner text
  | createNotebook owner r => exact congrArg Desk.books (createNotebook_desk h stamp owner r)
  | sync =>
    simp only [perform, triggerSync]
    split <;> exact hbooks
  | replaceKey owner text =>
    simp only [perform, replaceKey]
    cases checkOwner owner with
    | error e => exact hbooks
    | ok u => exact (ofRing_books d .key _).trans hbooks
  | confirmKey owner succeeded =>
    simp only [perform, confirmKey]
    cases checkOwner owner with
    | error e => exact hbooks
    | ok u => exact (ofRing_books d .key _).trans hbooks
  | _ => exact hbooks

def ceilingSet (d : Desk) (stamp : Stamp) (owner : String) : Call → Option Float
  | .setBudget name ceiling =>
    if name = owner ∧ (d.perform stamp (.setBudget name ceiling)).answer.isOk = true then some ceiling
    else none
  | _ => none

/-- A ceiling changes only by being set; an owner who had none can get the default one. -/
theorem after_ceiling? {d : Desk} {t : Policies} (h : d.books.store = .memory t) (stamp : Stamp)
    (call : Call) (owner : String) :
    Policies.CeilingFrom d.defaultCeiling ((d.ceilingSet stamp owner call).or (t.ceiling? owner))
      ((t.after d.defaultCeiling call).ceiling? owner) := by
  cases call with
  | setBudget name ceiling =>
    apply Or.inl
    simp only [Policies.after, ceilingSet, perform, setBudget_isOk h, Bool.and_eq_true,
      decide_eq_true_eq]
    by_cases ho : name = platformOwner
    · rw [if_pos ho, if_neg (fun hs => hs.2.1 ho), Option.none_or]
    · rw [if_neg ho, Policies.setCeiling_ceiling?]
      simp only [ho, ne_eq, not_false_eq_true, true_and]
      split_ifs <;> rfl
  | uploadKey name text => exact Policies.onboarded_ceiling? d.defaultCeiling t name owner
  | createNotebook name r => exact Policies.onboarded_ceiling? d.defaultCeiling t name owner
  | _ => exact Or.inl rfl

def SameBut (d d' : Desk) : Prop :=
  d'.bundle = d.bundle ∧ d'.defaultCeiling = d.defaultCeiling ∧ d'.schedule = d.schedule

theorem SameBut.refl (d : Desk) : d.SameBut d := ⟨rfl, rfl, rfl⟩

theorem ofRing_sameBut (d : Desk) (answer : KeyRecord → Answer)
    (r : Except KeyError KeyRecord × KeyRing) : d.SameBut (d.ofRing answer r).desk :=
  ⟨rfl, rfl, rfl⟩

theorem createNotebook_withStore (d : Desk) (stamp : Stamp) (owner : String)
    (r : NotebookRequest) : ∃ store, (d.createNotebook stamp owner r).desk = d.withStore store := by
  obtain ⟨store, hstore⟩ := d.onboard_withStore owner
  apply of_checked (P := fun o => ∃ store, o.desk = d.withStore store)
  · exact fun _ => ⟨d.store, rfl⟩
  · intro _
    apply of_onboarded (P := fun o => ∃ store, o.desk = d.withStore store) hstore
    · exact fun e => ⟨store, rfl⟩
    · exact ⟨store, Gate.guard_state _ _ _ _ _ _ rfl⟩

theorem uploadKey_sameBut (d : Desk) (now : Instant) (owner text : String) :
    d.SameBut (d.uploadKey now owner text).desk := by
  obtain ⟨store, hstore⟩ := d.onboard_withStore owner
  apply of_checked (P := fun o => d.SameBut o.desk)
  · exact fun _ => SameBut.refl d
  · intro _
    apply of_onboarded (P := fun o => d.SameBut o.desk) hstore
    · exact fun e => ⟨rfl, rfl, rfl⟩
    · exact ofRing_sameBut (d.withStore store) .newKey _

theorem perform_sameBut (stamp : Stamp) (d : Desk) {call : Call} (hc : call ≠ .sync) :
    d.SameBut (d.perform stamp call).desk := by
  cases call with
  | sync => exact absurd rfl hc
  | createNotebook owner r =>
    obtain ⟨store, hdesk⟩ := d.createNotebook_withStore stamp owner r
    simp only [perform, hdesk]
    exact ⟨rfl, rfl, rfl⟩
  | uploadKey owner text => exact uploadKey_sameBut d stamp.now owner text
  | setBudget owner ceiling =>
    simp only [perform, setBudget]
    cases checkOwner owner with
    | error e => exact SameBut.refl d
    | ok u =>
      -- the answer of the store is kept closed, or it would be computed to compare the desks
      generalize BudgetStore.setCeiling d.store owner ceiling = r
      exact ⟨rfl, rfl, rfl⟩
  | replaceKey owner text =>
    simp only [perform, replaceKey]
    cases checkOwner owner with
    | error e => exact SameBut.refl d
    | ok u => exact ofRing_sameBut d .key _
  | confirmKey owner succeeded =>
    simp only [perform, confirmKey]
    cases checkOwner owner with
    | error e => exact SameBut.refl d
    | ok u => exact ofRing_sameBut d .key _
  | _ => exact SameBut.refl d

theorem triggerSync_desk (d : Desk) :
    d.triggerSync.desk = { d with schedule := d.schedule.map (·.trigger.2) } := by
  unfold triggerSync
  cases hs : d.schedule with
  | none => exact congrArg (fun s => { d with schedule := s }) hs
  | some schedule => rfl

theorem perform_default (stamp : Stamp) (d : Desk) (call : Call) :
    (d.perform stamp call).desk.defaultCeiling = d.defaultCeiling := by
  by_cases hc : call = .sync
  · subst hc
    exact (congrArg Desk.defaultCeiling d.triggerSync_desk :)
  · exact (d.perform_sameBut stamp hc).2.1

end Desk

end CloudDesk
