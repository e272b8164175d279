import CloudDesk.Proofs.Desk.Effects
import CloudDesk.Proofs.Desk.Notebook
import CloudDesk.Proofs.Desk.Requests
import CloudDesk.Proofs.Desk.Service

namespace CloudDesk

open Http

/-- The fields of answers that tell when they were given. -/
def clockFields : List String := ["uploaded_at", "updated_at", "requested_at"]

def Json.undated : Json → Json
  | .object fields => .object (fields.filter fun f => !clockFields.contains f.1)
  | j => j

def Http.Reply.undated (r : Reply) : Reply :=
  match r.body with
  | .json value => ⟨r.status, .json value.undated⟩
  | body => ⟨r.status, body⟩

def AuditEvent.undated (e : AuditEvent) : AuditEvent := { e with id := ⟨[]⟩, occurredAt := ⟨0, 0⟩ }

def Notebook.undated (n : Notebook) : Notebook := { n with requestedAt := ⟨0, 0⟩ }

def Answer.undated : Answer → Answer
  | .newKey record => .newKey record.undated
  | .key record => .key record.undated
  | .notebook n => .notebook n.undated
  | a => a

theorem Answer.undated_reply (a : Answer) : a.undated.reply.undated = a.reply.undated := by
  have hrecord : ∀ record : KeyRecord,
      (Wire.encode record.undated).undated = (Wire.encode record).undated := by
    intro record
    simp [Wire.encode, Json.undated, KeyRecord.undated, clockFields]
  cases a with
  | newKey record => simp only [undated, reply, body, Reply.undated, hrecord, status]
  | key record => simp only [undated, reply, body, Reply.undated, hrecord, status]
  | notebook n =>
    simp [undated, reply, body, Reply.undated, status, Notebook.toJson, Json.undated,
      Notebook.undated, clockFields]
  | _ => rfl

namespace Policies

structure SameFor (owner : String) (t t' : Policies) : Prop where
  own : t'.get? owner = t.get? owner
  platform : t'.get? platformOwner = t.get? platformOwner

section

variable {t t' : Policies} {owner : String}

theorem setCeiling_congr (h : t'.get? owner = t.get? owner) (ceiling : Float) :
    (t'.setCeiling owner ceiling).1 = (t.setCeiling owner ceiling).1 ∧
      (t'.setCeiling owner ceiling).2.get? owner = (t.setCeiling owner ceiling).2.get? owner := by
  unfold setCeiling
  rw [h]
  cases checkCeiling owner ceiling with
  | error e => exact ⟨rfl, h⟩
  | ok u => simp

theorem ensureOwner_congr (h : t'.get? owner = t.get? owner) (ceiling : Float) :
    (t'.ensureOwner owner ceiling).1 = (t.ensureOwner owner ceiling).1 ∧
      (t'.ensureOwner owner ceiling).2.get? owner = (t.ensureOwner owner ceiling).2.get? owner := by
  unfold ensureOwner
  rw [h]
  cases hp : t.get? owner with
  | some p => exact ⟨rfl, h⟩
  | none =>
    cases Policy.create owner ceiling with
    | error e => exact ⟨rfl, h⟩
    | ok p => simp

theorem onboarded_congr (h : t'.get? owner = t.get? owner) (default : Option Float) :
    (t'.onboarded default owner).get? owner = (t.onboarded default owner).get? owner := by
  unfold onboarded
  split_ifs
  · exact h
  · cases default with
    | none => exact h
    | some ceiling => exact (ensureOwner_congr h ceiling).2

theorem SameFor.after (h : SameFor owner t t') (default : Option Float) {call : Call}
    (hc : call.owner? = some owner) : SameFor owner (t.after default call) (t'.after default call) := by
  refine ⟨?_, by rw [get?_after_platform, get?_after_platform, h.platform]⟩
  cases call with
  | setBudget name ceiling =>
    cases hc
    simp only [Policies.after]
    split_ifs
    · exact h.own
    · exact (setCeiling_congr h.own ceiling).2
  | uploadKey name text =>
    cases hc
    exact onboarded_congr h.own default
  | createNotebook name r =>
    cases hc
    exact onboarded_congr h.own default
  | _ => exact h.own

end

end Policies

theorem Gate.exhausted_congr {lookup lookup' : Lookup} {owner : String}
    (hplatform : lookup' platformOwner = lookup platformOwner)
    (howner : lookup' owner = lookup owner) : exhausted lookup' owner = exhausted lookup owner := by
  unfold exhausted
  rw [hplatform, howner]

namespace Desk

/-- Both desks keep policies in memory, and they keep the same of the owner and of the platform. -/
structure Alike (owner : String) (d d' : Desk) : Prop where
  bundle : d'.bundle = d.bundle
  default : d'.defaultCeiling = d.defaultCeiling
  policies : ∃ t t', d.books.store = .memory t ∧ d'.books.store = .memory t' ∧
    Policies.SameFor owner t t'
  key : d'.keys.entry owner = d.keys.entry owner

namespace Alike

variable {owner : String} {d d' d'' : Desk}

theorem refl {t : Policies} (h : d.books.store = .memory t) : Alike owner d d :=
  ⟨rfl, rfl, ⟨t, t, h, h, rfl, rfl⟩, rfl⟩

theorem symm (h : Alike owner d d') : Alike owner d' d := by
  obtain ⟨t, t', ht, ht', hsame⟩ := h.policies
  exact ⟨h.bundle.symm, h.default.symm,
    ⟨t', t, ht', ht, hsame.own.symm, hsame.platform.symm⟩, h.key.symm⟩

theorem trans (h : Alike owner d d') (h' : Alike owner d' d'') : Alike owner d d'' := by
  obtain ⟨t, t₁, ht, ht₁, hsame⟩ := h.policies
  obtain ⟨t₂, t', ht₂, ht', hsame'⟩ := h'.policies
  cases ht₁.symm.trans ht₂
  exact ⟨h'.bundle.trans h.bundle, h'.default.trans h.default,
    ⟨t, t', ht, ht', hsame'.own.trans hsame.own, hsame'.platform.trans hsame.platform⟩,
    h'.key.trans h.key⟩

theorem get_own (h : Alike owner d d') :
    BudgetStore.get d'.store owner = BudgetStore.get d.store owner := by
  obtain ⟨t, t', ht, ht', hsame⟩ := h.policies
  rw [store, store, ht, ht']
  exact congrArg Except.ok hsame.own

theorem get_platform (h : Alike owner d d') :
    BudgetStore.get d'.store platformOwner = BudgetStore.get d.store platformOwner := by
  obtain ⟨t, t', ht, ht', hsame⟩ := h.policies
  rw [store, store, ht, ht']
  exact congrArg Except.ok hsame.platform

theorem cloud (h : Alike owner d d') : d'.cloud = d.cloud := congrArg Bundle.cloud h.bundle

theorem settings (h : Alike owner d d') : d'.settings = d.settings :=
  congrArg Bundle.settings h.bundle

theorem onboard (h : Alike owner d d') (ho : owner ≠ platformOwner) :
    (d'.onboard owner).1 = (d.onboard owner).1 ∧
      Alike owner (d.onboard owner).2 (d'.onboard owner).2 := by
  obtain ⟨t, t', ht, ht', hsame⟩ := h.policies
  constructor
  · rw [onboard_result ht, onboard_result ht', h.default]
    cases d.defaultCeiling with
    | none => rfl
    | some ceiling =>
      dsimp only
      rw [(Policies.ensureOwner_congr hsame.own ceiling).1]
  · rw [onboard_desk ht ho, onboard_desk ht' ho, h.default]
    refine ⟨h.bundle, h.default, ⟨_, _, rfl, rfl, ?_, ?_⟩, h.key⟩
    · exact Policies.onboarded_congr hsame.own d.defaultCeiling
    · rw [Policies.get?_onboarded_of_ne _ t (Ne.symm ho),
        Policies.get?_onboarded_of_ne _ t' (Ne.symm ho), hsame.platform]

end Alike

structure Outcome.Alike (owner : String) (o o' : Outcome) : Prop where
  answer : o'.answer.map Answer.undated = o.answer.map Answer.undated
  events : o'.events.map AuditEvent.undated = o.events.map AuditEvent.undated
  key : o'.desk.keys.entry owner = o.desk.keys.entry owner

section

variable {owner : String} {d d' : Desk}

theorem unchanged_alike (h : Alike owner d d') {answer answer' : Except Failure Answer}
    (ha : answer' = answer) : (d.unchanged answer).Alike owner (d'.unchanged answer') :=
  ⟨by rw [unchanged, unchanged, ha], rfl, h.key⟩

theorem ofRing_alike {answer : KeyRecord → Answer}
    (hanswer : ∀ record, (answer record).undated = answer record.undated)
    {r r' : Except KeyError KeyRecord × KeyRing} (hr : KeyRing.SameFor owner r r') :
    (d.ofRing answer r).Alike owner (d'.ofRing answer r') := by
  have hsaid : ∀ result : Except KeyError KeyRecord,
      ((result.mapError Failure.key).map answer).map Answer.undated =
        ((result.map KeyRecord.undated).mapError Failure.key).map answer := by
    intro result
    cases result with
    | error e => rfl
    | ok record => exact congrArg Except.ok (hanswer record)
  refine ⟨?_, rfl, hr.2⟩
  simp only [ofRing, hsaid, hr.1]

theorem prepareNotebook_alike (h : Alike owner d d') (now now' : Instant) (r : NotebookRequest) :
    (d'.prepareNotebook now' owner r).map Notebook.undated =
      (d.prepareNotebook now owner r).map Notebook.undated := by
  unfold prepareNotebook chooseTemplate instanceName
  rw [KeyRing.status_eq h.key, h.cloud, h.settings, h.bundle]
  split_ifs
  · rfl
  · rfl
  · cases d.cloud.findExploratory r.application with
    | none => rfl
    | some template =>
      dsimp only
      split_ifs
      · rfl
      · rfl

theorem guardNotebook_alike (h : Alike owner d d') (stamp stamp' : Stamp) (r : NotebookRequest) :
    (d.guardNotebook stamp owner r).Alike owner (d'.guardNotebook stamp' owner r) := by
  unfold guardNotebook Gate.guard
  rw [Gate.exhausted_congr h.get_platform h.get_own]
  obtain e | _ | e := Gate.exhausted (BudgetStore.get d.store) owner
  · exact ⟨rfl, rfl, h.key⟩
  · have hprepared := prepareNotebook_alike h stamp.now stamp'.now r
    have hsaid : ∀ result : Except Failure Notebook,
        (((result.mapError GuardError.operation).mapError Failure.ofGuard).map
          Answer.notebook).map Answer.undated =
            (((result.map Notebook.undated).mapError GuardError.operation).mapError
              Failure.ofGuard).map Answer.notebook := by
      intro result
      cases result <;> rfl
    refine ⟨?_, rfl, h.key⟩
    simp only [hsaid, hprepared]
  · exact ⟨rfl, rfl, h.key⟩

theorem checked_alike (h : Alike owner d d') {rest rest' : Outcome}
    (hrest : owner ≠ platformOwner → rest.Alike owner rest') :
    (match checkOwner owner with
      | .error e => d.unchanged (.error e)
      | .ok () => rest).Alike owner
    (match checkOwner owner with
      | .error e => d'.unchanged (.error e)
      | .ok () => rest') := by
  unfold checkOwner
  by_cases ho : owner = platformOwner
  · rw [if_pos ho]
    exact unchanged_alike h rfl
  · rw [if_neg ho]
    exact hrest ho

theorem onboarded_alike (h : Alike owner d d') (ho : owner ≠ platformOwner)
    {rest rest' : Desk → Outcome}
    (hrest : ∀ {after after'}, Alike owner after after' → (rest after).Alike owner (rest' after')) :
    (match d.onboard owner with
      | (.error e, d) => d.unchanged (.error (.store e))
      | (.ok (), d) => rest d).Alike owner
    (match d'.onboard owner with
      | (.error e, d') => d'.unchanged (.error (.store e))
      | (.ok (), d') => rest' d') := by
  obtain ⟨hresult, hafter⟩ := h.onboard ho
  generalize d.onboard owner = onboarded at hresult hafter
  generalize d'.onboard owner = onboarded' at hresult hafter
  obtain ⟨result, after⟩ := onboarded
  obtain ⟨result', after'⟩ := onboarded'
  dsimp only at hresult hafter
  subst hresult
  cases result' with
  | error e => exact unchanged_alike hafter rfl
  | ok u => exact hrest hafter

theorem Alike.binding (h : Alike owner d d') : d'.binding owner = d.binding owner := by
  rw [Desk.binding, Desk.binding, h.cloud, h.settings]

theorem setBudget_alike (h : Alike owner d d') (ceiling : Float) :
    (d.setBudget owner ceiling).Alike owner (d'.setBudget owner ceiling) := by
  refine checked_alike h fun ho => ?_
  obtain ⟨t, t', ht, ht', hsame⟩ := h.policies
  have hresult : (BudgetStore.setCeiling d'.store owner ceiling).1 =
      (BudgetStore.setCeiling d.store owner ceiling).1 := by
    rw [store, store, ht, ht']
    exact congrArg (Except.mapError StoreError.invalid)
      (Policies.setCeiling_congr hsame.own ceiling).1
  dsimp only
  exact ⟨by rw [hresult], rfl, h.key⟩

theorem uploadKey_alike (h : Alike owner d d') (now now' : Instant) (text : String) :
    (d.uploadKey now owner text).Alike owner (d'.uploadKey now' owner text) := by
  refine checked_alike h fun ho => onboarded_alike h ho fun hafter => ?_
  rw [hafter.binding]
  exact ofRing_alike (fun _ => rfl) (KeyRing.register_sameFor hafter.key text _ now now')

theorem replaceKey_alike (h : Alike owner d d') (now now' : Instant) (text : String) :
    (d.replaceKey now owner text).Alike owner (d'.replaceKey now' owner text) := by
  refine checked_alike h fun _ => ?_
  rw [h.binding]
  exact ofRing_alike (fun _ => rfl) (KeyRing.replace_sameFor h.key text _ now now')

theorem confirmKey_alike (h : Alike owner d d') (now now' : Instant) (succeeded : Bool) :
    (d.confirmKey now owner succeeded).Alike owner (d'.confirmKey now' owner succeeded) :=
  checked_alike h fun _ =>
    ofRing_alike (fun _ => rfl) (KeyRing.confirm_sameFor h.key succeeded now now')

theorem createNotebook_alike (h : Alike owner d d') (stamp stamp' : Stamp) (r : NotebookRequest) :
    (d.createNotebook stamp owner r).Alike owner (d'.createNotebook stamp' owner r) := by
  refine checked_alike h fun ho => onboarded_alike h ho fun hafter => ?_
  exact guardNotebook_alike hafter stamp stamp' r

theorem perform_alike (h : Alike owner d d') {call : Call} (hc : call.owner? = some owner)
    (stamp stamp' : Stamp) : (d.perform stamp call).Alike owner (d'.perform stamp' call) := by
  cases call with
  | getBudget name =>
    cases hc
    exact unchanged_alike h (by rw [h.get_own])
  | setBudget name ceiling =>
    cases hc
    exact setBudget_alike h ceiling
  | keyStatus name =>
    cases hc
    exact unchanged_alike h (by rw [KeyRing.status_eq h.key])
  | uploadKey name text =>
    cases hc
    exact uploadKey_alike h stamp.now stamp'.now text
  | replaceKey name text =>
    cases hc
    exact replaceKey_alike h stamp.now stamp'.now text
  | confirmKey name succeeded =>
    cases hc
    exact confirmKey_alike h stamp.now stamp'.now succeeded
  | sharedInfo name =>
    cases hc
    exact unchanged_alike h (by rw [h.cloud, h.settings])
  | createNotebook name r =>
    cases hc
    exact createNotebook_alike h stamp stamp' r
  | _ => cases hc

theorem perform_own (h : Alike owner d d') {call : Call}
    (hc : call.owner? = some owner) (stamp stamp' : Stamp) :
    Alike owner (d.perform stamp call).desk (d'.perform stamp' call).desk := by
  obtain ⟨t, t', ht, ht', hsame⟩ := h.policies
  refine ⟨?_, ?_, ⟨_, _, ?_, ?_, hsame.after d.defaultCeiling hc⟩,
    (perform_alike h hc stamp stamp').key⟩
  · rw [perform_bundle, perform_bundle, h.bundle]
  · rw [perform_default, perform_default, h.default]
  · rw [perform_books ht]
  · rw [perform_books ht', h.default]

theorem perform_other {t : Policies} (ht : d.books.store = .memory t) {call : Call}
    (hc : call.owner? ≠ some owner) (stamp : Stamp) :
    Alike owner d (d.perform stamp call).desk := by
  have hkey := (perform_files stamp d call).get?_of_ne hc
  refine ⟨perform_bundle stamp d call, perform_default stamp d call,
    ⟨t, t.after d.defaultCeiling call, ht, by rw [perform_books ht], ?_, ?_⟩, ?_⟩
  · exact Policies.get?_after_of_ne d.defaultCeiling t hc
  · exact Policies.get?_after_platform d.defaultCeiling t call
  · rw [KeyRing.entry, KeyRing.entry, hkey]

theorem undated_withoutBody (r : Request) (reply : Reply) :
    (withoutBody r reply).undated = withoutBody r reply.undated := by
  obtain ⟨status, body⟩ := reply
  unfold withoutBody
  split_ifs
  · cases body <;> rfl
  · rfl

theorem Outcome.Alike.reply {o o' : Outcome} (h : o.Alike owner o') :
    o'.reply.undated = o.reply.undated := by
  have ha := h.answer
  unfold Outcome.reply
  cases ho : o.answer with
  | error f =>
    rw [ho] at ha
    cases ho' : o'.answer with
    | error f' =>
      rw [ho'] at ha
      rw [Except.error.inj ha]
    | ok a' =>
      rw [ho'] at ha
      cases ha
  | ok a =>
    rw [ho] at ha
    cases ho' : o'.answer with
    | error f' =>
      rw [ho'] at ha
      cases ha
    | ok a' =>
      rw [ho'] at ha
      have hsame : a'.undated = a.undated := Except.ok.inj ha
      dsimp only
      rw [← a'.undated_reply, hsame, a.undated_reply]

/-- A request of the owner to desks that are alike is answered and recorded alike, and leaves them
alike. -/
theorem handle_own (h : Alike owner d d') {r : Request} (hr : r.named? = some owner)
    (stamp stamp' : Stamp) :
    (d'.handle stamp' r).1.undated = (d.handle stamp r).1.undated ∧
      (d'.handle stamp' r).2.2.map AuditEvent.undated =
        (d.handle stamp r).2.2.map AuditEvent.undated ∧
      Alike owner (d.handle stamp r).2.1 (d'.handle stamp' r).2.1 := by
  unfold handle
  cases hc : Call.ofRequest r with
  | error rejection => exact ⟨rfl, rfl, h⟩
  | ok call =>
    have howner := (Call.ofRequest_matches hc).owner.trans hr
    have halike := perform_alike h howner stamp stamp'
    refine ⟨?_, halike.events, perform_own h howner stamp stamp'⟩
    dsimp only
    rw [undated_withoutBody, undated_withoutBody, halike.reply]

theorem handle_other {t : Policies} (ht : d.books.store = .memory t) {r : Request}
    (hr : r.named? ≠ some owner) (stamp : Stamp) :
    (∀ e ∈ (d.handle stamp r).2.2, e.owner ≠ owner) ∧ Alike owner d (d.handle stamp r).2.1 := by
  unfold handle
  cases hc : Call.ofRequest r with
  | error rejection => exact ⟨fun _ he => absurd he List.not_mem_nil, .refl ht⟩
  | ok call =>
    rw [← (Call.ofRequest_matches hc).owner] at hr
    refine ⟨fun e he howner => ?_, perform_other ht hr stamp⟩
    cases perform_audited stamp d call with
    | refused hcall hanswer hevents =>
      dsimp only at he
      rw [hevents, List.mem_singleton] at he
      rw [← he, howner] at hcall
      exact hr hcall
    | silent hanswer hevents =>
      dsimp only at he
      rw [hevents] at he
      cases he

end

end Desk

namespace Service

def requestOf (owner : String) (e : Event) : Option Request :=
  e.request?.filter fun r => r.named? = some owner

def requestsOf (owner : String) (events : List Event) : List Request :=
  events.filterMap (requestOf owner)

/-- What an event is replied to the owner, clock readings apart. -/
def replyTo (owner : String) (s : Service) : Event → Option Reply
  | .request stamp r =>
    if r.named? = some owner then some (s.desk.handle stamp r).1.undated else none
  | _ => none

def recordOf (owner : String) (s : Service) : Event → List AuditEvent
  | .request stamp r =>
    ((s.desk.handle stamp r).2.2.map AuditEvent.undated).filter fun e => e.owner = owner
  | _ => []

def repliesTo (owner : String) : Service → List Event → List Reply
  | _, [] => []
  | s, e :: rest => (replyTo owner s e).toList ++ repliesTo owner (s.step e) rest

def recordsOf (owner : String) : Service → List Event → List AuditEvent
  | _, [] => []
  | s, e :: rest => recordOf owner s e ++ recordsOf owner (s.step e) rest

/-- The owner gets the same replies, is recorded about alike, and finds the desk alike at the end.
-/
structure SameRun (owner : String) (s s' : Service) (events events' : List Event) : Prop where
  replies : repliesTo owner s' events' = repliesTo owner s events
  records : recordsOf owner s' events' = recordsOf owner s events
  desk : Desk.Alike owner (s.run events).desk (s'.run events').desk

section

variable {owner : String} {s s' : Service}

theorem step_other {t : Policies} (ht : s.desk.books.store = .memory t) {e : Event}
    (he : requestOf owner e = none) (hs : s.syncs e = false) :
    replyTo owner s e = none ∧ recordOf owner s e = [] ∧
      Desk.Alike owner s.desk (s.step e).desk := by
  cases hr : e.request? with
  | some r =>
    obtain ⟨stamp, rfl⟩ : ∃ stamp, e = .request stamp r := by
      cases e with
      | request stamp r' =>
        cases hr
        exact ⟨stamp, rfl⟩
      | _ => cases hr
    have hnamed : r.named? ≠ some owner := by
      simpa [requestOf, Event.request?, Option.filter_eq_none_iff] using he
    obtain ⟨hrecords, halike⟩ := Desk.handle_other ht hnamed stamp
    refine ⟨if_neg hnamed, ?_, halike⟩
    simpa [recordOf, List.filter_eq_nil_iff, AuditEvent.undated] using hrecords
  | none =>
    obtain ⟨schedule, hdesk⟩ := s.step_desk hr
    have hbooks := step_books ht hr hs
    refine ⟨?_, ?_, ?_⟩
    · cases e with
      | request stamp r => cases hr
      | _ => rfl
    · cases e with
      | request stamp r => cases hr
      | _ => rfl
    · rw [hbooks] at hdesk
      rw [hdesk]
      exact ⟨rfl, rfl, ⟨t, t, ht, ht, rfl, rfl⟩, rfl⟩

theorem requestOf_some {e : Event} {r : Request} (h : requestOf owner e = some r) :
    r.named? = some owner ∧ ∃ stamp, e = .request stamp r := by
  obtain ⟨hr, hnamed⟩ := Option.filter_eq_some_iff.mp h
  cases e with
  | request stamp r' =>
    cases hr
    exact ⟨of_decide_eq_true hnamed, stamp, rfl⟩
  | _ => cases hr

/-- A run without the sync is for an owner as if nobody else had asked for anything. -/
theorem run_alone (h : Desk.Alike owner s.desk s'.desk) (stamp : Stamp) {events : List Event}
    (hs : hasSynced s events = false) :
    SameRun owner s s' events ((requestsOf owner events).map (.request stamp)) := by
  induction events generalizing s s' with
  | nil => exact ⟨rfl, rfl, h⟩
  | cons e rest ih =>
    obtain ⟨hfirst, hrest⟩ := Bool.or_eq_false_iff.mp hs
    cases hr : requestOf owner e with
    | none =>
      -- the run that is alone waits: the desks are alike still, since the other one has not changed
      obtain ⟨t, -, ht, -⟩ := h.policies
      obtain ⟨hreply, hrecord, halike⟩ := step_other ht hr hfirst
      obtain ⟨hreplies, hrecords, hdesk⟩ := ih (halike.symm.trans h) hrest
      rw [requestsOf, List.filterMap_cons_none hr]
      refine ⟨?_, ?_, hdesk⟩
      · rw [repliesTo, hreply]
        exact hreplies
      · rw [recordsOf, hrecord]
        exact hrecords
    | some r =>
      obtain ⟨hnamed, stamp', rfl⟩ := requestOf_some hr
      obtain ⟨hreply, hrecord, halike⟩ := Desk.handle_own h hnamed stamp' stamp
      have hnext : Desk.Alike owner (s.step (.request stamp' r)).desk
          (s'.step (.request stamp r)).desk := halike
      obtain ⟨hreplies, hrecords, hdesk⟩ := ih hnext hrest
      rw [requestsOf, List.filterMap_cons_some hr]
      refine ⟨?_, ?_, hdesk⟩
      · simp only [List.map_cons, repliesTo, replyTo, if_pos hnamed, hreply]
        exact congrArg _ hreplies
      · simp only [List.map_cons, recordsOf, recordOf, hrecord]
        exact congrArg _ hrecords

end

def withoutOthers (owner : String) (events : List Event) : List Event :=
  events.filter fun e => (e.request?.bind Request.named?).all fun o => o = owner

theorem requestsOf_withoutOthers (owner : String) (events : List Event) :
    requestsOf owner (withoutOthers owner events) = requestsOf owner events := by
  unfold requestsOf withoutOthers
  rw [List.filterMap_filter]
  congr 1
  funext e
  split_ifs with hkept
  · rfl
  · symm
    by_contra hasked
    obtain ⟨r, hr⟩ := Option.ne_none_iff_exists'.mp hasked
    obtain ⟨hnamed, stamp, rfl⟩ := requestOf_some hr
    apply hkept
    simp [Event.request?, hnamed]

/-- Owners do not come in each other's way. Whatever others ask for in two runs in which no sync
commits: if an owner asks for the same in both, in the same order, then the owner gets the same
replies in both, the same is recorded about the owner, and the owner has the same policy and key at
the end. So it is when the requests of others are left out of a run. -/
theorem owners_do_not_interfere {s : Service} {t : Policies} (hstore : s.desk.books.store = .memory t)
    (owner : String) {events events' : List Event} (hs : hasSynced s events = false)
    (hs' : hasSynced s events' = false)
    (hsame : requestsOf owner events' = requestsOf owner events) :
    SameRun owner s s events events' := by
  have hstart : Desk.Alike owner s.desk s.desk := .refl hstore
  have halone := run_alone hstart ⟨⟨0, 0⟩, ⟨[]⟩⟩ hs
  have halone' := run_alone hstart ⟨⟨0, 0⟩, ⟨[]⟩⟩ hs'
  rw [hsame] at halone'
  exact ⟨halone'.replies.symm.trans halone.replies, halone'.records.symm.trans halone.records,
    halone.desk.trans halone'.desk.symm⟩

def bothAsk : List Event :=
  [.request ⟨⟨0, 0⟩, ⟨[]⟩⟩ (askNotebook "alice"), .request ⟨⟨1, 0⟩, ⟨[]⟩⟩ (askNotebook "bob")]

theorem bob_is_refused_as_if_alone :
    withoutOthers "bob" bothAsk = bothAsk.drop 1 ∧
      SameRun "bob" ⟨openDesk, none⟩ ⟨openDesk, none⟩ bothAsk (bothAsk.drop 1) := by
  have halice : (askNotebook "alice").named? = some "alice" := by decide +kernel
  have hbob : (askNotebook "bob").named? = some "bob" := by decide +kernel
  have hleft : withoutOthers "bob" bothAsk = bothAsk.drop 1 := by
    simp [withoutOthers, bothAsk, Event.request?, halice, hbob]
  refine ⟨hleft, owners_do_not_interfere rfl "bob" rfl rfl ?_⟩
  rw [← hleft, requestsOf_withoutOthers]

end Service

end CloudDesk
