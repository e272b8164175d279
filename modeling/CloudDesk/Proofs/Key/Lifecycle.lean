import CloudDesk.Key.Ring
import CloudDesk.Proofs.Table

namespace CloudDesk

inductive KeyAction
  | register (text : String) (binding : KeyBinding)
  | replace (text : String) (binding : KeyBinding)
  | confirm (succeeded : Bool)

inductive KeyMove
  | register
  | replace
  | confirm
  deriving DecidableEq

namespace KeyMove

def next : KeyMove → KeyMove
  | .register | .replace => .confirm
  | .confirm => .replace

theorem next_of_ne {m : KeyMove} (h : m ≠ .confirm) : m.next = .confirm := by
  cases m with
  | confirm => exact absurd rfl h
  | _ => rfl

/-- Register, confirm, replace, confirm, replace, and so on. -/
def turn : Nat → KeyMove
  | 0 => .register
  | n + 1 => (turn n).next

example : (List.range 6).map turn = [.register, .confirm, .replace, .confirm, .replace, .confirm] := by
  decide

end KeyMove

namespace KeyAction

def move : KeyAction → KeyMove
  | .register _ _ => .register
  | .replace _ _ => .replace
  | .confirm _ => .confirm

def text? : KeyAction → Option String
  | .register text _ | .replace text _ => some text
  | .confirm _ => none

theorem move_of_text (a : KeyAction) {text : String} (h : a.text? = some text) :
    a.move ≠ .confirm := by
  cases a with
  | confirm succeeded => cases h
  | register text binding => exact fun h => nomatch h
  | replace text binding => exact fun h => nomatch h

def outcome : KeyAction → KeyStatus
  | .register _ _ | .replace _ _ => .new
  | .confirm true => .active
  | .confirm false => .failed

theorem outcome_ne_absent (a : KeyAction) : a.outcome ≠ .absent := by
  cases a with
  | confirm succeeded => cases succeeded <;> decide
  | register text binding => exact fun h => nomatch h
  | replace text binding => exact fun h => nomatch h

theorem outcome_eq_new_iff (a : KeyAction) : a.outcome = .new ↔ a.move ≠ .confirm := by
  cases a with
  | confirm succeeded => cases succeeded <;> decide
  | _ => simp [outcome, move]

theorem outcome_eq_settled_iff (a : KeyAction) (succeeded : Bool) :
    a.outcome = (if succeeded then .active else .failed) ↔ a = .confirm succeeded := by
  cases a with
  | confirm s => cases s <;> cases succeeded <;> simp [outcome]
  | _ => cases succeeded <;> simp [outcome]

end KeyAction

structure KeyCall where
  owner : String
  action : KeyAction
  time : Instant

namespace KeyRing

def perform (ring : KeyRing) (c : KeyCall) : Except KeyError KeyRecord × KeyRing :=
  match c.action with
  | .register text binding => ring.register c.owner text binding c.time
  | .replace text binding => ring.replace c.owner text binding c.time
  | .confirm succeeded => ring.confirm c.owner succeeded c.time

/-- The record that a call which is accepted files, and what lets it be accepted. -/
inductive Accepts (ring : KeyRing) (c : KeyCall) : KeyRecord → Prop
  | registered {text : String} {binding : KeyBinding} {key : PublicKey}
      (haction : c.action = .register text binding) (hkey : PublicKey.parse text = .ok key)
      (hnone : ring.get? c.owner = none) : Accepts ring c (newRecord c.owner key binding c.time)
  | replaced {text : String} {binding : KeyBinding} {key : PublicKey} {before : KeyRecord}
      (haction : c.action = .replace text binding) (hkey : PublicKey.parse text = .ok key)
      (hbefore : ring.get? c.owner = some before) (hstatus : before.status ≠ .new) :
      Accepts ring c (newRecord c.owner key binding c.time)
  | confirmed {succeeded : Bool} {before : KeyRecord} (haction : c.action = .confirm succeeded)
      (hbefore : ring.get? c.owner = some before) (hstatus : before.status = .new) :
      Accepts ring c { before with status := c.action.outcome, updatedAt := c.time }

theorem Accepts.status {ring : KeyRing} {c : KeyCall} {record : KeyRecord}
    (h : Accepts ring c record) : record.status = c.action.outcome := by
  cases h with
  | registered haction | replaced haction => rw [haction]; rfl
  | confirmed => rfl

theorem Accepts.updatedAt {ring : KeyRing} {c : KeyCall} {record : KeyRecord}
    (h : Accepts ring c record) : record.updatedAt = c.time := by
  cases h <;> rfl

theorem perform_cases (ring : KeyRing) (c : KeyCall) :
    (∃ e, ring.perform c = (.error e, ring)) ∨
      ∃ record, Accepts ring c record ∧ ring.perform c = (.ok record, ring.put c.owner record) := by
  obtain ⟨owner, action, time⟩ := c
  cases action with
  | register text binding =>
    simp only [perform, register]
    cases hkey : PublicKey.parse text with
    | error e => exact Or.inl ⟨_, rfl⟩
    | ok key =>
      cases hr : ring.get? owner with
      | some record => exact Or.inl ⟨_, rfl⟩
      | none => exact Or.inr ⟨_, .registered rfl hkey hr, rfl⟩
  | replace text binding =>
    simp only [perform, replace]
    cases hkey : PublicKey.parse text with
    | error e => exact Or.inl ⟨_, rfl⟩
    | ok key =>
      cases hr : ring.get? owner with
      | none => exact Or.inl ⟨_, rfl⟩
      | some before =>
        by_cases hn : before.status = .new
        · simp only [hn, if_true]
          exact Or.inl ⟨_, rfl⟩
        · simp only [hn, if_false]
          exact Or.inr ⟨_, .replaced rfl hkey hr hn, rfl⟩
  | confirm succeeded =>
    simp only [perform, confirm]
    cases hr : ring.get? owner with
    | none => exact Or.inl ⟨_, rfl⟩
    | some before =>
      by_cases hn : before.status = .new
      · simp only [hn, if_true]
        cases succeeded with
        | true => exact Or.inr ⟨_, .confirmed rfl hr hn, rfl⟩
        | false => exact Or.inr ⟨_, .confirmed rfl hr hn, rfl⟩
      · simp only [hn, if_false]
        exact Or.inl ⟨_, rfl⟩

theorem perform_failed {ring : KeyRing} {c : KeyCall} {e : KeyError}
    (h : (ring.perform c).1 = .error e) : (ring.perform c).2 = ring := by
  obtain ⟨e', hr⟩ | ⟨record, -, hr⟩ := ring.perform_cases c
  · rw [hr]
  · rw [hr] at h
    cases h

theorem perform_other {ring : KeyRing} {c : KeyCall} {owner : String} (h : owner ≠ c.owner) :
    (ring.perform c).2.get? owner = ring.get? owner := by
  obtain ⟨e, hr⟩ | ⟨record, -, hr⟩ := ring.perform_cases c
  · rw [hr]
  · rw [hr, Table.get?_put, if_neg h]

theorem perform_unreadable {ring : KeyRing} {c : KeyCall} {text : String} {e : PublicKey.Error}
    (htext : c.action.text? = some text) (h : PublicKey.parse text = .error e) :
    ring.perform c = (.error (.invalidFormat e), ring) := by
  obtain ⟨owner, action, time⟩ := c
  cases action with
  | register text binding =>
    cases htext
    simp only [perform, register, h]
  | replace text binding =>
    cases htext
    simp only [perform, replace, h]
  | confirm succeeded => cases htext

theorem perform_pending {ring : KeyRing} {c : KeyCall} (hstatus : ring.status c.owner = .new)
    (hmove : c.action.move ≠ .confirm) : ∃ e, (ring.perform c).1 = .error e := by
  obtain ⟨e, hr⟩ | ⟨record, haccepts, -⟩ := ring.perform_cases c
  · exact ⟨e, by rw [hr]⟩
  · exfalso
    unfold status at hstatus
    cases haccepts with
    | registered haction hkey hnone =>
      rw [hnone] at hstatus
      cases hstatus
    | replaced haction hkey hbefore hnew =>
      rw [hbefore] at hstatus
      exact hnew hstatus
    | confirmed haction hbefore hnew =>
      rw [haction] at hmove
      exact hmove rfl

end KeyRing

structure KeyHistory where
  ring : KeyRing
  log : List (KeyCall × Except KeyError KeyRecord)

namespace KeyHistory

def opened : KeyHistory := ⟨Table.empty, []⟩

def step (h : KeyHistory) (c : KeyCall) : KeyHistory :=
  ⟨(h.ring.perform c).2, h.log ++ [(c, (h.ring.perform c).1)]⟩

def run (h : KeyHistory) (calls : List KeyCall) : KeyHistory := calls.foldl step h

def accepted (h : KeyHistory) (owner : String) : List KeyCall :=
  (h.log.filter fun entry => entry.1.owner = owner && entry.2.isOk).map (·.1)

theorem accepted_step (h : KeyHistory) (c : KeyCall) (owner : String) :
    (h.step c).accepted owner =
      h.accepted owner ++ if c.owner = owner ∧ (h.ring.perform c).1.isOk = true then [c] else [] := by
  unfold accepted step
  rw [List.filter_append, List.map_append]
  congr 1
  split_ifs with hc
  · simp [hc.1, hc.2]
  · have hout : (decide (c.owner = owner) && (h.ring.perform c).1.isOk) = false := by
      simpa using hc
    rw [List.filter_cons_of_neg (by simp [hout]), List.filter_nil, List.map_nil]

def uploads (calls : List KeyCall) : List KeyCall := calls.filter (·.action.move ≠ .confirm)

theorem uploads_confirm (calls : List KeyCall) {c : KeyCall} (h : c.action.move = .confirm) :
    uploads (calls ++ [c]) = uploads calls := by
  simp [uploads, h]

theorem uploads_upload (calls : List KeyCall) {c : KeyCall} (h : c.action.move ≠ .confirm) :
    (uploads (calls ++ [c])).getLast? = some c := by
  simp [uploads, h]

def Carries (r : KeyRecord) (c : KeyCall) : Prop :=
  ∃ text key, c.action.text? = some text ∧ PublicKey.parse text = .ok key ∧
    r.publicKey = key.normalized ∧ r.fingerprint = key.fingerprint ∧ r.uploadedAt = c.time

theorem newRecord_carried (calls : List KeyCall) {c : KeyCall} {text : String} {key : PublicKey}
    {binding : KeyBinding} (htext : c.action.text? = some text)
    (hkey : PublicKey.parse text = .ok key) :
    ∃ u, (uploads (calls ++ [c])).getLast? = some u ∧
      Carries (KeyRing.newRecord c.owner key binding c.time) u :=
  ⟨c, uploads_upload calls (c.action.move_of_text htext), text, key, htext, hkey, rfl, rfl, rfl⟩

/-- What is filed for an owner is what the accepted calls of the owner say. -/
structure Account (calls : List KeyCall) (filed : Option KeyRecord) : Prop where
  turns : calls.map (·.action.move) = (List.range calls.length).map KeyMove.turn
  last : filed.map (fun r => (r.status, r.updatedAt)) =
    calls.getLast?.map fun c => (c.action.outcome, c.time)
  upload : ∀ r, filed = some r → ∃ c, (uploads calls).getLast? = some c ∧ Carries r c

theorem turn_length {calls : List KeyCall} {c : KeyCall}
    (hturns : calls.map (·.action.move) = (List.range calls.length).map KeyMove.turn)
    (hlast : calls.getLast? = some c) : KeyMove.turn calls.length = c.action.move.next := by
  obtain ⟨earlier, rfl⟩ := List.getLast?_eq_some_iff.mp hlast
  rw [List.length_append, List.length_singleton, List.range_succ, List.map_append, List.map_append]
    at hturns
  obtain ⟨-, hmove⟩ := List.append_inj' hturns rfl
  rw [List.length_append, List.length_singleton, KeyMove.turn, ← List.singleton_inj.mp hmove]

namespace Account

variable {calls : List KeyCall} {filed : Option KeyRecord}

theorem nothing : Account [] none := ⟨rfl, rfl, fun _ h => nomatch h⟩

theorem last_some (h : Account calls filed) {r : KeyRecord} (hr : filed = some r) :
    ∃ c, calls.getLast? = some c ∧ r.status = c.action.outcome ∧ r.updatedAt = c.time := by
  have hlast := h.last
  rw [hr, Option.map_some] at hlast
  obtain ⟨c, hc, heq⟩ := Option.map_eq_some_iff.mp hlast.symm
  obtain ⟨hstatus, htime⟩ := Prod.mk.inj heq
  exact ⟨c, hc, hstatus.symm, htime.symm⟩

theorem eq_nil (h : Account calls none) : calls = [] := by
  have hlast := h.last
  rw [Option.map_none, eq_comm, Option.map_eq_none_iff, List.getLast?_eq_none_iff] at hlast
  exact hlast

section

variable {ring : KeyRing} {c : KeyCall} {record : KeyRecord}

theorem accepts_turn (h : Account calls (ring.get? c.owner)) (hc : KeyRing.Accepts ring c record) :
    c.action.move = KeyMove.turn calls.length := by
  cases hc with
  | registered haction hkey hnone =>
    rw [hnone] at h
    rw [h.eq_nil, haction]
    rfl
  | replaced haction hkey hbefore hstatus =>
    obtain ⟨before, hlast, hout, -⟩ := h.last_some hbefore
    rw [hout, ne_eq, KeyAction.outcome_eq_new_iff, not_not] at hstatus
    rw [turn_length h.turns hlast, hstatus, haction]
    rfl
  | confirmed haction hbefore hstatus =>
    obtain ⟨before, hlast, hout, -⟩ := h.last_some hbefore
    rw [hout, KeyAction.outcome_eq_new_iff] at hstatus
    rw [turn_length h.turns hlast, KeyMove.next_of_ne hstatus, haction]
    rfl

theorem accepts_upload (h : Account calls (ring.get? c.owner))
    (hc : KeyRing.Accepts ring c record) :
    ∃ u, (uploads (calls ++ [c])).getLast? = some u ∧ Carries record u := by
  cases hc with
  | registered haction hkey hnone => exact newRecord_carried calls (by rw [haction]; rfl) hkey
  | replaced haction hkey hbefore hstatus => exact newRecord_carried calls (by rw [haction]; rfl) hkey
  | confirmed haction hbefore hstatus =>
    rw [uploads_confirm calls (by rw [haction]; rfl)]
    obtain ⟨u, hu, hcarries⟩ := h.upload _ hbefore
    exact ⟨u, hu, hcarries⟩

theorem accept (h : Account calls (ring.get? c.owner)) (hc : KeyRing.Accepts ring c record) :
    Account (calls ++ [c]) (some record) where
  turns := by
    rw [List.length_append, List.length_singleton, List.range_succ, List.map_append, List.map_append,
      h.turns, List.map_singleton, List.map_singleton, h.accepts_turn hc]
  last := by rw [List.getLast?_concat, Option.map_some, Option.map_some, hc.status, hc.updatedAt]
  upload := by
    intro r hr
    obtain rfl := Option.some.inj hr
    exact h.accepts_upload hc

end

end Account

theorem step_account {h : KeyHistory} {owner : String}
    (ha : Account (h.accepted owner) (h.ring.get? owner)) (c : KeyCall) :
    Account ((h.step c).accepted owner) ((h.step c).ring.get? owner) := by
  have hring : (h.step c).ring = (h.ring.perform c).2 := rfl
  rw [accepted_step, hring]
  obtain ⟨e, hr⟩ | ⟨record, haccepts, hr⟩ := h.ring.perform_cases c
  · rw [hr, if_neg (by rintro ⟨-, hok⟩; cases hok), List.append_nil]
    exact ha
  · rw [hr, Table.get?_put]
    by_cases ho : c.owner = owner
    · subst ho
      rw [if_pos ⟨rfl, rfl⟩, if_pos rfl]
      exact ha.accept haccepts
    · rw [if_neg fun hc => ho hc.1, List.append_nil, if_neg (Ne.symm ho)]
      exact ha

theorem run_account {h : KeyHistory} {owner : String}
    (ha : Account (h.accepted owner) (h.ring.get? owner)) (calls : List KeyCall) :
    Account ((h.run calls).accepted owner) ((h.run calls).ring.get? owner) := by
  induction calls generalizing h with
  | nil => exact ha
  | cons c rest ih => exact ih (step_account ha c)

namespace Account

variable {calls : List KeyCall} {ring : KeyRing} {owner : String}

theorem status_eq (h : Account calls (ring.get? owner)) :
    ring.status owner = (calls.getLast?.map (·.action.outcome)).getD .absent := by
  unfold KeyRing.status
  cases hr : ring.get? owner with
  | none =>
    rw [hr] at h
    rw [h.eq_nil]
    rfl
  | some r =>
    obtain ⟨c, hlast, hstatus, -⟩ := h.last_some hr
    rw [hlast]
    exact hstatus

theorem absent_iff (h : Account calls (ring.get? owner)) :
    ring.status owner = .absent ↔ ∀ c ∈ calls, c.action.move ≠ .register := by
  rw [h.status_eq]
  cases hlast : calls.getLast? with
  | none =>
    rw [List.getLast?_eq_none_iff] at hlast
    simp [hlast]
  | some last =>
    refine iff_of_false (KeyAction.outcome_ne_absent last.action) fun hnone => ?_
    -- the first turn is that of a registration
    cases hcalls : calls with
    | nil => rw [hcalls] at hlast; cases hlast
    | cons first rest =>
      have hturns := h.turns
      rw [hcalls, List.length_cons, List.range_succ_eq_map, List.map_cons, List.map_cons] at hturns
      obtain ⟨hfirst, -⟩ := List.cons_eq_cons.mp hturns
      exact hnone first (hcalls ▸ List.mem_cons_self) hfirst

theorem new_iff (h : Account calls (ring.get? owner)) :
    ring.status owner = .new ↔ ∃ c, calls.getLast? = some c ∧ c.action.move ≠ .confirm := by
  rw [h.status_eq]
  cases calls.getLast? with
  | none => simp
  | some last => simp [KeyAction.outcome_eq_new_iff]

theorem settled_iff (h : Account calls (ring.get? owner)) (succeeded : Bool) :
    ring.status owner = (if succeeded then .active else .failed) ↔
      ∃ c, calls.getLast? = some c ∧ c.action = .confirm succeeded := by
  rw [h.status_eq]
  cases calls.getLast? with
  | none => cases succeeded <;> simp
  | some last => simp [KeyAction.outcome_eq_settled_iff]

end Account

/-- Whatever calls are made of one ring, the accepted calls of an owner are register, confirm,
replace, confirm, replace and so on, the last of them gives the status and the time of the latest
change, and the last of them that brought a key gives the key and the time of the upload. A call
that fails changes nothing, no call changes what is filed for another owner, a key that is new is
neither registered again nor replaced, and a text that cannot be read is told before anything else.
-/
theorem keys_take_turns (calls : List KeyCall) (owner : String) :
    let h := opened.run calls
    let mine := h.accepted owner
    (∃ n, mine.map (·.action.move) = (List.range n).map KeyMove.turn) ∧
      (h.ring.status owner = .absent ↔ ∀ c ∈ mine, c.action.move ≠ .register) ∧
      (h.ring.status owner = .new ↔ ∃ c, mine.getLast? = some c ∧ c.action.move ≠ .confirm) ∧
      (∀ succeeded : Bool, h.ring.status owner = (if succeeded then .active else .failed) ↔
        ∃ c, mine.getLast? = some c ∧ c.action = .confirm succeeded) ∧
      (∀ r, h.ring.get? owner = some r → r.status ≠ .absent ∧
        (∃ c, mine.getLast? = some c ∧ r.updatedAt = c.time) ∧
        ∃ c, (uploads mine).getLast? = some c ∧ Carries r c) ∧
      ∀ c : KeyCall,
        (∀ e, (h.ring.perform c).1 = .error e → (h.ring.perform c).2 = h.ring) ∧
        (owner ≠ c.owner → (h.ring.perform c).2.get? owner = h.ring.get? owner) ∧
        (h.ring.status c.owner = .new → c.action.move ≠ .confirm →
          ∃ e, (h.ring.perform c).1 = .error e) ∧
        ∀ text e, c.action.text? = some text → PublicKey.parse text = .error e →
          h.ring.perform c = (.error (.invalidFormat e), h.ring) := by
  intro h mine
  have hopened : Account (opened.accepted owner) (opened.ring.get? owner) := Account.nothing
  have ha : Account mine (h.ring.get? owner) := run_account hopened calls
  refine ⟨⟨mine.length, ha.turns⟩, ha.absent_iff, ha.new_iff, ha.settled_iff, fun r hr => ?_,
    fun c => ⟨fun e => KeyRing.perform_failed, KeyRing.perform_other, KeyRing.perform_pending,
      fun text e => KeyRing.perform_unreadable⟩⟩
  obtain ⟨c, hlast, hstatus, htime⟩ := ha.last_some hr
  refine ⟨?_, ⟨c, hlast, htime⟩, ha.upload r hr⟩
  rw [hstatus]
  exact c.action.outcome_ne_absent

def failedKey : List KeyCall :=
  let binding : KeyBinding := ⟨"desk-key", .null⟩
  [⟨"alice", .register "ssh-rsa AAAAB3NzaC1yc2E= alice@desk" binding, ⟨1, 0⟩⟩,
    ⟨"alice", .replace "ssh-rsa AAAAB3NzaC1yc2EB" binding, ⟨2, 0⟩⟩,
    ⟨"bob", .confirm true, ⟨3, 0⟩⟩,
    ⟨"alice", .confirm false, ⟨4, 0⟩⟩,
    ⟨"alice", .replace "ssh-rsa AAAAB3NzaC1yc2EB" binding, ⟨5, 0⟩⟩]

theorem alice_replaces_a_failed_key :
    ((opened.run failedKey).accepted "alice").map (·.action.move) = [.register, .confirm, .replace] ∧
      (opened.run failedKey).accepted "bob" = [] ∧
      (opened.run failedKey).ring.status "alice" = .new ∧
      ((opened.run failedKey).ring.get? "alice").map KeyRecord.uploadedAt = some ⟨5, 0⟩ := by
  have hmoves : ((opened.run failedKey).accepted "alice").map (·.action.move) =
      [.register, .confirm, .replace] := by decide +kernel
  have hlast : ((opened.run failedKey).accepted "alice").getLast?.map (·.action.move) =
      some .replace := by
    rw [← List.getLast?_map, hmoves]
    rfl
  have hbob : ((opened.run failedKey).accepted "bob").map (·.action.move) = [] := by decide +kernel
  obtain ⟨-, -, hnew, -⟩ := keys_take_turns failedKey "alice"
  obtain ⟨c, hc, hmove⟩ := Option.map_eq_some_iff.mp hlast
  refine ⟨hmoves, List.map_eq_nil_iff.mp hbob, hnew.mpr ⟨c, hc, ?_⟩, by decide +kernel⟩
  rw [hmove]
  decide

end KeyHistory

end CloudDesk
