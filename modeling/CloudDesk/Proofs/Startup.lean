import CloudDesk.Proofs.Budget.History
import CloudDesk.Proofs.Desk.Notebook
import CloudDesk.Proofs.Desk.Service
import CloudDesk.Proofs.Taxonomy.Table
import CloudDesk.Proofs.Text
import CloudDesk.Startup
import Mathlib

namespace CloudDesk

open Text

namespace Text

theorem not_isBlank_of_isAlpha {c : Char} (h : c.isAlpha = true) : isBlank c = false := by
  have hrange : (65 ≤ c.toNat ∧ c.toNat ≤ 90) ∨ (97 ≤ c.toNat ∧ c.toNat ≤ 122) := by
    simpa [Char.isAlpha, Char.isUpper, Char.isLower, UInt32.le_iff_toNat_le] using h
  simp [isBlank]
  omega

theorem isBlank_toUpper (c : Char) : isBlank c.toUpper = isBlank c := by
  by_cases h : c.isAlpha = true
  · rw [not_isBlank_of_isAlpha h, not_isBlank_of_isAlpha (by rwa [Char.isAlpha_toUpper_eq_isAlpha])]
  · have hlower : ¬ c.isLower = true := by
      intro hl
      apply h
      rw [Char.isAlpha, hl, Bool.or_true]
    rw [Char.toUpper_eq_of_not_isLower hlower]

theorem toList_upper (s : String) : (upper s).toList = s.toList.map Char.toUpper :=
  String.toList_ofList

theorem Filled.upper {s : String} (h : Filled s) : Filled (upper s) := by
  have hblank : ∀ o : Option Char, (∀ c ∈ o, isBlank c = false) →
      ∀ c ∈ o.map Char.toUpper, isBlank c = false := by
    intro o ho c hc
    obtain ⟨b, hb, rfl⟩ := Option.map_eq_some_iff.mp hc
    rw [isBlank_toUpper]
    exact ho b hb
  constructor
  · intro hempty
    have hnil := congrArg String.toList hempty
    rw [toList_upper] at hnil
    exact h.toList_ne_nil (List.map_eq_nil_iff.mp hnil)
  · apply trim_eq_self
    · rw [toList_upper, List.head?_map]
      exact hblank _ h.head?
    · rw [toList_upper, List.getLast?_map]
      exact hblank _ h.getLast?

theorem not_isLower_of_mem_upper {s : String} {c : Char} (h : c ∈ (upper s).toList) :
    c.isLower = false := by
  rw [toList_upper] at h
  obtain ⟨c, -, rfl⟩ := List.mem_map.mp h
  exact Char.isLower_toUpper_eq_false c

end Text

namespace Environment

variable {env : Environment} {name : String}

theorem trimmed?_filled {s : String} (h : env.trimmed? name = some s) : Filled s := by
  obtain ⟨htext, hne⟩ := Option.filter_eq_some_iff.mp h
  obtain ⟨text, -, rfl⟩ := Option.map_eq_some_iff.mp htext
  exact ⟨by simpa using hne, trim_trim text⟩

theorem getD_filled {default : String} (h : Filled default) :
    Filled ((env.trimmed? name).getD default) := by
  cases hs : env.trimmed? name with
  | none => exact h
  | some s => exact trimmed?_filled hs

theorem getD_pos {default : Nat} (h : 0 < default) : 0 < (env.seconds? name).getD default := by
  cases hn : env.seconds? name with
  | none => exact h
  | some n => exact of_decide_eq_true (Option.filter_eq_some_iff.mp hn).2

theorem amount?_isAmount {x : Float} (h : env.amount? name = some x) : isAmount x = true :=
  (Option.filter_eq_some_iff.mp h).2

end Environment

structure Settings.Complete (s : Settings) : Prop where
  baseName : Filled s.baseName
  awsRegion : Filled s.awsRegion
  azureRegion : Filled s.azureRegion
  azureResourceGroup : Filled s.azureResourceGroup
  currency : Filled s.currency
  capitals : ∀ c ∈ s.currency.toList, c.isLower = false

/-- What the parts of the service take for granted of a configuration. -/
structure Config.Usable (c : Config) : Prop where
  syncInterval : 0 < c.syncInterval
  fetchTimeout : 0 < c.fetchTimeout
  platformCeiling : ∀ x ∈ c.platformCeiling, checkAmount .ceiling x = .ok ()
  defaultCeiling : ∀ x ∈ c.defaultCeiling, checkAmount .ceiling x = .ok ()
  settings : ∀ s, c.settings = .ok s → s.Complete

namespace Config

theorem currency_eq (env : Environment) :
    (ofEnvironment env).currency = upper ((env.trimmed? "BILLING_CURRENCY").getD "usd") := by
  have hdefault : upper "usd" = "USD" := by decide
  have hcurrency : (ofEnvironment env).currency =
      ((env.trimmed? "BILLING_CURRENCY").map upper).getD "USD" := rfl
  rw [hcurrency, ← hdefault, Option.getD_map]

theorem settings_complete {env : Environment} {s : Settings}
    (h : (ofEnvironment env).settings = .ok s) : s.Complete := by
  obtain ⟨endpoint, -, rfl⟩ := map_eq_ok h
  have hbase : Filled (ofEnvironment env).baseName := Environment.getD_filled (by decide)
  have hending : Filled "-resource-group" := by decide
  have hcurrency : Filled ((env.trimmed? "BILLING_CURRENCY").getD "usd") :=
    Environment.getD_filled (by decide)
  constructor
  · exact hbase
  · exact Environment.getD_filled (by decide)
  · exact Environment.getD_filled (by decide)
  · exact Environment.getD_filled (hbase.append hending)
  · simp only [currency_eq]
    exact hcurrency.upper
  · simp only [currency_eq]
    exact fun c => not_isLower_of_mem_upper

theorem ofEnvironment_usable (env : Environment) : (ofEnvironment env).Usable where
  syncInterval := Environment.getD_pos (by decide)
  fetchTimeout := Environment.getD_pos (by decide)
  platformCeiling x hx := if_pos (Environment.amount?_isAmount hx)
  defaultCeiling x hx := if_pos (Environment.amount?_isAmount hx)
  settings _ := settings_complete

end Config

theorem checkCeiling_of_amount {owner : String} {ceiling : Float} (ho : isAllBlank owner = false)
    (h : checkAmount .ceiling ceiling = .ok ()) : Policies.checkCeiling owner ceiling = .ok () := by
  have howner : checkOwner owner = .ok () := by simp [checkOwner, ho]
  rw [Policies.checkCeiling, howner, h]
  rfl

theorem Store.ensureOwner_invalid {store : Store} {owner : String} {ceiling : Float} {e : BudgetError}
    (h : (BudgetStore.ensureOwner store owner ceiling).1 = .error (.invalid e)) :
    Policies.checkCeiling owner ceiling = .error e := by
  cases store with
  | memory t =>
    have hmemory : (t.ensureOwner owner ceiling).1 = .error e :=
      (Policies.refused_invalid_iff id).mp h
    exact (Policies.ensureOwner_error_iff.mp hmemory).1
  | database d =>
    exact (d.call_invalid_iff _ (Database.ensureOwner owner ceiling)).mp h

namespace Desk

/-- An owner who is not blank is not refused, and is welcome where policies are kept in memory. -/
structure Welcomes (d : Desk) (owner : String) : Prop where
  valid : ∀ e, (d.onboard owner).1 ≠ .error (.invalid e)
  memory : ∀ t, d.books.store = .memory t → (d.onboard owner).1 = .ok ()

theorem onboard_valid {d : Desk} (h : ∀ x ∈ d.defaultCeiling, checkAmount .ceiling x = .ok ())
    {owner : String} (ho : isAllBlank owner = false) (e : BudgetError) :
    (d.onboard owner).1 ≠ .error (.invalid e) := by
  intro herror
  unfold onboard at herror
  cases hc : d.defaultCeiling with
  | none =>
    rw [hc] at herror
    cases herror
  | some ceiling =>
    rw [hc] at herror
    have hstore := Store.ensureOwner_invalid (map_eq_error_iff.mp herror)
    rw [checkCeiling_of_amount ho (h ceiling hc)] at hstore
    cases hstore

theorem welcomes {d : Desk} (h : ∀ x ∈ d.defaultCeiling, checkAmount .ceiling x = .ok ())
    {owner : String} (ho : isAllBlank owner = false) : d.Welcomes owner where
  valid := onboard_valid h ho
  memory t ht := by
    obtain ⟨hok, -⟩ | ⟨cause, herror, -⟩ := onboard_decided ht owner
    · exact hok
    · exact absurd herror (onboard_valid h ho cause)

end Desk

theorem Service.step_default (s : Service) (e : Event) :
    (s.step e).desk.defaultCeiling = s.desk.defaultCeiling := by
  cases hr : e.request? with
  | none =>
    obtain ⟨schedule, hdesk⟩ := s.step_desk hr
    rw [hdesk]
  | some r =>
    cases e with
    | request stamp r =>
      simp only [step, Desk.handle_desk]
      cases Call.ofRequest r with
      | error rejection => rfl
      | ok call => exact Desk.perform_default stamp s.desk call
    | _ => cases hr

theorem Service.run_default (s : Service) (events : List Event) :
    (s.run events).desk.defaultCeiling = s.desk.defaultCeiling := by
  induction events generalizing s with
  | nil => rfl
  | cons e rest ih => exact (ih (s.step e)).trans (s.step_default e)

namespace Startup

theorem applyCeiling_memory {c : Config} (h : c.Usable) (t : Policies) :
    ∃ r, applyCeiling c (.memory t) = .ok r := by
  unfold applyCeiling
  cases hc : c.platformCeiling with
  | none => exact ⟨_, rfl⟩
  | some ceiling =>
    have hblank : isAllBlank platformOwner = false := by decide
    have hcheck := checkCeiling_of_amount hblank (h.platformCeiling ceiling hc)
    have hset : ∃ p, (t.setCeiling platformOwner ceiling).1 = .ok p := by
      rw [Policies.setCeiling, hcheck]
      exact ⟨_, rfl⟩
    obtain ⟨p, hp⟩ := hset
    have hstore : BudgetStore.setCeiling (Store.memory t) platformOwner ceiling =
        ((t.setCeiling platformOwner ceiling).1.mapError .invalid,
          .memory (t.setCeiling platformOwner ceiling).2) := rfl
    rw [hp] at hstore
    simp only [hstore]
    exact ⟨_, rfl⟩

theorem run_eq_openDesk (connect : Connect) (c : Config) : run connect c = openDesk connect c := by
  rw [run, Taxonomy.table_consistent]

theorem run_desk {connect : Connect} {c : Config} {desk : Desk} (h : (run connect c).2 = .ok desk) :
    ∃ bundle store, desk = deskOf c bundle store := by
  rw [run_eq_openDesk, openDesk] at h
  split at h
  · cases h
  · split at h
    · cases h
    · split at h
      · cases h
      · split_ifs at h
        exact ⟨_, _, (Except.ok.inj h).symm⟩

/-- No environment leads to a configuration that the service cannot use. Where policies are kept in
memory the ceiling of the platform is set at the start, and whenever the service starts, its ticker
has an interval and every owner who is not blank is onboarded from then on. -/
theorem every_environment_is_usable (env : Environment) (connect : Connect) :
    let c := Config.ofEnvironment env
    c.Usable ∧ (∀ t : Policies, ∃ r, applyCeiling c (.memory t) = .ok r) ∧
      ∀ desk, (run connect c).2 = .ok desk →
        (∀ s ∈ desk.schedule, 0 < s.ticker.interval) ∧
          ∀ (events : List Service.Event) (owner : String), isAllBlank owner = false →
            (Service.run ⟨desk, none⟩ events).desk.Welcomes owner := by
  intro c
  have husable : c.Usable := Config.ofEnvironment_usable env
  refine ⟨husable, applyCeiling_memory husable, fun desk hdesk => ?_⟩
  obtain ⟨bundle, store, rfl⟩ := run_desk hdesk
  constructor
  · intro s hs
    cases hs
    exact Nat.mul_pos husable.syncInterval (by decide)
  · intro events owner ho
    apply Desk.welcomes _ ho
    rw [Service.run_default]
    exact husable.defaultCeiling

/-- An interval of zero, a timeout that is no text, a ceiling beyond all numbers and one below zero
by its sign alone. -/
def oddEnvironment : Environment := ⟨[
  ("SERVICE_BASE_NAME", utf8 "\u00a0lab\n"), ("BILLING_SYNC_INTERVAL_SECS", utf8 "0"),
  ("BILLING_FETCH_TIMEOUT_SECS", [0xFF]), ("BILLING_CURRENCY", utf8 "\teur "),
  ("PLATFORM_BUDGET_CEILING", utf8 "1e999"), ("DEFAULT_OWNER_BUDGET_CEILING", utf8 " -0")]⟩

theorem odd_environment_serves_alice :
    ∃ desk, (run noDatabase (Config.ofEnvironment oddEnvironment)).2 = .ok desk ∧
      desk.settings.Complete ∧ desk.settings.baseName = "lab" ∧ desk.settings.currency = "EUR" ∧
      desk.defaultCeiling = some (-0.0) ∧
      ((Service.run ⟨desk, none⟩ [.elapse 600000]).desk.onboard "alice").1 = .ok () := by
  obtain ⟨husable, -, hrun⟩ := every_environment_is_usable oddEnvironment noDatabase
  refine ⟨_, rfl, husable.settings _ rfl, by decide +kernel, by decide +kernel, by decide +kernel, ?_⟩
  exact ((hrun _ rfl).2 [.elapse 600000] "alice" (by decide)).memory Table.empty rfl

end Startup

end CloudDesk
