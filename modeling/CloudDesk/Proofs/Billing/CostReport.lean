import CloudDesk.Billing.CostReport
import CloudDesk.Proofs.Json.Fields

namespace CloudDesk.CostReport

open Text

def IsNumber (j : Json) (x : Float) : Prop := j = .float x ∨ ∃ n, j = .int n ∧ x = Float.ofInt n

/-- The instant that a text in the time column stands for: midnight of the day, or the instant
itself. -/
def IsTime (cloud : Cloud) (s : String) (t : Instant) : Prop :=
  match cloud with
  | .aws => ∃ day, Date.read? s = some day ∧ t = ⟨day.toDays * 86400, 0⟩
  | .azure => Instant.read? s = some t

def Columns.names (c : Columns) : List String := [c.kind, c.amount, c.currency, c.time]

def RowOf (cloud : Cloud) (row : Json) (r : CostRecord) : Prop :=
  let c := columns cloud
  ∃ value : String → Json, row.Holds c.names value ∧ value c.kind = .string r.kind ∧
    IsNumber (value c.amount) r.amount ∧ value c.currency = .string r.currency ∧
    ∃ s, value c.time = .string s ∧ IsTime cloud s r.timestamp

theorem decode_string_iff {j : Json} {s : String} : Wire.decode j = .ok s ↔ j = .string s := by
  cases j <;> simp [Wire.decode, Json.refuse]

theorem decode_float_iff {j : Json} {x : Float} : Wire.decode j = .ok x ↔ IsNumber j x := by
  cases j <;> simp [Wire.decode, Json.refuse, IsNumber, eq_comm]

theorem readTime_iff {cloud : Cloud} {s : String} {t : Instant} :
    (columns cloud).readTime s = some t ↔ IsTime cloud s t := by
  cases cloud with
  | aws =>
    simp only [columns, readDay, IsTime, Option.map_eq_some_iff]
    exact exists_congr fun day => and_congr_right fun _ => eq_comm
  | azure => rfl

theorem decodeTime_iff {cloud : Cloud} {j : Json} {t : Instant} :
    (columns cloud).decodeTime j = .ok t ↔ ∃ s, j = .string s ∧ IsTime cloud s t := by
  rw [Columns.decodeTime, bind_eq_ok_iff]
  refine exists_congr fun s => and_congr decode_string_iff ?_
  rw [← readTime_iff]
  cases (columns cloud).readTime s <;> simp

def Columns.wanted (c : Columns) : List Json.Field :=
  [Json.field String c.kind, Json.field Float c.amount, Json.field String c.currency,
    ⟨c.time, fun t => (c.decodeTime t).map fun _ => ()⟩]

theorem wanted_nodup (cloud : Cloud) : ((columns cloud).wanted.map Json.Field.name).Nodup := by
  cases cloud <;> decide

theorem decodeRow_eq_ok_iff {c : Columns} {row : Json} {r : CostRecord} :
    c.decodeRow row = .ok r ↔ ∃ fs, row.fields c.wanted = .ok fs ∧
      c.decodeTime ((fs.lookup c.time).getD .null) = .ok r.timestamp ∧ Json.need fs c.kind = .ok r.kind ∧
      Json.need fs c.amount = .ok r.amount ∧ Json.need fs c.currency = .ok r.currency := by
  simp only [Columns.decodeRow, bind_eq_ok_iff]
  refine exists_congr fun fs => and_congr_right fun _ => ⟨?_, ?_⟩
  · rintro ⟨time, htime, kind, hkind, amount, hamount, currency, hcurrency, h⟩
    cases h
    exact ⟨htime, hkind, hamount, hcurrency⟩
  · rintro ⟨htime, hkind, hamount, hcurrency⟩
    exact ⟨_, htime, _, hkind, _, hamount, _, hcurrency, rfl⟩

theorem lookup_of_decodeTime {cloud : Cloud} {found : Option Json} {t : Instant}
    (h : (columns cloud).decodeTime (found.getD .null) = .ok t) : found = some (found.getD .null) := by
  cases found with
  | none =>
    obtain ⟨s, hs, -⟩ := decodeTime_iff.mp h
    cases hs
  | some value => rfl

theorem decodeRow_iff {cloud : Cloud} {row : Json} {r : CostRecord} :
    (columns cloud).decodeRow row = .ok r ↔ RowOf cloud row r := by
  rw [decodeRow_eq_ok_iff]
  constructor
  · rintro ⟨fs, hfs, htime, hkind, hamount, hcurrency⟩
    obtain ⟨kind, hkind, hk⟩ := Json.need_eq_ok_iff.mp hkind
    obtain ⟨amount, hamount, ha⟩ := Json.need_eq_ok_iff.mp hamount
    obtain ⟨currency, hcurrency, hc⟩ := Json.need_eq_ok_iff.mp hcurrency
    have hreads : Json.Reads (columns cloud).wanted (fun name => (fs.lookup name).getD .null) fs := by
      simp only [Json.Reads, Columns.wanted, Json.field, List.forall_mem_cons, hkind, hamount, hcurrency,
        Option.getD_some, true_and]
      exact ⟨lookup_of_decodeTime htime, by simp⟩
    refine ⟨_, ((Json.fields_read_iff (wanted_nodup cloud)).mp ⟨fs, hfs, hreads⟩).1, ?_⟩
    simp only [hkind, hamount, hcurrency, Option.getD_some]
    exact ⟨decode_string_iff.mp hk, decode_float_iff.mp ha, decode_string_iff.mp hc, decodeTime_iff.mp htime⟩
  · rintro ⟨value, hholds, hkind, hamount, hcurrency, htime⟩
    have hkind := decode_string_iff.mpr hkind
    have hamount := decode_float_iff.mpr hamount
    have hcurrency := decode_string_iff.mpr hcurrency
    have htime := decodeTime_iff.mpr htime
    have hchecks : Json.Checks (columns cloud).wanted value := by
      simp only [Json.Checks, Columns.wanted, List.forall_mem_cons]
      refine ⟨Json.field_passes _ hkind, Json.field_passes _ hamount, Json.field_passes _ hcurrency, ?_, by simp⟩
      rw [htime]
      rfl
    obtain ⟨fs, hfs, hreads⟩ := (Json.fields_read_iff (wanted_nodup cloud)).mpr ⟨hholds, hchecks⟩
    simp only [Json.Reads, Columns.wanted, List.forall_mem_cons] at hreads
    obtain ⟨hk, ha, hc, ht, -⟩ := hreads
    refine ⟨fs, hfs, ?_, Json.need_eq_ok_iff.mpr ⟨_, hk, hkind⟩, Json.need_eq_ok_iff.mpr ⟨_, ha, hamount⟩,
      Json.need_eq_ok_iff.mpr ⟨_, hc, hcurrency⟩⟩
    rw [ht]
    exact htime

def RowsOf (cloud : Cloud) (body : List UInt8) (records : List CostRecord) : Prop :=
  ∃ rows, Json.readBytes body = .array rows ∧ List.Forall₂ (RowOf cloud) rows records

theorem decodeRows_iff {cloud : Cloud} {body : List UInt8} {records : List CostRecord} :
    (columns cloud).decodeRows (Json.readBytes body) = .ok records ↔ RowsOf cloud body records := by
  unfold RowsOf
  cases Json.readBytes body with
  | array rows => simp [Columns.decodeRows, mapM_eq_ok_iff, decodeRow_iff]
  | _ => simp [Columns.decodeRows, Json.refuse]

theorem RowsOf.unique {cloud : Cloud} {body : List UInt8} {records records' : List CostRecord}
    (h : RowsOf cloud body records) (h' : RowsOf cloud body records') : records = records' := by
  have hok := decodeRows_iff.mpr h
  rw [decodeRows_iff.mpr h'] at hok
  exact (Except.ok.inj hok).symm

def AmountsOk (records : List CostRecord) : Prop :=
  ∀ r ∈ records, r.amount.isFinite = true ∧ 0.0 ≤ r.amount

theorem isAmount_iff {x : Float} : isAmount x = true ↔ x.isFinite = true ∧ 0.0 ≤ x := by
  simp [isAmount]

def refusal (r : CostRecord) : FetchError :=
  .malformed s!"cost amount must be a non-negative number, got {Decimal.plain r.amount}"

theorem checkAmounts_ok_iff {records : List CostRecord} :
    checkAmounts records = .ok () ↔ AmountsOk records := by
  induction records with
  | nil => simp [checkAmounts, AmountsOk]
  | cons r rest ih =>
    unfold AmountsOk at ih ⊢
    rw [checkAmounts, List.forall_mem_cons, ← isAmount_iff]
    split_ifs with h <;> simp [h, ih]

theorem checkAmounts_append {before : List CostRecord} (h : AmountsOk before) (rest : List CostRecord) :
    checkAmounts (before ++ rest) = checkAmounts rest := by
  induction before with
  | nil => rfl
  | cons r before ih =>
    obtain ⟨hr, hbefore⟩ := List.forall_mem_cons.mp h
    rw [List.cons_append, checkAmounts, if_pos (isAmount_iff.mpr hr)]
    exact ih hbefore

theorem checkAmounts_first {before after : List CostRecord} {r : CostRecord} (h : AmountsOk before)
    (hr : isAmount r.amount = false) : checkAmounts (before ++ r :: after) = .error (refusal r) := by
  rw [checkAmounts_append h, checkAmounts, if_neg (by simp [hr])]
  rfl

theorem checkAmounts_error {records : List CostRecord} {e : FetchError}
    (h : checkAmounts records = .error e) : ∃ cause, e = .malformed cause := by
  induction records with
  | nil => cases h
  | cons r rest ih =>
    rw [checkAmounts] at h
    split_ifs at h
    · exact ih h
    · cases h
      exact ⟨_, rfl⟩

theorem rowsOf_undecodable {cloud : Cloud} {body : List UInt8} (h : ∀ records, ¬ RowsOf cloud body records) :
    rowsOf cloud body = .error undecodable := by
  rw [rowsOf]
  cases hrows : (columns cloud).decodeRows (Json.readBytes body) with
  | error e => rfl
  | ok records => exact absurd (decodeRows_iff.mp hrows) (h records)

theorem rowsOf_of_rows {cloud : Cloud} {body : List UInt8} {records : List CostRecord}
    (h : RowsOf cloud body records) : rowsOf cloud body = (checkAmounts records).map fun _ => records := by
  rw [rowsOf, decodeRows_iff.mpr h]
  change (checkAmounts records >>= fun _ => .ok records) = _
  cases checkAmounts records <;> rfl

theorem rowsOf_ok_iff {cloud : Cloud} {body : List UInt8} {records : List CostRecord} :
    rowsOf cloud body = .ok records ↔ RowsOf cloud body records ∧ AmountsOk records := by
  by_cases hrows : ∃ found, RowsOf cloud body found
  · obtain ⟨found, hfound⟩ := hrows
    rw [rowsOf_of_rows hfound]
    constructor
    · intro h
      obtain ⟨_, hcheck, rfl⟩ := map_eq_ok h
      exact ⟨hfound, checkAmounts_ok_iff.mp hcheck⟩
    · rintro ⟨h, hamounts⟩
      obtain rfl := hfound.unique h
      rw [checkAmounts_ok_iff.mpr hamounts]
      rfl
  · rw [not_exists] at hrows
    simp [rowsOf_undecodable hrows, hrows]

/-- A whole number is an amount too, and a row may be an array. -/
example : rowsOf .aws (utf8 "[[\"disk\",3,\"USD\",\"1970-01-02\"]]") = .ok [⟨"disk", 3.0, "USD", ⟨86400, 0⟩⟩] := by
  decide +kernel

theorem rowsOf_error {cloud : Cloud} {body : List UInt8} {e : FetchError}
    (h : rowsOf cloud body = .error e) : ∃ cause, e = .malformed cause := by
  by_cases hrows : ∃ records, RowsOf cloud body records
  · obtain ⟨records, hrecords⟩ := hrows
    rw [rowsOf_of_rows hrecords, map_eq_error_iff] at h
    exact checkAmounts_error h
  · rw [rowsOf_undecodable (not_exists.mp hrows)] at h
    cases h
    exact ⟨_, rfl⟩

def Passing (status : Nat) : Prop := (500 ≤ status ∧ status < 600) ∨ status = 429

def Success (status : Nat) : Prop := 200 ≤ status ∧ status < 300

def Delivers (cloud : Cloud) (r : Response) (records : List CostRecord) : Prop :=
  Success r.status ∧ RowsOf cloud r.body records ∧ AmountsOk records

/-- What a result says about the answer it was made from. -/
structure Classified (cloud : Cloud) (answer : Option Response)
    (result : Except FetchError (List CostRecord)) : Prop where
  ok : ∀ records, result = .ok records ↔ ∃ r, answer = some r ∧ Delivers cloud r records
  transient : (∃ cause, result = .error (.transient cause)) ↔ ∀ r, answer = some r → Passing r.status
  rejected : ∀ status text, result = .error (.rejected status text) ↔
    ∃ r, answer = some r ∧ ¬ Success r.status ∧ ¬ Passing r.status ∧
      status = r.status ∧ text = r.text
  malformed : (∃ cause, result = .error (.malformed cause)) ↔
    ∃ r, answer = some r ∧ Success r.status ∧ ∀ records, ¬ Delivers cloud r records
  undecodable : ∀ r, answer = some r → Success r.status → (∀ records, ¬ RowsOf cloud r.body records) →
    result = .error undecodable
  invalid : ∀ r before x after, answer = some r → Success r.status →
    RowsOf cloud r.body (before ++ x :: after) → AmountsOk before → isAmount x.amount = false →
    result = .error (refusal x)
  isTransient : ∀ e, result = .error e → (e.isTransient = true ↔ ∀ r, answer = some r → Passing r.status)

theorem isPassing_iff {status : Nat} : isPassing status = true ↔ Passing status := by
  simp [isPassing, Passing]

theorem isSuccess_iff {status : Nat} : isSuccess status = true ↔ Success status := by
  simp [isSuccess, Success]

theorem Passing.not_success {status : Nat} (h : Passing status) : ¬ Success status := by
  unfold Passing at h
  unfold Success
  omega

theorem none_classified (cloud : Cloud) : Classified cloud none (accept cloud none) where
  ok := by simp [accept]
  transient := by simp [accept, unreachable]
  rejected := by simp [accept, unreachable]
  malformed := by simp [accept, unreachable]
  undecodable := by simp
  invalid := by simp
  isTransient := by simp [accept, unreachable, FetchError.isTransient]

theorem passing_classified {cloud : Cloud} {r : Response} (h : Passing r.status) :
    Classified cloud (some r) (accept cloud (some r)) := by
  have hresult : ∃ cause, accept cloud (some r) = .error (.transient cause) := by
    rw [accept, if_pos (isPassing_iff.mpr h)]
    exact ⟨_, rfl⟩
  obtain ⟨cause, hresult⟩ := hresult
  rw [hresult]
  constructor
  case invalid =>
    rintro _ before x after ⟨⟩ hsuccess
    exact absurd hsuccess h.not_success
  all_goals simp [Delivers, h, h.not_success, FetchError.isTransient]

theorem refused_classified {cloud : Cloud} {r : Response} (h : ¬ Passing r.status) (h' : ¬ Success r.status) :
    Classified cloud (some r) (accept cloud (some r)) := by
  have hresult : accept cloud (some r) = .error (.rejected r.status r.text) := by
    rw [accept, if_neg (by simp [isPassing_iff, h]), if_neg (by simp [isSuccess_iff, h'])]
  rw [hresult]
  constructor
  case invalid =>
    rintro _ before x after ⟨⟩ hsuccess
    exact absurd hsuccess h'
  case rejected =>
    simp only [Except.error.injEq, FetchError.rejected.injEq, Option.some.injEq, exists_eq_left', h, h',
      not_false_eq_true, true_and]
    exact fun status text => and_congr eq_comm eq_comm
  all_goals simp [Delivers, h, h', FetchError.isTransient]

theorem rowsOf_classified {cloud : Cloud} {r : Response} (h : Success r.status) :
    Classified cloud (some r) (rowsOf cloud r.body) := by
  have hpassing : ¬ Passing r.status := fun hp => hp.not_success h
  have hdelivers : ∀ records, rowsOf cloud r.body = .ok records ↔ Delivers cloud r records := fun records => by
    rw [rowsOf_ok_iff, Delivers, and_iff_right h]
  have herror : ∀ e, rowsOf cloud r.body = .error e → ∃ cause, e = .malformed cause := fun e => rowsOf_error
  constructor
  case ok => simp [hdelivers]
  case transient =>
    simp only [Option.some.injEq, forall_eq', hpassing, iff_false]
    rintro ⟨cause, h⟩
    obtain ⟨_, hcause⟩ := herror _ h
    cases hcause
  case rejected =>
    intro status text
    simp only [Option.some.injEq, exists_eq_left', h, not_true_eq_false, false_and, iff_false]
    intro h
    obtain ⟨_, hcause⟩ := herror _ h
    cases hcause
  case malformed =>
    simp only [Option.some.injEq, exists_eq_left', h, true_and, ← hdelivers]
    cases hrows : rowsOf cloud r.body with
    | error e =>
      obtain ⟨cause, rfl⟩ := herror e hrows
      simp
    | ok records => simp
  case undecodable =>
    rintro _ ⟨⟩ - hrows
    exact rowsOf_undecodable hrows
  case invalid =>
    rintro _ before x after ⟨⟩ - hrows hbefore hx
    rw [rowsOf_of_rows hrows, checkAmounts_first hbefore hx]
    rfl
  case isTransient =>
    intro e he
    obtain ⟨cause, rfl⟩ := herror e he
    simp [FetchError.isTransient, hpassing]

theorem accept_classified (cloud : Cloud) : ∀ answer, Classified cloud answer (accept cloud answer)
  | none => none_classified cloud
  | some r => by
    by_cases hpassing : Passing r.status
    · exact passing_classified hpassing
    · by_cases hsuccess : Success r.status
      · rw [accept, if_neg (by simp [isPassing_iff, hpassing]), if_pos (isSuccess_iff.mpr hsuccess)]
        exact rowsOf_classified hsuccess
      · exact refused_classified hpassing hsuccess

theorem requestUrl_cases (endpoint : Url) (cloud : Cloud) (owner : String) :
    (∃ u, requestUrl endpoint cloud owner = .ok u) ∨
      (∃ text, endpoint.path = .rootless text) ∧ requestUrl endpoint cloud owner = .error .rootless := by
  cases hpath : endpoint.path with
  | rooted segments =>
    refine Or.inl ?_
    simp [requestUrl, Url.folder, hpath, Url.join, Except.map]
  | rootless text =>
    refine Or.inr ⟨⟨text, rfl⟩, ?_⟩
    simp only [requestUrl, Url.folder, hpath, Url.join, Except.map]

/-- Whatever the network answers, the result of asking for costs is what the answer deserves. Only
an endpoint that no path can be resolved against is never asked. -/
theorem fetch_classified (network : Network) (endpoint : Url) (cloud : Cloud) (owner : String) :
    match requestUrl endpoint cloud owner with
    | .ok u =>
      Classified cloud (if isReachable u then network u else none) (fetch network endpoint cloud owner)
    | .error e =>
      (∃ text, endpoint.path = .rootless text) ∧ fetch network endpoint cloud owner =
        .error (.malformed s!"invalid billing endpoint: {e.message}") := by
  rw [fetch]
  obtain ⟨u, hu⟩ | ⟨hpath, herror⟩ := requestUrl_cases endpoint cloud owner
  · rw [hu]
    exact accept_classified cloud _
  · rw [herror]
    exact ⟨hpath, rfl⟩

end CloudDesk.CostReport
