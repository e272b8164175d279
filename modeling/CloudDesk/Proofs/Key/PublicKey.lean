import CloudDesk.Proofs.Key.EmbeddedName
import Mathlib.Data.List.Basic

namespace CloudDesk.PublicKey

open Text

theorem isBlank_of_isDigit {c : Char} (h : Base64.isDigit c = true) : isBlank c = false := by
  have hdigits : ∀ v < 64, isBlank (Base64.digit v) = false := by decide +kernel
  obtain ⟨v, hv⟩ := Option.isSome_iff_exists.mp h
  obtain ⟨hsmall, rfl⟩ := Base64.value?_eq_some hv
  exact hdigits v hsmall

theorem encode_not_blank {blob : List UInt8} : ∀ c ∈ Base64.encode blob, isBlank c = false := by
  intro c hc
  obtain hdigit | hpad := List.mem_append.mp hc
  · exact isBlank_of_isDigit (Base64.encodeUnpadded_isDigit blob c hdigit)
  · rw [List.eq_of_mem_replicate hpad]
    rfl

def Tail (cs : List Char) : Prop :=
  cs = [] ∨ ∃ blanks first rest, cs = blanks ++ first :: rest ∧ blanks ≠ [] ∧
    (∀ c ∈ blanks, isBlank c = true) ∧ isBlank first = false ∧ '\n' ∉ first :: rest

theorem isTail_iff {cs : List Char} : isTail cs = true ↔ Tail cs := by
  constructor
  · intro h
    cases cs with
    | nil => exact Or.inl rfl
    | cons c cs =>
      simp only [isTail, Bool.and_eq_true, Bool.not_eq_true', List.isEmpty_eq_false_iff] at h
      obtain ⟨⟨hc, hcomment⟩, hline⟩ := h
      obtain ⟨first, rest, hrest⟩ := List.exists_cons_of_ne_nil hcomment
      have hfirst : isBlank first = false :=
        head?_dropWhile (c :: cs) first (congrArg List.head? hrest)
      refine Or.inr ⟨(c :: cs).takeWhile isBlank, first, rest, ?_, ?_, ?_, hfirst, ?_⟩
      · rw [← hrest, trimStart, List.takeWhile_append_dropWhile]
      · rw [List.takeWhile_cons_of_pos hc]
        exact List.cons_ne_nil _ _
      · exact fun c hc => List.mem_takeWhile_imp hc
      · rw [← hrest]
        simpa using hline
  · rintro (rfl | ⟨blanks, first, rest, rfl, hne, hblanks, hfirst, hline⟩)
    · rfl
    · obtain ⟨c, blanks, rfl⟩ := List.exists_cons_of_ne_nil hne
      have hcomment : trimStart (c :: blanks ++ first :: rest) = first :: rest :=
        dropWhile_run hblanks (by simpa using hfirst)
      rw [List.cons_append] at hcomment ⊢
      simp only [isTail, hcomment, hblanks c (by simp)]
      simpa using hline

theorem isBlank_of_tail {cs : List Char} (h : Tail cs) : ∀ c ∈ cs.head?, isBlank c = true := by
  obtain rfl | ⟨blanks, first, rest, rfl, hne, hblanks, -⟩ := h
  · simp
  · obtain ⟨c, blanks, rfl⟩ := List.exists_cons_of_ne_nil hne
    simpa using hblanks c (by simp)

theorem afterWord?_eq_some_iff {word cs rest : List Char} :
    afterWord? word cs = some rest ↔ cs = word ++ ' ' :: rest := by
  constructor
  · intro h
    obtain ⟨hword, hrest⟩ := Option.ite_none_right_eq_some.mp h
    obtain ⟨after, rfl⟩ := List.isPrefixOf_iff_prefix.mp hword
    rw [List.drop_left] at hrest
    split at hrest
    · rw [Option.some.inj hrest]
    · cases hrest
  · rintro rfl
    simp [afterWord?]

theorem replicate_marks (cs : List Char) :
    List.replicate (cs.takeWhile (· == '=')).length '=' ++
      cs.drop (cs.takeWhile (· == '=')).length = cs := by
  have hmarks : List.replicate (cs.takeWhile (· == '=')).length '=' = cs.takeWhile (· == '=') := by
    symm
    apply List.eq_replicate_iff.mpr
    exact ⟨rfl, fun c hc => by simpa using List.mem_takeWhile_imp hc⟩
  rw [hmarks]
  exact List.prefix_iff_eq_append.mp (List.takeWhile_prefix _)

section

variable {rest : List Char} (htail : Tail rest)
include htail

theorem marks_end : ∀ c ∈ rest.head?, (c == '=') = false := by
  intro c hc
  have hblank := isBlank_of_tail htail c hc
  apply beq_false_of_ne
  rintro rfl
  exact absurd hblank (by decide)

theorem digits_end (pads : Nat) :
    ∀ c ∈ (List.replicate pads '=' ++ rest).head?, Base64.isDigit c = false := by
  intro c hc
  cases pads with
  | zero =>
    have hblank := isBlank_of_tail htail c hc
    apply Bool.eq_false_iff.mpr
    intro hdigit
    rw [isBlank_of_isDigit hdigit] at hblank
    cases hblank
  | succ n =>
    obtain rfl := Option.some.inj hc
    rfl

end

/-- What a body is read as is what it was put together from. -/
theorem readBody_eq_some_iff {algorithm : String} {cs : List Char} {line : Line} :
    readBody algorithm cs = some line ↔ line.algorithm = algorithm ∧
      line.digits ≠ [] ∧ (∀ c ∈ line.digits, Base64.isDigit c = true) ∧ line.pads ≤ 2 ∧
        ∃ rest, cs = line.body ++ rest ∧ Tail rest := by
  constructor
  · intro h
    obtain ⟨hshape, hline⟩ := Option.ite_none_right_eq_some.mp h
    obtain rfl := Option.some.inj hline
    simp only [Bool.and_eq_true, Bool.not_eq_true', List.isEmpty_eq_false_iff,
      decide_eq_true_eq] at hshape
    obtain ⟨⟨hne, hpads⟩, htail⟩ := hshape
    refine ⟨rfl, hne, fun c hc => List.mem_takeWhile_imp hc, hpads, _, ?_, isTail_iff.mp htail⟩
    rw [Line.body, List.append_assoc, replicate_marks, List.takeWhile_append_dropWhile]
  · rintro ⟨rfl, hne, hdigits, hpads, rest, rfl, htail⟩
    have hmarks : ∀ c ∈ List.replicate line.pads '=', (c == '=') = true := by simp
    have hdigit := digits_end htail line.pads
    have hempty : line.digits.isEmpty = false := List.isEmpty_eq_false_iff.mpr hne
    simp only [readBody, Line.body, List.append_assoc, takeWhile_run hdigits hdigit,
      dropWhile_run hdigits hdigit, takeWhile_run hmarks (marks_end htail), List.length_replicate,
      hempty, hpads]
    simp [isTail_iff.mpr htail]

theorem algorithm_inj {a b : String} (ha : a ∈ algorithms) (hb : b ∈ algorithms)
    {cs cs' : List Char} (h : a.toList ++ ' ' :: cs = b.toList ++ ' ' :: cs') : a = b ∧ cs = cs' := by
  have hblank : ∀ a ∈ algorithms, ' ' ∉ a.toList := by decide +kernel
  have hname : a.toList = b.toList := by
    rw [← takeWhile_mark (hblank a ha) cs, h, takeWhile_mark (hblank b hb) cs']
  rw [hname, List.append_cancel_left_eq] at h
  exact ⟨String.toList_inj.mp hname, List.tail_eq_of_cons_eq h⟩

theorem readAs_eq_some_iff {algorithm : String} {cs : List Char} {line : Line} :
    (afterWord? algorithm.toList cs).bind (readBody algorithm) = some line ↔
      line.algorithm = algorithm ∧
        ∃ body, cs = algorithm.toList ++ ' ' :: body ∧ readBody algorithm body = some line := by
  rw [Option.bind_eq_some_iff]
  constructor
  · rintro ⟨body, hword, hbody⟩
    exact ⟨(readBody_eq_some_iff.mp hbody).1, body, afterWord?_eq_some_iff.mp hword, hbody⟩
  · rintro ⟨-, body, hword, hbody⟩
    exact ⟨body, afterWord?_eq_some_iff.mpr hword, hbody⟩

theorem readLine?_eq_some_iff {cs : List Char} {line : Line} :
    readLine? cs = some line ↔ line.algorithm ∈ algorithms ∧
      ∃ body, cs = line.algorithm.toList ++ ' ' :: body ∧ readBody line.algorithm body = some line := by
  constructor
  · intro h
    obtain ⟨algorithm, hmem, hline⟩ := List.exists_of_findSome?_eq_some h
    obtain ⟨rfl, hbody⟩ := readAs_eq_some_iff.mp hline
    exact ⟨hmem, hbody⟩
  · rintro ⟨hmem, hbody⟩
    -- an algorithm is found, and it is this one, since the line begins with no other
    have hread := readAs_eq_some_iff.mpr ⟨rfl, hbody⟩
    have hsome : (readLine? cs).isSome = true :=
      List.findSome?_isSome_iff.mpr ⟨_, hmem, Option.isSome_iff_exists.mpr ⟨_, hread⟩⟩
    obtain ⟨line', hline'⟩ := Option.isSome_iff_exists.mp hsome
    obtain ⟨algorithm, hmem', hline⟩ := List.exists_of_findSome?_eq_some hline'
    obtain ⟨rfl, body', hcs', hbody'⟩ := readAs_eq_some_iff.mp hline
    obtain ⟨body, hcs, hbody⟩ := hbody
    obtain ⟨halgorithm, rfl⟩ := algorithm_inj hmem hmem' (hcs.symm.trans hcs')
    rw [halgorithm] at hbody
    rw [hline', ← hbody', hbody]

/-- A text that carries some bytes as a key of an algorithm. -/
structure Carries (text algorithm : String) (blob : List UInt8) : Prop where
  supported : algorithm ∈ algorithms
  named : lengthPrefixed (asciiBytes algorithm) <+: blob
  written : ∃ rest, (trim text).toList = algorithm.toList ++ ' ' :: (Base64.encode blob ++ rest) ∧
    Tail rest

theorem Carries.blob_ne_nil {text algorithm : String} {blob : List UInt8}
    (h : Carries text algorithm blob) : blob ≠ [] := by
  rintro rfl
  simpa [lengthPrefixed, Sha256.bigEndian] using h.named

def keyOf (algorithm : String) (blob : List UInt8) : PublicKey where
  algorithm
  normalized := algorithm ++ " " ++ String.ofList (Base64.encode blob)
  fingerprint := "SHA256:" ++ String.ofList (Base64.encodeUnpadded (Sha256.digest blob))

theorem embeds_iff {algorithm : String} (h : algorithm ∈ algorithms) {blob : List UInt8} :
    embeddedName blob = some (asciiBytes algorithm) ↔
      lengthPrefixed (asciiBytes algorithm) <+: blob := by
  have hshort : ∀ a ∈ algorithms, (asciiBytes a).length < UInt32.size := by decide +kernel
  rw [embeddedName_eq_some_iff, and_iff_right (hshort algorithm h)]

theorem ofBlob_eq_ok_iff {line : Line} {blob : List UInt8} {key : PublicKey} :
    ofBlob line blob = .ok key ↔ embeddedName blob = some (asciiBytes line.algorithm) ∧
      ⟨line.algorithm, line.algorithm ++ " " ++ String.ofList line.body, fingerprintOf blob⟩ = key := by
  unfold ofBlob
  cases embeddedName blob with
  | none => simp
  | some name =>
    by_cases hname : name = asciiBytes line.algorithm
    · simp [hname]
    · simp [hname]

theorem parse_eq_ok_iff {text : String} {key : PublicKey} :
    parse text = .ok key ↔ ∃ line, readLine? (trim text).toList = some line ∧
      ∃ blob, Base64.decode line.digits line.pads = .ok blob ∧ ofBlob line blob = .ok key := by
  unfold parse
  cases readLine? (trim text).toList with
  | none => simp
  | some line =>
    cases hblob : Base64.decode line.digits line.pads with
    | error e => simp [hblob]
    | ok blob => simp [hblob]

/-- The texts that are accepted are those that carry a key, and they are read as the key they carry.
-/
theorem parse_eq_ok_iff_carries {text : String} {key : PublicKey} :
    parse text = .ok key ↔ ∃ algorithm blob, Carries text algorithm blob ∧ key = keyOf algorithm blob := by
  rw [parse_eq_ok_iff]
  constructor
  · rintro ⟨line, hline, blob, hblob, hkey⟩
    obtain ⟨hmem, body, htext, hbody⟩ := readLine?_eq_some_iff.mp hline
    obtain ⟨-, -, hdigits, hpads, rest, rfl, htail⟩ := readBody_eq_some_iff.mp hbody
    obtain ⟨hname, rfl⟩ := ofBlob_eq_ok_iff.mp hkey
    have hwritten : line.body = Base64.encode blob := (Base64.decode_ok_iff hdigits hpads).mp hblob
    rw [hwritten] at htext ⊢
    exact ⟨line.algorithm, blob, ⟨hmem, (embeds_iff hmem).mp hname, rest, htext, htail⟩, rfl⟩
  · rintro ⟨algorithm, blob, hcarries, rfl⟩
    obtain ⟨rest, htext, htail⟩ := hcarries.written
    -- the digits end where the padding of the written bytes begins
    let line : Line := ⟨algorithm, Base64.encodeUnpadded blob,
      (4 - (Base64.encodeUnpadded blob).length % 4) % 4⟩
    have hdigits : ∀ c ∈ line.digits, Base64.isDigit c = true := Base64.encodeUnpadded_isDigit blob
    have hpads : line.pads ≤ 2 := Base64.pads_le_two blob
    have hbody : readBody algorithm (Base64.encode blob ++ rest) = some line :=
      readBody_eq_some_iff.mpr
        ⟨rfl, Base64.encodeUnpadded_ne_nil hcarries.blob_ne_nil, hdigits, hpads, rest, rfl, htail⟩
    have hline : readLine? (trim text).toList = some line :=
      readLine?_eq_some_iff.mpr ⟨hcarries.supported, _, htext, hbody⟩
    have hblob : Base64.decode line.digits line.pads = .ok blob :=
      (Base64.decode_ok_iff hdigits hpads).mpr rfl
    have hname := (embeds_iff hcarries.supported).mpr hcarries.named
    exact ⟨line, hline, blob, hblob, ofBlob_eq_ok_iff.mpr ⟨hname, rfl⟩⟩

theorem toList_normalized (algorithm : String) (blob : List UInt8) :
    (keyOf algorithm blob).normalized.toList = algorithm.toList ++ ' ' :: Base64.encode blob := by
  simp [keyOf]

theorem normalized_inj {a a' : String} (ha : a ∈ algorithms) (ha' : a' ∈ algorithms)
    {blob blob' : List UInt8} (h : (keyOf a blob).normalized = (keyOf a' blob').normalized) :
    blob = blob' := by
  have hlists := congrArg String.toList h
  rw [toList_normalized, toList_normalized] at hlists
  exact Base64.encode_injective (algorithm_inj ha ha' hlists).2

namespace Carries

variable {text text' algorithm algorithm' : String} {blob : List UInt8}

theorem algorithm_eq (h : Carries text algorithm blob) (h' : Carries text' algorithm' blob) :
    algorithm = algorithm' := by
  have hdistinct : ∀ a ∈ algorithms, ∀ b ∈ algorithms, asciiBytes a = asciiBytes b → a = b := by
    decide +kernel
  have hname := (embeds_iff h.supported).mpr h.named
  have hname' := (embeds_iff h'.supported).mpr h'.named
  exact hdistinct _ h.supported _ h'.supported (Option.some.inj (hname.symm.trans hname'))

theorem normalized (h : Carries text algorithm blob) :
    Carries (keyOf algorithm blob).normalized algorithm blob := by
  have hnames : ∀ a ∈ algorithms, a.toList ≠ [] ∧ a.toList.all (! isBlank ·) = true := by
    decide +kernel
  obtain ⟨hne, hall⟩ := hnames algorithm h.supported
  have hname : ∀ c ∈ algorithm.toList, isBlank c = false := by simpa using hall
  have hfirst : ∀ c ∈ (keyOf algorithm blob).normalized.toList.head?, isBlank c = false := by
    intro c hc
    rw [toList_normalized, List.head?_append_of_ne_nil _ hne] at hc
    exact hname c (List.mem_of_mem_head? hc)
  have hlast : ∀ c ∈ (keyOf algorithm blob).normalized.toList.getLast?, isBlank c = false := by
    intro c hc
    have hwritten : Base64.encode blob ≠ [] :=
      List.append_ne_nil_of_left_ne_nil (Base64.encodeUnpadded_ne_nil h.blob_ne_nil) _
    rw [toList_normalized, List.getLast?_append_of_ne_nil _ (List.cons_ne_nil _ _),
      List.getLast?_cons_of_ne_nil hwritten] at hc
    exact encode_not_blank c (List.mem_of_mem_getLast? hc)
  refine ⟨h.supported, h.named, [], ?_, Or.inl rfl⟩
  rw [trim_eq_self hfirst hlast, toList_normalized, List.append_nil]

end Carries

/-- The reading of a text by a machine that an index or a sum might stop. -/
def parseInWords (text : String) : Except Fault (Except Error PublicKey) :=
  match readLine? (trim text).toList with
  | none => .ok (.error .notAKeyLine)
  | some line =>
    match Base64.decode line.digits line.pads with
    | .error e => .ok (.error (.notBase64 e))
    | .ok blob => do
      match ← embeddedNameInWords blob with
      | none => return .error .truncated
      | some name =>
        if name = asciiBytes line.algorithm then
          return .ok ⟨line.algorithm, line.algorithm ++ " " ++ String.ofList line.body, fingerprintOf blob⟩
        else return .error (.otherAlgorithm line.algorithm)

theorem parseInWords_eq (text : String) : parseInWords text = .ok (parse text) := by
  unfold parseInWords parse
  cases readLine? (trim text).toList with
  | none => rfl
  | some line =>
    cases hblob : Base64.decode line.digits line.pads with
    | error e => simp only [hblob]
    | ok blob =>
      simp only [hblob, embeddedNameInWords_eq, ofBlob]
      cases embeddedName blob with
      | none => rfl
      | some name => exact (apply_ite Except.ok _ _ _).symm

/-- A text is accepted if it carries a key, and it is read as that key. The normalized form of the
key is read as the same key, and it is the same for two texts if they carry the same bytes. No index
and no sum stops the machine at any text. -/
theorem parse_accepts_key_lines (text : String) :
    (∀ key, parse text = .ok key ↔
      ∃ algorithm blob, Carries text algorithm blob ∧ key = keyOf algorithm blob) ∧
    (∀ key, parse text = .ok key → parse key.normalized = .ok key) ∧
    (∀ algorithm blob text' algorithm' blob', Carries text algorithm blob →
      Carries text' algorithm' blob' →
        ((keyOf algorithm blob).normalized = (keyOf algorithm' blob').normalized ↔ blob = blob')) ∧
    parseInWords text = .ok (parse text) := by
  refine ⟨fun key => parse_eq_ok_iff_carries, ?_, ?_, parseInWords_eq text⟩
  · intro key hkey
    obtain ⟨algorithm, blob, hcarries, rfl⟩ := parse_eq_ok_iff_carries.mp hkey
    exact parse_eq_ok_iff_carries.mpr ⟨algorithm, blob, hcarries.normalized, rfl⟩
  · intro algorithm blob text' algorithm' blob' hcarries hcarries'
    constructor
    · exact normalized_inj hcarries.supported hcarries'.supported
    · rintro rfl
      rw [hcarries.algorithm_eq hcarries']

/-- The comment of a line and the white space around it are left out, and what is left stays as it
is. -/
theorem comment_is_left_out :
    parse " ssh-rsa AAAAB3NzaC1yc2E=\n alice@desk " = .ok ⟨"ssh-rsa", "ssh-rsa AAAAB3NzaC1yc2E=",
        "SHA256:zBURJC4mpQ6j/DLIDJakTQANmGP4cn9OftElBH5WBrg"⟩ ∧
      parse "ssh-rsa AAAAB3NzaC1yc2E=" = .ok ⟨"ssh-rsa", "ssh-rsa AAAAB3NzaC1yc2E=",
        "SHA256:zBURJC4mpQ6j/DLIDJakTQANmGP4cn9OftElBH5WBrg"⟩ := by
  have hkey : parse " ssh-rsa AAAAB3NzaC1yc2E=\n alice@desk " = .ok ⟨"ssh-rsa",
      "ssh-rsa AAAAB3NzaC1yc2E=", "SHA256:zBURJC4mpQ6j/DLIDJakTQANmGP4cn9OftElBH5WBrg"⟩ := by
    decide +kernel
  have hagain := (parse_accepts_key_lines _).2.1 _ hkey
  exact ⟨hkey, hagain⟩

end CloudDesk.PublicKey
