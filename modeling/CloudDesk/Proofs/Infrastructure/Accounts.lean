import CloudDesk.Config
import CloudDesk.Infrastructure.Info
import Mathlib

namespace CloudDesk

structure LegalAccount (name : String) : Prop where
  atLeast : 3 ≤ name.length
  atMost : name.length ≤ 24
  plain : ∀ c ∈ name.toList, c.isLower = true ∨ c.isDigit = true

def lettersAndDigits (s : String) : List Char := s.toList.filter Char.isAlphanum

theorem lettersAndDigits_ne_nil_iff (s : String) :
    lettersAndDigits s ≠ [] ↔ ∃ c ∈ s.toList, c.isAlphanum = true := by
  simp only [lettersAndDigits, ne_eq, List.filter_eq_nil_iff, not_forall, exists_prop, not_not]

theorem lettersAndDigits_append (s t : String) :
    lettersAndDigits (s ++ t) = lettersAndDigits s ++ lettersAndDigits t := by
  rw [lettersAndDigits, String.toList_append, List.filter_append]
  rfl

theorem lettersAndDigits_userName (owner : String) :
    lettersAndDigits (userName owner) = lettersAndDigits owner := by
  rw [lettersAndDigits, userName, String.toList_ofList, lettersAndDigits]
  induction owner.toList with
  | nil => rfl
  | cons c cs ih =>
    rw [List.map_cons]
    by_cases h : c = '_'
    · have hhyphen : ¬ Char.isAlphanum '-' = true := by decide
      have hunderscore : ¬ Char.isAlphanum '_' = true := by decide
      rw [if_pos h, h, List.filter_cons_of_neg hhyphen, List.filter_cons_of_neg hunderscore]
      exact ih
    · rw [if_neg h, List.filter_cons, List.filter_cons, ih]

theorem toLower_plain {c : Char} (h : c.isAlphanum = true) :
    c.toLower.isLower = true ∨ c.toLower.isDigit = true := by
  by_cases halpha : c.isAlpha = true
  · exact .inl (by rwa [Char.isLower_toLower_eq_isAlpha])
  · have hupper : ¬ c.isUpper = true := by
      intro hu
      apply halpha
      rw [Char.isAlpha, hu, Bool.true_or]
    have hdigit : c.isDigit = true := by simpa [Char.isAlphanum, halpha] using h
    exact .inr (by rwa [Char.toLower_eq_of_not_isUpper hupper])

namespace Cloud

variable (baseName owner : String)

theorem toList_storageAccount : (storageAccount baseName (userName owner)).toList =
    ((lettersAndDigits (baseName ++ owner) ++ ['s', 'a']).map Char.toLower).take accountLength := by
  have hending : lettersAndDigits "sa" = ['s', 'a'] := by decide
  have hkept : lettersAndDigits (baseName ++ userName owner ++ "sa") =
      lettersAndDigits (baseName ++ owner) ++ ['s', 'a'] := by
    simp only [lettersAndDigits_append, lettersAndDigits_userName, hending]
  rw [← hkept]
  exact String.toList_ofList

theorem length_storageAccount : (storageAccount baseName (userName owner)).length =
    min accountLength ((lettersAndDigits (baseName ++ owner)).length + 2) := by
  rw [← String.length_toList, toList_storageAccount, List.length_take, List.length_map,
    List.length_append, List.length_cons, List.length_singleton]

theorem storageAccount_plain :
    ∀ c ∈ (storageAccount baseName (userName owner)).toList, c.isLower = true ∨ c.isDigit = true := by
  intro c hc
  rw [toList_storageAccount] at hc
  obtain ⟨c, hmem, rfl⟩ := List.mem_map.mp (List.mem_of_mem_take hc)
  apply toLower_plain
  obtain hkept | hending := List.mem_append.mp hmem
  · exact (List.mem_filter.mp hkept).2
  · have hletters : ∀ c ∈ ['s', 'a'], c.isAlphanum = true := by simp
    exact hletters c hending

theorem legalAccount_iff : LegalAccount (storageAccount baseName (userName owner)) ↔
    lettersAndDigits (baseName ++ owner) ≠ [] := by
  have hlength := length_storageAccount baseName owner
  rw [accountLength] at hlength
  rw [← List.length_pos_iff]
  constructor
  · intro h
    have hlong := h.atLeast
    omega
  · intro h
    exact ⟨by omega, by omega, storageAccount_plain baseName owner⟩

theorem storageAccount_of_nothing (h : lettersAndDigits (baseName ++ owner) = []) :
    storageAccount baseName (userName owner) = "sa" := by
  rw [← String.toList_inj, toList_storageAccount, h]
  decide

/-- The storage account of an owner has small letters and digits alone and no more of them than fit.
It has enough of them, and so is legal, exactly if the base name or the owner has a letter or a
digit: without one, all owners have the same two letters. -/
theorem storage_account_legal_iff (s : Settings) (owner : String) :
    ∃ name, (azure.sharedInfo s owner).storageAccount = some name ∧
      (∀ c ∈ name.toList, c.isLower = true ∨ c.isDigit = true) ∧ name.length ≤ 24 ∧
      (LegalAccount name ↔ ∃ c ∈ s.baseName.toList ++ owner.toList, c.isAlphanum = true) ∧
      (¬ LegalAccount name → name = "sa") := by
  refine ⟨_, rfl, storageAccount_plain s.baseName owner, ?_, ?_, ?_⟩
  · rw [length_storageAccount]
    exact min_le_left accountLength _
  · rw [legalAccount_iff, lettersAndDigits_ne_nil_iff, String.toList_append]
  · intro h
    apply storageAccount_of_nothing
    rwa [legalAccount_iff, not_not] at h

/-- A base name of hyphens alone is not blank, and leaves an owner called by an underscore without a
legal account. -/
theorem hyphens_leave_no_account :
    ∃ s, (Config.ofEnvironment ⟨[("SERVICE_BASE_NAME", Text.utf8 "-")]⟩).settings = .ok s ∧
      (azure.sharedInfo s "_").storageAccount = some "sa" ∧ ¬ LegalAccount "sa" :=
  ⟨_, rfl, by decide +kernel, fun h => absurd h.atLeast (by decide)⟩

end Cloud

end CloudDesk
