import Mathlib.Data.List.Forall2
import ResourcePolicy.Proofs.ArnText
import ResourcePolicy.Proofs.ConditionEntries

/-!
# Which conditions narrow a public grant

An entry narrows by its operator, its key and its values. The operators and keys that can narrow
are listed here as such, keys up to ASCII case, and the test of a condition is shown to look for
just such an entry. The values that are collected as organization ids are those of the two
organization keys, whatever their operator.
-/

namespace ResourcePolicy

section LetterCase

/-- The first character is an ASCII capital and the second one the same letter in lower case. -/
def IsCapitalOf (capital small : Char) : Prop :=
  'A' ≤ capital ∧ capital ≤ 'Z' ∧ small.toNat = capital.toNat + 32

/-- The characters agree up to the case of ASCII letters. -/
def AgreeUpToCase (c d : Char) : Prop := c = d ∨ IsCapitalOf c d ∨ IsCapitalOf d c

/-- The texts agree up to the case of ASCII letters, character by character. -/
def EqualUpToCase (left right : String) : Prop :=
  List.Forall₂ AgreeUpToCase left.toList right.toList

/-- The ASCII capitals by their code points. -/
theorem capital_iff (c : Char) : ('A' ≤ c ∧ c ≤ 'Z') ↔ 65 ≤ c.toNat ∧ c.toNat ≤ 90 := by
  rw [Char.le_def, Char.le_def, UInt32.le_iff_toNat_le, UInt32.le_iff_toNat_le]
  rfl

/-- Lower case moves the ASCII capitals and no other character. -/
theorem toNat_toLower (c : Char) :
    c.toLower.toNat = if 'A' ≤ c ∧ c ≤ 'Z' then c.toNat + 32 else c.toNat := by
  unfold Char.toLower
  by_cases hcapital : 'A' ≤ c ∧ c ≤ 'Z'
  · have hbounds : c.val ≥ 'A'.val ∧ c.val ≤ 'Z'.val := hcapital
    have hle : c.val.toNat ≤ 90 := ((capital_iff c).mp hcapital).2
    rw [dif_pos hbounds, if_pos hcapital]
    change (c.val + 32).toNat = c.val.toNat + 32
    rw [UInt32.toNat_add]
    -- The sum of the code points does not overflow.
    exact Nat.mod_eq_of_lt (show c.val.toNat + 32 < 4294967296 by omega)
  · have hbounds : ¬ (c.val ≥ 'A'.val ∧ c.val ≤ 'Z'.val) := hcapital
    rw [dif_neg hbounds, if_neg hcapital]

/-- Characters agree up to case iff they are the same in lower case. -/
theorem agreeUpToCase_iff {c d : Char} : AgreeUpToCase c d ↔ c.toLower = d.toLower := by
  rw [← Char.toNat_inj, toNat_toLower, toNat_toLower]
  simp only [AgreeUpToCase, IsCapitalOf, ← and_assoc, capital_iff, ← Char.toNat_inj]
  split <;> split <;> omega

/-- Texts agree up to case iff they are the same in lower case. -/
theorem equalUpToCase_iff_lowerCase {left right : String} :
    EqualUpToCase left right ↔ lowerCase left = lowerCase right := by
  have hagree : AgreeUpToCase = fun c d => c.toLower = d.toLower :=
    funext fun _ => funext fun _ => propext agreeUpToCase_iff
  rw [EqualUpToCase, lowerCase, lowerCase, String.ofList_inj, hagree, ← List.forall₂_eq_eq_eq,
    List.forall₂_map_left_iff, List.forall₂_map_right_iff]

instance (left right : String) : Decidable (EqualUpToCase left right) :=
  decidable_of_iff _ equalUpToCase_iff_lowerCase.symm

@[refl]
theorem EqualUpToCase.refl (text : String) : EqualUpToCase text text :=
  equalUpToCase_iff_lowerCase.mpr rfl

/-- A key agrees up to case with a lower-case name iff the name is the key in lower case. -/
theorem equalUpToCase_iff {key name : String} (hname : lowerCase name = name) :
    EqualUpToCase key name ↔ lowerCase key = name := by
  rw [equalUpToCase_iff_lowerCase, hname]

/-- A key in lower case is among some lower-case names iff it agrees with one of them up to
case. -/
theorem lowerCase_mem_iff {key : String} {names : List String}
    (hnames : ∀ name ∈ names, lowerCase name = name) :
    lowerCase key ∈ names ↔ ∃ name ∈ names, EqualUpToCase key name := by
  constructor
  · intro hkey
    exact ⟨lowerCase key, hkey, (equalUpToCase_iff (hnames _ hkey)).mpr rfl⟩
  · rintro ⟨name, hname, hequal⟩
    rw [(equalUpToCase_iff (hnames name hname)).mp hequal]
    exact hname

end LetterCase

/-- The operators that narrow: they compare for equality or likeness, and they do not pass on a
missing key. -/
def strictOperators : List String :=
  ["ArnEquals", "ArnLike", "StringEquals", "StringEqualsIgnoreCase", "StringLike"]

/-- The keys whose values a caller cannot choose, in lower case. -/
def trustedKeys : List String :=
  ["aws:principalaccount", "aws:principalarn", "aws:principalorgid", "aws:principalorgpaths",
    "aws:sourcearn", "aws:sourceaccount", "aws:sourceowner"]

/-- The key is one of the two that hold ARNs. -/
def HoldsArns (key : String) : Prop :=
  EqualUpToCase key "aws:principalarn" ∨ EqualUpToCase key "aws:sourcearn"

/-- The key is one of the two that hold organizations. -/
def HoldsOrganizations (key : String) : Prop :=
  EqualUpToCase key "aws:principalorgid" ∨ EqualUpToCase key "aws:principalorgpaths"

/-- The operator passes when the key is missing. -/
def PassesOnMissingKey (operator : String) : Prop := "IfExists".toList <:+ operator.toList

instance : DecidablePred PassesOnMissingKey := fun operator =>
  inferInstanceAs (Decidable ("IfExists".toList <:+ operator.toList))

/-- An operator passes when the key is missing iff it ends so. -/
theorem passesIfMissing_iff {operator : String} :
    passesIfMissing operator = true ↔ PassesOnMissingKey operator :=
  List.isSuffixOf_iff_suffix

/-- Of the operators in the table just those narrow that do not pass on a missing key. -/
theorem mem_strictOperators_iff {operator : String} :
    operator ∈ strictOperators ↔ operator ∈ narrowingOperators ∧ ¬ PassesOnMissingKey operator := by
  have hforth : ∀ operator ∈ strictOperators,
      operator ∈ narrowingOperators ∧ ¬ PassesOnMissingKey operator := by decide
  have hback : ∀ operator ∈ narrowingOperators,
      ¬ PassesOnMissingKey operator → operator ∈ strictOperators := by decide
  exact ⟨hforth operator, fun h => hback operator h.1 h.2⟩

/-- The trusted keys are those of AWS principals and of services. -/
theorem isTrustedKey_iff {key : String} :
    isTrustedKey (lowerCase key) = true ↔ ∃ name ∈ trustedKeys, EqualUpToCase key name := by
  rw [← lowerCase_mem_iff (by decide), isTrustedKey, Bool.or_eq_true, List.contains_iff_mem,
    List.contains_iff_mem, ← List.mem_append]
  rfl

/-- The keys that hold ARNs are found by their lower case. -/
theorem contains_arnKeys_iff {key : String} :
    arnKeys.contains (lowerCase key) = true ↔ HoldsArns key := by
  rw [List.contains_iff_mem, lowerCase_mem_iff (by decide)]
  simp [arnKeys, HoldsArns]

/-- The keys that hold organizations are found by their lower case. -/
theorem contains_organizationKeys_iff {key : String} :
    organizationKeys.contains (lowerCase key) = true ↔ HoldsOrganizations key := by
  rw [List.contains_iff_mem, lowerCase_mem_iff (by decide)]
  simp [organizationKeys, HoldsOrganizations]

namespace Condition

/-- The entry narrows a public grant: its operator compares and does not pass on a missing key,
its key is trusted, and if the key holds ARNs, none of them leaves its account open. -/
structure Entry.Narrows (entry : Entry) : Prop where
  operator : entry.operator ∈ strictOperators
  key : ∃ name ∈ trustedKeys, EqualUpToCase entry.key name
  values : HoldsArns entry.key → ∀ value ∈ entry.values.toList, ¬ LeavesAccountOpen value

/-- The test of an entry decides whether it narrows. -/
theorem Entry.narrows_iff {entry : Entry} : entry.narrows = true ↔ entry.Narrows := by
  have hoperator : entry.operator ∈ strictOperators ↔
      ¬ (!narrowingOperators.contains entry.operator || passesIfMissing entry.operator) = true := by
    rw [mem_strictOperators_iff, ← passesIfMissing_iff, ← List.contains_iff_mem]
    simp only [Bool.or_eq_true, Bool.not_eq_true', not_or, Bool.not_eq_false]
  have hopen : (!entry.values.toList.any hasOpenAccount) = true ↔
      ∀ value ∈ entry.values.toList, ¬ LeavesAccountOpen value := by
    simp only [Bool.not_eq_true', List.any_eq_false, hasOpenAccount_iff]
  have hkey : isTrustedKey (lowerCase entry.key) = true ↔
      ∃ name ∈ trustedKeys, EqualUpToCase entry.key name := isTrustedKey_iff
  have harn : arnKeys.contains (lowerCase entry.key) = true ↔ HoldsArns entry.key :=
    contains_arnKeys_iff
  simp only [narrows]
  split
  · rename_i hrefused
    exact iff_of_false nofun fun h => hoperator.mp h.operator hrefused
  rename_i hadmitted
  split
  · rename_i huntrusted
    have hchosen : ¬ isTrustedKey (lowerCase entry.key) = true := by simpa using huntrusted
    exact iff_of_false nofun fun h => hchosen (hkey.mpr h.key)
  rename_i htrusted
  have hfixed : isTrustedKey (lowerCase entry.key) = true := by simpa using htrusted
  have hnarrows : entry.Narrows ↔
      (HoldsArns entry.key → ∀ value ∈ entry.values.toList, ¬ LeavesAccountOpen value) :=
    ⟨fun h => h.values, fun h => ⟨hoperator.mpr hadmitted, hkey.mp hfixed, h⟩⟩
  rw [hnarrows]
  split
  · rename_i harns
    rw [hopen, imp_iff_right (harn.mp harns)]
  · rename_i hother
    exact iff_of_true rfl fun h => absurd (harn.mpr h) hother

/-- A condition narrows iff one of its entries does. -/
theorem narrows_iff {condition : Condition} :
    condition.narrows = true ↔ ∃ entry ∈ condition.entries, entry.Narrows := by
  simp only [narrows, List.any_eq_true, Entry.narrows_iff]

/-- The organization ids are the values of the organization keys. -/
theorem mem_organizationIds_iff {condition : Condition} {text : String} :
    text ∈ condition.organizationIds ↔
      ∃ entry ∈ condition.entries, HoldsOrganizations entry.key ∧ text ∈ entry.values.toList := by
  simp only [organizationIds, List.mem_flatMap, List.mem_filter, contains_organizationKeys_iff,
    and_assoc]

end Condition

end ResourcePolicy
