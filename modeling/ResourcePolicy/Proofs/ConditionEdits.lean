import Mathlib.Data.List.Perm.Basic
import ResourcePolicy.Proofs.ConditionBuilding
import ResourcePolicy.Proofs.Rearrangement

/-!
# Editing a condition that narrows

Whether a condition narrows is decided entry by entry, so an edit changes it only through the
entries that it changes. A new entry may add one that narrows, or overwrite one. Entries whose
operators cannot narrow may be left out, and keys may be respelled in upper or lower case, as long
as those of one operator stay apart.
-/

namespace ResourcePolicy

/-- The operators that compare for equality or likeness, those that pass on a missing key
included. -/
def comparingOperators : List String :=
  ["ArnEquals", "ArnEqualsIfExists", "ArnLike", "ArnLikeIfExists", "StringEquals",
    "StringEqualsIfExists", "StringEqualsIgnoreCase", "StringEqualsIgnoreCaseIfExists",
    "StringLike", "StringLikeIfExists"]

/-- The operators that narrow compare and do not pass on a missing key. -/
theorem mem_comparingOperators_of_strict {operator : String}
    (hstrict : operator ∈ strictOperators) :
    operator ∈ comparingOperators ∧ ¬ PassesOnMissingKey operator := by
  have htable : comparingOperators = narrowingOperators := rfl
  rw [htable]
  exact mem_strictOperators_iff.mp hstrict

namespace Condition

/-- The condition that holds this entry and no other narrows a public grant. -/
def Entry.NarrowsAlone (entry : Entry) : Prop := (ofEntries [entry]).narrowsGrant true = true

/-- A condition narrows a public grant iff one of its entries does. -/
theorem narrowsGrant_true_iff {condition : Condition} :
    condition.narrowsGrant true = true ↔ ∃ entry ∈ condition.entries, entry.Narrows := by
  rw [narrowsGrant, Bool.true_and, narrows_iff]

/-- An entry narrows alone iff it is one that narrows. -/
theorem Entry.narrowsAlone_iff {entry : Entry} : entry.NarrowsAlone ↔ entry.Narrows := by
  have hentries : (ofEntries [entry]).entries = [entry] := rfl
  rw [NarrowsAlone, narrowsGrant_true_iff, hentries]
  simp only [List.mem_singleton, exists_eq_left]

section NewEntry

variable (condition : Condition) (operator key : String) (values : Values)

/-- With a new entry a condition narrows if that entry does, or one that is not overwritten. -/
theorem narrowsGrant_withEntry_iff :
    (condition.withEntry operator key values).narrowsGrant true = true ↔
      (⟨operator, key, values⟩ : Entry).NarrowsAlone ∨
        ∃ entry ∈ condition.entries,
          ¬ (entry.operator = operator ∧ entry.key = key) ∧ entry.NarrowsAlone := by
  simp only [narrowsGrant_true_iff, mem_entries_withEntry_iff, Entry.narrowsAlone_iff, or_and_right,
    exists_or, exists_eq_left, and_assoc]

/-- A new entry ends the narrowing exactly when it overwrites the only entry that narrows by one
that does not. -/
theorem narrowsGrant_withEntry_ends_iff :
    (condition.narrowsGrant true = true ∧
        (condition.withEntry operator key values).narrowsGrant true = false) ↔
      ¬ (⟨operator, key, values⟩ : Entry).NarrowsAlone ∧
        ∃ old ∈ condition.entries, (old.operator = operator ∧ old.key = key) ∧ old.NarrowsAlone ∧
          ∀ entry ∈ condition.entries, entry.NarrowsAlone → entry = old := by
  rw [← Bool.not_eq_true, narrowsGrant_withEntry_iff]
  have hnarrows : condition.narrowsGrant true = true ↔
      ∃ entry ∈ condition.entries, entry.NarrowsAlone := by
    simp only [narrowsGrant_true_iff, Entry.narrowsAlone_iff]
  rw [hnarrows]
  constructor
  · rintro ⟨⟨old, hold, hnarrows⟩, hends⟩
    obtain ⟨hnew, hothers⟩ := not_or.mp hends
    have hplace : ∀ entry ∈ condition.entries, entry.NarrowsAlone →
        entry.operator = operator ∧ entry.key = key := by
      intro entry hentry hentryNarrows
      by_contra hplace
      exact hothers ⟨entry, hentry, hplace, hentryNarrows⟩
    have holdPlace := hplace old hold hnarrows
    refine ⟨hnew, old, hold, holdPlace, hnarrows, fun entry hentry hentryNarrows => ?_⟩
    obtain ⟨hoperator, hkey⟩ := hplace entry hentry hentryNarrows
    apply eq_of_samePlace hentry hold
    exact ⟨hoperator.trans holdPlace.1.symm, hkey.trans holdPlace.2.symm⟩
  · rintro ⟨hnew, old, hold, hplace, hnarrows, honly⟩
    refine ⟨⟨old, hold, hnarrows⟩, ?_⟩
    rintro (h | ⟨entry, hentry, hother, hentryNarrows⟩)
    · exact hnew h
    · exact hother (honly entry hentry hentryNarrows ▸ hplace)

end NewEntry

/-- The condition has those entries of the other one whose operators compare and do not pass on a
missing key, and no others. -/
def KeepsComparing (rest condition : Condition) : Prop :=
  ∀ entry, entry ∈ rest.entries ↔ entry ∈ condition.entries ∧
    entry.operator ∈ comparingOperators ∧ ¬ PassesOnMissingKey entry.operator

/-- The entries that are to be kept make a condition of their own. -/
theorem exists_keepsComparing (condition : Condition) :
    ∃ rest : Condition, rest.KeepsComparing condition := by
  let kept := condition.entries.filter fun entry =>
    entry.operator ∈ comparingOperators ∧ ¬ PassesOnMissingKey entry.operator
  have hkept : kept.Pairwise Entry.Before := condition.pairwise_entries.filter _
  refine ⟨ofEntries kept, fun entry => ?_⟩
  rw [mem_entries_ofEntries_of_pairwise hkept, List.mem_filter, decide_eq_true_iff]

/-- The entries that are left out have no part in the narrowing. -/
theorem KeepsComparing.narrowsGrant_eq {rest condition : Condition}
    (hrest : rest.KeepsComparing condition) (isPublic : Bool) :
    rest.narrowsGrant isPublic = condition.narrowsGrant isPublic := by
  have hnarrows : rest.narrows = condition.narrows := by
    rw [Bool.eq_iff_iff, narrows_iff, narrows_iff]
    refine exists_congr fun entry => ?_
    rw [hrest entry]
    constructor
    · rintro ⟨⟨hentry, -⟩, hnarrows⟩
      exact ⟨hentry, hnarrows⟩
    · rintro ⟨hentry, hnarrows⟩
      exact ⟨⟨hentry, mem_comparingOperators_of_strict hnarrows.operator⟩, hnarrows⟩
  rw [narrowsGrant, narrowsGrant, hnarrows]

section KeyCase

/-- The entries differ at most in the case of their keys. -/
structure Entry.EqualUpToKeyCase (entry other : Entry) : Prop where
  operator : entry.operator = other.operator
  key : EqualUpToCase entry.key other.key
  values : entry.values = other.values

/-- The conditions have the same entries up to the case of their keys. -/
def EqualUpToKeyCase (condition other : Condition) : Prop :=
  Counterparts Entry.EqualUpToKeyCase condition.entries other.entries

/-- No two keys of one operator differ in case only. -/
def KeysApart (condition : Condition) : Prop :=
  ∀ entry ∈ condition.entries, ∀ other ∈ condition.entries, entry.operator = other.operator →
    EqualUpToCase entry.key other.key → entry.key = other.key

instance : DecidablePred KeysApart := fun condition =>
  inferInstanceAs (Decidable (∀ entry ∈ condition.entries, ∀ other ∈ condition.entries,
    entry.operator = other.operator → EqualUpToCase entry.key other.key → entry.key = other.key))

/-- The entry with its key in lower case. -/
def Entry.lowered (entry : Entry) : Entry := { entry with key := lowerCase entry.key }

variable {condition other : Condition}

theorem Entry.EqualUpToKeyCase.lowered_eq {entry other : Entry}
    (hequal : entry.EqualUpToKeyCase other) : entry.lowered = other.lowered := by
  have hkey : lowerCase entry.key = lowerCase other.key :=
    equalUpToCase_iff_lowerCase.mp hequal.key
  rw [lowered, lowered, hequal.operator, hkey, hequal.values]

/-- An entry narrows whatever the case of its key. -/
theorem Entry.EqualUpToKeyCase.narrows_iff {entry other : Entry}
    (hequal : entry.EqualUpToKeyCase other) : entry.Narrows ↔ other.Narrows := by
  have hkey : lowerCase entry.key = lowerCase other.key :=
    equalUpToCase_iff_lowerCase.mp hequal.key
  rw [← Entry.narrows_iff, ← Entry.narrows_iff, narrows, narrows, hequal.operator, hkey,
    hequal.values]

/-- A condition narrows whatever the case of its keys. -/
theorem EqualUpToKeyCase.narrowsGrant_eq (hequal : condition.EqualUpToKeyCase other)
    (isPublic : Bool) : condition.narrowsGrant isPublic = other.narrowsGrant isPublic := by
  have hnarrows : condition.narrows = other.narrows := by
    rw [Bool.eq_iff_iff, narrows_iff, narrows_iff]
    exact hequal.exists_iff fun _ _ hentry => hentry.narrows_iff
  rw [narrowsGrant, narrowsGrant, hnarrows]

/-- The organization ids are collected from the lower-case entries, in the same order. -/
theorem organizationIds_eq_lowered (condition : Condition) :
    condition.organizationIds =
      ((condition.entries.map Entry.lowered).filter fun entry =>
        organizationKeys.contains entry.key).flatMap fun entry => entry.values.toList := by
  rw [List.filter_map, List.flatMap_map]
  rfl

/-- Keys that stay apart are told apart in lower case. -/
theorem KeysApart.nodup_lowered (hapart : condition.KeysApart) :
    (condition.entries.map Entry.lowered).Nodup := by
  refine List.pairwise_map.mpr (condition.pairwise_entries.imp_of_mem ?_)
  intro entry other hentry hother hbefore hlowered
  have hoperator : entry.lowered.operator = other.lowered.operator := by rw [hlowered]
  have hkey : EqualUpToCase entry.key other.key :=
    equalUpToCase_iff_lowerCase.mpr (congrArg Entry.key hlowered)
  exact hbefore.not_samePlace ⟨hoperator, hapart entry hentry other hother hoperator hkey⟩

/-- The same organization ids are collected, though perhaps in another order, whatever the case of
the keys. -/
theorem EqualUpToKeyCase.organizationIds_perm (hequal : condition.EqualUpToKeyCase other)
    (hapart : condition.KeysApart) (hotherApart : other.KeysApart) :
    condition.organizationIds.Perm other.organizationIds := by
  have hlowered : (condition.entries.map Entry.lowered).Perm (other.entries.map Entry.lowered) := by
    refine (List.perm_ext_iff_of_nodup hapart.nodup_lowered hotherApart.nodup_lowered).mpr ?_
    intro entry
    rw [List.mem_map, List.mem_map]
    exact hequal.exists_iff fun x y hentry => by rw [hentry.lowered_eq]
  rw [organizationIds_eq_lowered, organizationIds_eq_lowered]
  exact (hlowered.filter _).flatMap_right _

end KeyCase

/-- How edits of a condition act on the narrowing and on the organization ids. -/
theorem narrowsGrant_of_edits (condition : Condition) :
    -- A new entry narrows by itself, or one that it does not overwrite does.
    (∀ operator key values,
      (condition.withEntry operator key values).narrowsGrant true = true ↔
        (⟨operator, key, values⟩ : Entry).NarrowsAlone ∨
          ∃ entry ∈ condition.entries,
            ¬ (entry.operator = operator ∧ entry.key = key) ∧ entry.NarrowsAlone) ∧
    -- So the narrowing ends with the only entry that narrows.
    (∀ operator key values,
      (condition.narrowsGrant true = true ∧
          (condition.withEntry operator key values).narrowsGrant true = false) ↔
        ¬ (⟨operator, key, values⟩ : Entry).NarrowsAlone ∧
          ∃ old ∈ condition.entries, (old.operator = operator ∧ old.key = key) ∧
            old.NarrowsAlone ∧ ∀ entry ∈ condition.entries, entry.NarrowsAlone → entry = old) ∧
    -- A grant that is not public is not narrowed.
    condition.narrowsGrant false = false ∧
    -- Entries under operators that cannot narrow may be left out.
    (∃ rest : Condition, rest.KeepsComparing condition) ∧
    (∀ rest : Condition, rest.KeepsComparing condition →
      ∀ isPublic, rest.narrowsGrant isPublic = condition.narrowsGrant isPublic) ∧
    -- Keys may be respelled in another case.
    ∀ other : Condition, condition.EqualUpToKeyCase other → condition.KeysApart →
      other.KeysApart →
      (∀ isPublic, condition.narrowsGrant isPublic = other.narrowsGrant isPublic) ∧
        condition.organizationIds.Perm other.organizationIds :=
  ⟨condition.narrowsGrant_withEntry_iff, condition.narrowsGrant_withEntry_ends_iff, rfl,
    condition.exists_keepsComparing, fun _ hrest => hrest.narrowsGrant_eq,
    fun _ hequal hapart hotherApart =>
      ⟨hequal.narrowsGrant_eq, hequal.organizationIds_perm hapart hotherApart⟩⟩

/-- One letter of a key in another case puts the organizations in another order, and an entry that
passes on a missing key is left out. -/
theorem narrowsGrant_of_edits_of_organizations :
    let organization : Entry := ⟨"StringEquals", "aws:PrincipalOrgID", ⟨["o-1"]⟩⟩
    let respelled : Entry := ⟨"StringEquals", "aws:principalOrgID", ⟨["o-1"]⟩⟩
    let paths : Entry := ⟨"StringEquals", "aws:PrincipalOrgPaths", ⟨["o-3/*", "o-2/*"]⟩⟩
    let optional : Entry := ⟨"StringEqualsIfExists", "aws:SourceAccount", ⟨["111122223333"]⟩⟩
    let condition := ofEntries [organization, paths, optional]
    let other := ofEntries [respelled, paths, optional]
    let rest := ofEntries [organization, paths]
    condition.EqualUpToKeyCase other ∧ condition.KeysApart ∧ other.KeysApart ∧
      condition.organizationIds = ["o-1", "o-3/*", "o-2/*"] ∧
      other.organizationIds = ["o-3/*", "o-2/*", "o-1"] ∧
      condition.organizationIds.Perm other.organizationIds ∧
      rest.KeepsComparing condition ∧ rest.narrowsGrant true = condition.narrowsGrant true := by
  intro organization respelled paths optional condition other rest
  have hentries : condition.entries = [organization, paths, optional] := by decide
  have hother : other.entries = [paths, respelled, optional] := by decide
  have hrest : rest.entries = [organization, paths] := by decide
  have horganization : organization.EqualUpToKeyCase respelled := ⟨rfl, by decide, rfl⟩
  have hself : ∀ entry : Entry, entry.EqualUpToKeyCase entry := fun _ => ⟨rfl, .refl _, rfl⟩
  have hequal : condition.EqualUpToKeyCase other := by
    constructor
    · rw [hentries, hother]
      simp only [List.forall_mem_cons]
      exact ⟨⟨respelled, by simp, horganization⟩, ⟨paths, by simp, hself _⟩,
        ⟨optional, by simp, hself _⟩, by simp⟩
    · rw [hentries, hother]
      simp only [List.forall_mem_cons]
      exact ⟨⟨paths, by simp, hself _⟩, ⟨organization, by simp, horganization⟩,
        ⟨optional, by simp, hself _⟩, by simp⟩
  have hkeeps : rest.KeepsComparing condition := by
    have hpasses : PassesOnMissingKey optional.operator := by decide
    intro entry
    rw [hentries, hrest]
    simp only [List.mem_cons, List.not_mem_nil, or_false]
    constructor
    · rintro (rfl | rfl)
      · exact ⟨Or.inl rfl, by decide⟩
      · exact ⟨Or.inr (Or.inl rfl), by decide⟩
    · rintro ⟨rfl | rfl | rfl, -, hkept⟩
      · exact Or.inl rfl
      · exact Or.inr rfl
      · exact absurd hpasses hkept
  have hapart : condition.KeysApart := by decide
  have hotherApart : other.KeysApart := by decide
  obtain ⟨-, -, -, -, hdropped, hcase⟩ := condition.narrowsGrant_of_edits
  exact ⟨hequal, hapart, hotherApart, by decide, by decide,
    (hcase other hequal hapart hotherApart).2, hkeeps, hdropped rest hkeeps true⟩

end Condition

end ResourcePolicy
