import ResourcePolicy.Condition

/-!
# The entries of a condition

A condition is a map of maps, and its entries are what it holds at each operator and key. They
ascend by operator and, under an operator, by key. Putting values at an operator and key changes the
entry there and no other, whether the operator is new, known without the key, or known with it.
-/

namespace ResourcePolicy

namespace Condition

variable {condition : Condition} {entry other third : Entry}
variable {operator key : String} {values : Values}

/-- The entries stand at the same operator and key. -/
def Entry.SamePlace (entry other : Entry) : Prop :=
  entry.operator = other.operator ∧ entry.key = other.key

instance (entry other : Entry) : Decidable (entry.SamePlace other) :=
  inferInstanceAs (Decidable (entry.operator = other.operator ∧ entry.key = other.key))

/-- An entry comes before another one by its operator or, under the same operator, by its key. -/
def Entry.Before (entry other : Entry) : Prop :=
  entry.operator < other.operator ∨ (entry.operator = other.operator ∧ entry.key < other.key)

theorem Entry.SamePlace.symm (hplace : entry.SamePlace other) : other.SamePlace entry :=
  ⟨hplace.1.symm, hplace.2.symm⟩

theorem Entry.SamePlace.trans (hplace : entry.SamePlace other) (hother : other.SamePlace third) :
    entry.SamePlace third :=
  ⟨hplace.1.trans hother.1, hplace.2.trans hother.2⟩

/-- An entry does not come before one at its own place. -/
theorem Entry.Before.not_samePlace (hbefore : entry.Before other) : ¬ entry.SamePlace other := by
  rintro ⟨hoperator, hkey⟩
  rcases hbefore with hlt | ⟨-, hlt⟩
  · exact Std.lt_irrefl (hoperator ▸ hlt)
  · exact Std.lt_irrefl (hkey ▸ hlt)

/-- The entries ascend by operator and, under an operator, by key. -/
theorem pairwise_entries (condition : Condition) : condition.entries.Pairwise Entry.Before := by
  rw [entries, List.pairwise_flatMap]
  constructor
  · rintro ⟨operator, keys⟩ -
    refine List.pairwise_map.mpr (keys.ascending.imp fun hlt => ?_)
    exact Or.inr ⟨rfl, hlt⟩
  · refine condition.operators.ascending.imp fun hlt => ?_
    intro entry hentry other hother
    obtain ⟨_, -, rfl⟩ := List.mem_map.mp hentry
    obtain ⟨_, -, rfl⟩ := List.mem_map.mp hother
    exact Or.inl hlt

/-- The values at an operator and key, if there is an entry. -/
def get? (condition : Condition) (operator key : String) : Option Values :=
  (condition.operators.get? operator).bind (·.get? key)

/-- The entries are the values at each operator and key. -/
theorem mem_entries_iff :
    entry ∈ condition.entries ↔
      condition.get? entry.operator entry.key = some entry.values := by
  simp only [entries, get?, List.mem_flatMap, List.mem_map, Prod.exists, KeyMap.mem_toList_iff,
    Option.bind_eq_some_iff]
  constructor
  · rintro ⟨operator, keys, hkeys, key, values, hvalues, rfl⟩
    exact ⟨keys, hkeys, hvalues⟩
  · rintro ⟨keys, hkeys, hvalues⟩
    exact ⟨entry.operator, keys, hkeys, entry.key, entry.values, hvalues, rfl⟩

/-- The condition holds the entry: its map has keys at the operator of the entry, and they have its
values at its key. -/
def Holds (condition : Condition) (entry : Entry) : Prop :=
  ∃ keys, (entry.operator, keys) ∈ condition.operators.toList ∧
    (entry.key, entry.values) ∈ keys.toList

/-- The entries of a condition are those that it holds. -/
theorem holds_iff : condition.Holds entry ↔ entry ∈ condition.entries := by
  simp only [Holds, mem_entries_iff, get?, Option.bind_eq_some_iff, KeyMap.mem_toList_iff]

/-- No two entries of a condition stand at one place. -/
theorem eq_of_samePlace (hentry : entry ∈ condition.entries) (hother : other ∈ condition.entries)
    (hplace : entry.SamePlace other) : entry = other := by
  rw [mem_entries_iff, hplace.1, hplace.2, mem_entries_iff.mp hother] at hentry
  have hvalues : other.values = entry.values := Option.some.inj hentry
  calc entry = ⟨entry.operator, entry.key, entry.values⟩ := rfl
    _ = ⟨other.operator, other.key, other.values⟩ := by rw [hplace.1, hplace.2, hvalues]

/-- A new entry gives the values at its operator and key and leaves all others as they were. -/
theorem get?_withEntry (condition : Condition) (operator key : String) (values : Values)
    (wantedOperator wantedKey : String) :
    (condition.withEntry operator key values).get? wantedOperator wantedKey =
      if wantedOperator = operator ∧ wantedKey = key then some values
      else condition.get? wantedOperator wantedKey := by
  unfold withEntry get?
  simp only [KeyMap.get?_insert]
  by_cases hoperator : wantedOperator = operator
  · subst hoperator
    simp only [if_true, Option.bind_some, KeyMap.get?_insert, true_and]
    -- An operator that is new starts without keys.
    cases condition.operators.get? wantedOperator <;> rfl
  · simp only [hoperator, if_false, false_and]

/-- The entries with a new one are that one and the others that do not stand in its place. -/
theorem mem_entries_withEntry_iff :
    entry ∈ (condition.withEntry operator key values).entries ↔
      entry = ⟨operator, key, values⟩ ∨
        (entry ∈ condition.entries ∧ ¬ (entry.operator = operator ∧ entry.key = key)) := by
  simp only [mem_entries_iff, get?_withEntry]
  by_cases hplace : entry.operator = operator ∧ entry.key = key
  · obtain ⟨rfl, rfl⟩ := hplace
    simp only [and_self, if_true, not_true, and_false, or_false, Option.some.injEq]
    constructor
    · rintro rfl
      rfl
    · intro hentry
      exact (congrArg Entry.values hentry).symm
  · have hne : entry ≠ ⟨operator, key, values⟩ := by
      rintro rfl
      exact hplace ⟨rfl, rfl⟩
    rw [if_neg hplace]
    simp only [hne, hplace, not_false_eq_true, and_true, false_or]

end Condition

end ResourcePolicy
