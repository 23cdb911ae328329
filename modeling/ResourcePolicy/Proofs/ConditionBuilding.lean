import Mathlib.Data.List.Induction
import ResourcePolicy.Proofs.CanonicalForm
import ResourcePolicy.Proofs.ConditionEntries

/-!
# Building a condition step by step

A condition is built from none by putting entries in their places one after another. What it holds
in the end is the last step at each place: earlier steps there are forgotten, and neither the order
of steps at different places nor the way in which an operator came about leaves a trace.
-/

namespace ResourcePolicy

namespace Condition

/-- The condition with an entry put in its place. -/
def put (condition : Condition) (entry : Entry) : Condition :=
  condition.withEntry entry.operator entry.key entry.values

/-- The condition that is built by putting entries in their places one after another. -/
def ofEntries (steps : List Entry) : Condition := steps.foldl put ∅

/-- The entry is the last one of the list at its place. -/
def Entry.IsLastIn (entry : Entry) (steps : List Entry) : Prop :=
  ∃ front back, steps = front ++ entry :: back ∧ ∀ later ∈ back, ¬ later.SamePlace entry

variable {condition other : Condition} {steps others : List Entry} {entry step first second : Entry}

/-- A further step builds on what the steps before it have built. -/
theorem ofEntries_append_singleton (steps : List Entry) (step : Entry) :
    ofEntries (steps ++ [step]) = (ofEntries steps).put step :=
  List.foldl_append

/-- A further step is the last one at its place; elsewhere the last one stays. -/
theorem Entry.isLastIn_append_singleton :
    entry.IsLastIn (steps ++ [step]) ↔
      entry = step ∨ (entry.IsLastIn steps ∧ ¬ entry.SamePlace step) := by
  constructor
  · rintro ⟨front, back, hsteps, hback⟩
    cases back using List.reverseRecOn with
    | nil =>
      obtain ⟨-, hentry⟩ := List.append_inj' hsteps rfl
      exact Or.inl (List.singleton_inj.mp hentry).symm
    | append_singleton back last =>
      rw [← List.cons_append, ← List.append_assoc] at hsteps
      obtain ⟨hfront, hlast⟩ := List.append_inj' hsteps rfl
      obtain rfl := List.singleton_inj.mp hlast
      refine Or.inr ⟨⟨front, back, hfront, fun later hlater => ?_⟩, fun hplace => ?_⟩
      · exact hback later (List.mem_append_left _ hlater)
      · exact hback step List.mem_concat_self hplace.symm
  · rintro (rfl | ⟨⟨front, back, rfl, hback⟩, hplace⟩)
    · exact ⟨steps, [], rfl, fun _ hlater => absurd hlater List.not_mem_nil⟩
    · refine ⟨front, back ++ [step], by simp, fun later hlater => ?_⟩
      rcases List.mem_append.mp hlater with hlater | hlater
      · exact hback later hlater
      · rw [List.mem_singleton.mp hlater]
        exact fun h => hplace h.symm

/-- Without steps none is the last one. -/
theorem Entry.not_isLastIn_nil : ¬ entry.IsLastIn [] := by
  rintro ⟨front, back, hsteps, -⟩
  cases front <;> cases hsteps

/-- Every step has a last one at its place. -/
theorem exists_isLastIn (hstep : step ∈ steps) :
    ∃ entry : Entry, entry.IsLastIn steps ∧ entry.SamePlace step := by
  induction steps using List.reverseRecOn with
  | nil => exact absurd hstep List.not_mem_nil
  | append_singleton steps last ih =>
    simp only [Entry.isLastIn_append_singleton]
    rcases List.mem_append.mp hstep with hmem | hmem
    · obtain ⟨entry, hentry, hplace⟩ := ih hmem
      by_cases hlast : entry.SamePlace last
      · exact ⟨last, Or.inl rfl, hlast.symm.trans hplace⟩
      · exact ⟨entry, Or.inr ⟨hentry, hlast⟩, hplace⟩
    · rw [List.mem_singleton.mp hmem]
      exact ⟨last, Or.inl rfl, rfl, rfl⟩

/-- The entries that are built are the last steps at their places. -/
theorem mem_entries_ofEntries_iff : entry ∈ (ofEntries steps).entries ↔ entry.IsLastIn steps := by
  induction steps using List.reverseRecOn with
  | nil => exact iff_of_false List.not_mem_nil Entry.not_isLastIn_nil
  | append_singleton steps step ih =>
    rw [ofEntries_append_singleton, Entry.isLastIn_append_singleton, ← ih]
    exact mem_entries_withEntry_iff

/-- The operators that are built are those of the steps. -/
theorem mem_operators_ofEntries_iff {operator : String} :
    operator ∈ (ofEntries steps).operators.keys ↔ ∃ step ∈ steps, step.operator = operator := by
  induction steps using List.reverseRecOn with
  | nil => exact iff_of_false List.not_mem_nil (by simp)
  | append_singleton steps last ih =>
    have hput : operator ∈ (ofEntries (steps ++ [last])).operators.keys ↔
        operator = last.operator ∨ operator ∈ (ofEntries steps).operators.keys := by
      rw [ofEntries_append_singleton]
      exact KeyMap.mem_keys_insert
    simp only [hput, ih, List.mem_append, List.mem_singleton, or_and_right, exists_or,
      exists_eq_left]
    rw [or_comm, eq_comm]

/-- Nothing is built iff there are no steps. -/
theorem isEmpty_ofEntries_iff : (ofEntries steps).isEmpty = true ↔ steps = [] := by
  have hempty : (ofEntries steps).isEmpty = true ↔
      ∀ operator, operator ∉ (ofEntries steps).operators.keys := KeyMap.isEmpty_iff
  rw [hempty, List.eq_nil_iff_forall_not_mem]
  simp only [mem_operators_ofEntries_iff]
  constructor
  · intro hoperators step hstep
    exact hoperators step.operator ⟨step, hstep, rfl⟩
  · rintro hsteps operator ⟨step, hstep, -⟩
    exact hsteps step hstep

/-- Of entries that ascend each is built as it is. -/
theorem mem_entries_ofEntries_of_pairwise (hsteps : steps.Pairwise Entry.Before) :
    entry ∈ (ofEntries steps).entries ↔ entry ∈ steps := by
  rw [mem_entries_ofEntries_iff]
  constructor
  · rintro ⟨front, back, rfl, -⟩
    exact List.mem_append_cons_self
  · intro hentry
    obtain ⟨front, back, rfl⟩ := List.append_of_mem hentry
    obtain ⟨-, hback, -⟩ := List.pairwise_append.mp hsteps
    refine ⟨front, back, rfl, fun later hlater hplace => ?_⟩
    exact (List.rel_of_pairwise_cons hback hlater).not_samePlace hplace.symm

/-- Every operator of the condition has a key. -/
def EachOperatorHasKey (condition : Condition) : Prop :=
  ∀ operator keys, condition.operators.get? operator = some keys →
    ∃ key values, keys.get? key = some values

/-- Putting an entry gives its operator a key and leaves the other operators theirs. -/
theorem EachOperatorHasKey.put (hkeys : condition.EachOperatorHasKey) (entry : Entry) :
    (condition.put entry).EachOperatorHasKey := by
  intro operator keys hget
  rw [Condition.put, withEntry, KeyMap.get?_insert] at hget
  split at hget
  · cases hget
    refine ⟨entry.key, entry.values, ?_⟩
    rw [KeyMap.get?_insert, if_pos rfl]
  · exact hkeys operator keys hget

/-- Every operator that is built has a key. -/
theorem eachOperatorHasKey_ofEntries (steps : List Entry) :
    (ofEntries steps).EachOperatorHasKey := by
  induction steps using List.reverseRecOn with
  | nil =>
    intro operator keys hget
    cases hget
  | append_singleton steps step ih =>
    rw [ofEntries_append_singleton]
    exact ih.put step

/-- Of two conditions with the same values at each place, one has the keys of an operator of the
other, if each operator has a key. -/
theorem EachOperatorHasKey.get?_eq_some (hkeys : condition.EachOperatorHasKey)
    (hget : ∀ operator key, condition.get? operator key = other.get? operator key)
    {operator : String} {keys : KeyMap Values}
    (hoperator : condition.operators.get? operator = some keys) :
    other.operators.get? operator = some keys := by
  unfold get? at hget
  cases hother : other.operators.get? operator with
  | none =>
    obtain ⟨key, values, hvalues⟩ := hkeys operator keys hoperator
    have hplace := hget operator key
    rw [hoperator, hother, Option.bind_some, hvalues] at hplace
    cases hplace
  | some otherKeys =>
    congr 1
    ext1 key
    have hplace := hget operator key
    rw [hoperator, hother] at hplace
    exact hplace.symm

/-- Conditions in which every operator has a key are equal if they have the same entries. -/
theorem eq_of_mem_entries_iff (hkeys : condition.EachOperatorHasKey)
    (hotherKeys : other.EachOperatorHasKey)
    (hentries : ∀ entry, entry ∈ condition.entries ↔ entry ∈ other.entries) :
    condition = other := by
  have hget : ∀ operator key, condition.get? operator key = other.get? operator key := by
    intro operator key
    ext values
    have hentry := hentries ⟨operator, key, values⟩
    rwa [mem_entries_iff, mem_entries_iff] at hentry
  have hoperators : condition.operators = other.operators := by
    ext operator keys
    constructor
    · exact hkeys.get?_eq_some hget
    · exact hotherKeys.get?_eq_some fun operator key => (hget operator key).symm
  cases condition
  cases other
  cases hoperators
  rfl

/-- Entries at different places may be put in either order. -/
theorem put_comm (hplace : ¬ first.SamePlace second) (condition : Condition) :
    (condition.put first).put second = (condition.put second).put first := by
  unfold put withEntry
  simp only [KeyMap.get?_insert]
  by_cases hoperator : first.operator = second.operator
  · have hkey : first.key ≠ second.key := fun hkey => hplace ⟨hoperator, hkey⟩
    simp only [hoperator, if_true, Option.getD_some, KeyMap.insert_insert]
    rw [KeyMap.insert_comm hkey]
  · rw [if_neg (Ne.symm hoperator), if_neg hoperator, KeyMap.insert_comm hoperator]

/-- What a run of steps builds is the last step at each place, whatever the run. -/
theorem ofEntries_holds_last_steps (steps : List Entry) :
    -- The entries ascend by operator and key.
    (ofEntries steps).entries.Pairwise Entry.Before ∧
    -- There is one for each place in the steps, with the values of the last step there.
    (∀ step ∈ steps, ∃! entry, entry ∈ (ofEntries steps).entries ∧ entry.SamePlace step) ∧
    (∀ entry, entry ∈ (ofEntries steps).entries ↔ entry.IsLastIn steps) ∧
    -- The operators are those of the steps, each once and in order.
    Ascending id (ofEntries steps).operators.keys ∧
    (∀ operator, operator ∈ (ofEntries steps).operators.keys ↔
      ∃ step ∈ steps, step.operator = operator) ∧
    ((ofEntries steps).isEmpty = true ↔ steps = []) ∧
    -- Runs with the same last steps build the same condition.
    (∀ others, (∀ entry : Entry, entry.IsLastIn steps ↔ entry.IsLastIn others) →
      ofEntries steps = ofEntries others ∧
        (ofEntries steps).toJson = (ofEntries others).toJson) ∧
    -- Neighbouring steps at different places may change places.
    (∀ front back (first second : Entry), steps = front ++ first :: second :: back →
      ¬ first.SamePlace second →
      ofEntries steps = ofEntries (front ++ second :: first :: back)) ∧
    -- The condition is read back from its JSON.
    ofJson (ofEntries steps).toJson = .ok (ofEntries steps) := by
  refine ⟨pairwise_entries _, fun step hstep => ?_, fun _ => mem_entries_ofEntries_iff,
    KeyMap.ascending_keys _, fun _ => mem_operators_ofEntries_iff, isEmpty_ofEntries_iff,
    fun others hlast => ?_, ?_, ofJson_toJson _⟩
  · obtain ⟨entry, hentry, hplace⟩ := exists_isLastIn hstep
    have hbuilt := mem_entries_ofEntries_iff.mpr hentry
    refine ⟨entry, ⟨hbuilt, hplace⟩, fun other ⟨hother, hotherPlace⟩ => ?_⟩
    exact eq_of_samePlace hother hbuilt (hotherPlace.trans hplace.symm)
  · have hsame : ofEntries steps = ofEntries others := by
      refine eq_of_mem_entries_iff (eachOperatorHasKey_ofEntries steps)
        (eachOperatorHasKey_ofEntries others) fun entry => ?_
      rw [mem_entries_ofEntries_iff, mem_entries_ofEntries_iff, hlast]
    exact ⟨hsame, congrArg toJson hsame⟩
  · rintro front back first second rfl hplace
    simp only [ofEntries, List.foldl_append, List.foldl_cons, put_comm hplace]

/-- The first of three steps is overwritten by the last one, and the one between them stands under
another operator. -/
theorem ofEntries_holds_last_steps_of_overwritten :
    let old : Entry := ⟨"StringEquals", "aws:SourceAccount", ⟨["1"]⟩⟩
    let arns : Entry := ⟨"ArnLike", "aws:SourceArn", ⟨["b", "a", "a"]⟩⟩
    let new : Entry := ⟨"StringEquals", "aws:SourceAccount", ⟨["2"]⟩⟩
    (ofEntries [old, arns, new]).entries = [arns, new] ∧ old ∈ [old, arns, new] ∧
      (∃! entry, entry ∈ (ofEntries [old, arns, new]).entries ∧ entry.SamePlace old) ∧
      (∀ entry : Entry, entry.IsLastIn [old, arns, new] ↔ entry.IsLastIn [new, arns]) ∧
      ofEntries [old, arns, new] = ofEntries [new, arns] ∧ ¬ old.SamePlace arns ∧
      ofEntries [old, arns, new] = ofEntries [arns, old, new] := by
  intro old arns new
  have hold : old ∈ [old, arns, new] := List.mem_cons_self
  have hplace : ¬ old.SamePlace arns := by decide
  have hthree : [old, arns, new] = [] ++ [old] ++ [arns] ++ [new] := rfl
  have htwo : [new, arns] = [] ++ [new] ++ [arns] := rfl
  have hlast : ∀ entry : Entry, entry.IsLastIn [old, arns, new] ↔ entry.IsLastIn [new, arns] := by
    intro entry
    rw [hthree, htwo]
    simp only [Entry.isLastIn_append_singleton, Entry.not_isLastIn_nil, false_and, or_false]
    constructor
    · rintro (rfl | ⟨rfl | ⟨rfl, -⟩, hnew⟩)
      · exact Or.inr ⟨rfl, by decide⟩
      · exact Or.inl rfl
      · exact absurd ⟨rfl, rfl⟩ hnew
    · rintro (rfl | ⟨rfl, -⟩)
      · exact Or.inr ⟨Or.inl rfl, by decide⟩
      · exact Or.inl rfl
  obtain ⟨-, hunique, -, -, -, -, hsame, hcomm, -⟩ := ofEntries_holds_last_steps [old, arns, new]
  exact ⟨by decide, hold, hunique old hold, hlast, (hsame _ hlast).1, hplace,
    hcomm [] [new] old arns rfl hplace⟩

end Condition

end ResourcePolicy
