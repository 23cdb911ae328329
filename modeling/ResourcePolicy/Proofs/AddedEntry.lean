import Mathlib.Control.Monad.Basic
import ResourcePolicy.Proofs.ConditionEntries
import ResourcePolicy.Proofs.RelevantParts
import ResourcePolicy.Proofs.RowCoherence

/-!
# Adding an entry to a condition

One more entry in the condition of a statement can only restrict what the policy grants: an entry
that narrows goes on to do so beside any other. The statement may cease to be public, and the new
values are collected if they are organizations. Nobody is added or lost among the principals, the
errors stay the same, and the legacy rules do not see the entry at all.
-/

namespace ResourcePolicy

namespace Statement

/-- The statement with an entry put into its condition, or into an empty one if it has none. -/
def withEntry (s : Statement) (operator key : String) (values : Values) : Statement :=
  { s with condition := some ((s.condition.getD ∅).withEntry operator key values) }

/-- The condition has no entry at the operator and key. -/
def LacksEntry (s : Statement) (operator key : String) : Prop :=
  ∀ entry ∈ s.conditionEntries, ¬ (entry.operator = operator ∧ entry.key = key)

instance (s : Statement) (operator key : String) : Decidable (s.LacksEntry operator key) :=
  inferInstanceAs (Decidable (∀ entry ∈ s.conditionEntries,
    ¬ (entry.operator = operator ∧ entry.key = key)))

variable {s : Statement} {operator key : String} {values : Values} {mode : Mode}

/-- An entry at a new place joins the others. -/
theorem mem_conditionEntries_withEntry_iff (hnew : s.LacksEntry operator key)
    {entry : Condition.Entry} :
    entry ∈ (s.withEntry operator key values).conditionEntries ↔
      entry = ⟨operator, key, values⟩ ∨ entry ∈ s.conditionEntries := by
  have hentries : (s.withEntry operator key values).conditionEntries =
      ((s.condition.getD ∅).withEntry operator key values).entries := rfl
  rw [hentries, Condition.mem_entries_withEntry_iff, ← s.conditionEntries_eq]
  exact or_congr_right (and_iff_left_of_imp (hnew entry))

/-- A statement that is narrowed stays so with a new entry. -/
theorem IsNarrowed.withEntry (hnew : s.LacksEntry operator key) (hnarrowed : s.IsNarrowed) :
    (s.withEntry operator key values).IsNarrowed := by
  obtain ⟨entry, hentry, hnarrows⟩ := isNarrowed_iff_exists.mp hnarrowed
  apply isNarrowed_iff_exists.mpr
  exact ⟨entry, (mem_conditionEntries_withEntry_iff hnew).mpr (Or.inr hentry), hnarrows⟩

/-- A statement that is public with a new entry was so without it. -/
theorem isPublic_of_withEntry (hnew : s.LacksEntry operator key)
    (hpublic : (s.withEntry operator key values).IsPublic) : s.IsPublic := by
  obtain ⟨hallows, hnot | ⟨hnot, hanyone, hnarrowed⟩⟩ := hpublic
  · exact ⟨hallows, Or.inl hnot⟩
  · exact ⟨hallows, Or.inr ⟨hnot, hanyone, mt (IsNarrowed.withEntry hnew) hnarrowed⟩⟩

/-- With a new entry the organizations are those before and the new values, if they are
organizations. -/
theorem namesOrganization_withEntry_iff (hnew : s.LacksEntry operator key) {x : String} :
    (s.withEntry operator key values).NamesOrganization x ↔
      s.NamesOrganization x ∨ (HoldsOrganizations key ∧ x ∈ values.toList) := by
  simp only [namesOrganization_iff_exists, mem_conditionEntries_withEntry_iff hnew]
  constructor
  · rintro ⟨entry, rfl | hentry, hkey, hx⟩
    · exact Or.inr ⟨hkey, hx⟩
    · exact Or.inl ⟨entry, hentry, hkey, hx⟩
  · rintro (⟨entry, hentry, hkey, hx⟩ | ⟨hkey, hx⟩)
    · exact ⟨entry, Or.inr hentry, hkey, hx⟩
    · exact ⟨⟨operator, key, values⟩, Or.inl rfl, hkey, hx⟩

/-- The condition has no part in the errors of a statement. -/
theorem hasError_withEntry_iff {error : PolicyError} :
    s.HasError mode error ↔ (s.withEntry operator key values).HasError mode error := by
  constructor
  · rintro (⟨hallows, hdenies⟩ | ⟨front, value, back, hcounts, hvalues, hfront, hvalue⟩)
    · exact .effect hallows hdenies
    · exact .value front value back hcounts hvalues hfront hvalue
  · rintro (⟨hallows, hdenies⟩ | ⟨front, value, back, hcounts, hvalues, hfront, hvalue⟩)
    · exact .effect hallows hdenies
    · exact .value front value back hcounts hvalues hfront hvalue

/-- Under the legacy rules the condition does not matter. -/
theorem agrees_withEntry (s : Statement) (operator key : String) (values : Values) :
    s.Agrees .legacy (s.withEntry operator key values) where
  effect := rfl
  sid _ _ := rfl
  notAction _ _ := Iff.rfl
  principal _ := rfl
  condition hmode := nomatch hmode

end Statement

namespace Policy

/-- The policy with an entry put into the condition of the statement at an index. -/
def withEntryAt (policy : Policy) (index : Nat) (operator key : String) (values : Values) :
    Policy :=
  { policy with
    statements := policy.statements.modify index (·.withEntry operator key values) }

variable {policy : Policy} {mode : Mode} {owner : AccountId} {index : Nat} {s : Statement}
variable {operator key : String} {values : Values} {row restricted : Evaluation}

/-- What holds of some statement at its index holds of the one at a given index or of another. -/
theorem exists_getElem?_iff_or (hs : policy.statements[index]? = some s)
    {P : Nat → Statement → Prop} :
    (∃ i t, policy.statements[i]? = some t ∧ P i t) ↔
      P index s ∨ ∃ i t, i ≠ index ∧ policy.statements[i]? = some t ∧ P i t := by
  constructor
  · rintro ⟨i, t, ht, hP⟩
    by_cases hi : i = index
    · subst hi
      obtain rfl : s = t := Option.some.inj (hs.symm.trans ht)
      exact Or.inl hP
    · exact Or.inr ⟨i, t, hi, ht, hP⟩
  · rintro (hP | ⟨i, t, -, ht, hP⟩)
    · exact ⟨index, s, hs, hP⟩
    · exact ⟨i, t, ht, hP⟩

/-- With an entry at an index it holds of the statement with the entry or of another, which stands
as it was. -/
theorem exists_getElem?_withEntryAt_iff_or (hs : policy.statements[index]? = some s)
    {P : Nat → Statement → Prop} :
    (∃ i t, (policy.withEntryAt index operator key values).statements[i]? = some t ∧ P i t) ↔
      P index (s.withEntry operator key values) ∨
        ∃ i t, i ≠ index ∧ policy.statements[i]? = some t ∧ P i t := by
  have hself : (policy.withEntryAt index operator key values).statements[index]? =
      some (s.withEntry operator key values) := by
    rw [withEntryAt, List.getElem?_modify, hs]
    simp
  have hother : ∀ i, i ≠ index →
      (policy.withEntryAt index operator key values).statements[i]? = policy.statements[i]? := by
    intro i hi
    rw [withEntryAt, List.getElem?_modify]
    simp [Ne.symm hi]
  rw [exists_getElem?_iff_or hself]
  refine or_congr_right (exists_congr fun i => exists_congr fun t => ?_)
  refine and_congr_right fun hi => ?_
  rw [hother i hi]

/-- A new entry leaves a statement with a property among the others if it cannot change it. -/
theorem exists_mem_withEntryAt_iff {P : Statement → Prop}
    (hP : ∀ u : Statement, P (u.withEntry operator key values) ↔ P u) :
    (∃ u ∈ policy.statements, P u) ↔
      ∃ t ∈ (policy.withEntryAt index operator key values).statements, P t := by
  have hpairs : List.Forall₂ (fun u t => P u ↔ P t) policy.statements
      (policy.withEntryAt index operator key values).statements := by
    apply forall₂_modify
    · exact fun _ => Iff.rfl
    · exact fun u => (hP u).symm
  exact exists_mem_iff_of_forall₂ hpairs

/-- An entry changes no error. -/
theorem evaluate_error_iff_of_withEntryAt {error : PolicyError} :
    policy.evaluate mode owner = .error error ↔
      (policy.withEntryAt index operator key values).evaluate mode owner = .error error := by
  rw [evaluate_eq_error_iff_hasError, evaluate_eq_error_iff_hasError]
  apply firstError_of_forall₂
  exact forall₂_modify (fun _ _ => Iff.rfl) (fun _ _ => Statement.hasError_withEntry_iff) _ _

/-- An entry changes nothing under the legacy rules. -/
theorem evaluate_legacy_withEntryAt :
    policy.evaluate .legacy owner =
      (policy.withEntryAt index operator key values).evaluate .legacy owner := by
  apply evaluate_eq_of_agrees
  exact forall₂_modify (Statement.Agrees.refl .legacy)
    (fun u => u.agrees_withEntry operator key values) _ _

/-- An entry changes no names other than organizations. -/
theorem sameNames_of_withEntryAt (hok : policy.evaluate mode owner = .ok row)
    (hrestricted : (policy.withEntryAt index operator key values).evaluate mode owner =
      .ok restricted) : row.SameNames restricted := by
  have hnames : ∀ (named : Statement → List String) (x : String),
      (∀ u : Statement, named (u.withEntry operator key values) = named u) →
        (policy.Names mode named x ↔
          (policy.withEntryAt index operator key values).Names mode named x) := by
    intro named x hnamed
    refine exists_mem_withEntryAt_iff fun u => ?_
    rw [hnamed]
    exact Iff.rfl
  have halike : policy.NamesAlike mode (policy.withEntryAt index operator key values) mode :=
    ⟨fun x => hnames _ x fun _ => rfl, fun x => hnames _ x fun _ => rfl,
      fun x => hnames _ x fun _ => rfl⟩
  exact halike.sameNames (evaluate_reported hok) (evaluate_ascends hok)
    (evaluate_ascends hrestricted) (evaluate_reported hrestricted)

/-- The organizations of a row are those that counted statements name, each at its index. -/
theorem Reported.mem_organizationIds_iff_getElem? (hrow : policy.Reported .conditionAware owner row)
    {x : String} :
    x ∈ row.organizationIds ↔
      ∃ (i : Nat) (t : Statement), policy.statements[i]? = some t ∧
        t.Counts .conditionAware ∧ t.NamesOrganization x := by
  rw [hrow.organizations]
  constructor
  · rintro ⟨t, ht, hcounts, -, hnamed⟩
    obtain ⟨i, hi⟩ := List.mem_iff_getElem?.mp ht
    exact ⟨i, t, hi, hcounts, hnamed⟩
  · rintro ⟨_, t, hi, hcounts, hnamed⟩
    exact ⟨t, List.mem_of_getElem? hi, hcounts, rfl, hnamed⟩

section ConditionAware

variable (hs : policy.statements[index]? = some s)
variable (hrow : policy.Reported .conditionAware owner row)
variable (hrestricted :
  (policy.withEntryAt index operator key values).Reported .conditionAware owner restricted)

include hs hrow hrestricted

/-- A new entry makes no statement public. -/
theorem publicStatementIds_subset_of_withEntryAt (hnew : s.LacksEntry operator key) :
    restricted.publicStatementIds ⊆ row.publicStatementIds := by
  intro name
  rw [hrestricted.publicStatementIds, hrow.publicStatementIds,
    exists_getElem?_withEntryAt_iff_or hs, exists_getElem?_iff_or hs]
  rintro ⟨hmode, ⟨hpublic, hid⟩ | hothers⟩
  · exact ⟨hmode, Or.inl ⟨Statement.isPublic_of_withEntry hnew hpublic, hid⟩⟩
  · exact ⟨hmode, Or.inr hothers⟩

/-- A new entry takes at most its own statement out of the public ones. -/
theorem mem_publicStatementIds_withEntryAt_or {name : String}
    (hname : name ∈ row.publicStatementIds) :
    name ∈ restricted.publicStatementIds ∨ name = s.id index := by
  rw [hrow.publicStatementIds, exists_getElem?_iff_or hs] at hname
  rw [hrestricted.publicStatementIds, exists_getElem?_withEntryAt_iff_or hs]
  obtain ⟨hmode, ⟨-, hid⟩ | hothers⟩ := hname
  · exact Or.inr hid
  · exact Or.inl ⟨hmode, Or.inr hothers⟩

/-- A new entry adds its values to the organizations if its statement counts and its key is one of
theirs. -/
theorem mem_organizationIds_withEntryAt_iff (hnew : s.LacksEntry operator key) {x : String} :
    x ∈ restricted.organizationIds ↔
      x ∈ row.organizationIds ∨
        (s.Counts .conditionAware ∧ HoldsOrganizations key ∧ x ∈ values.toList) := by
  rw [hrestricted.mem_organizationIds_iff_getElem?, hrow.mem_organizationIds_iff_getElem?,
    exists_getElem?_withEntryAt_iff_or hs, exists_getElem?_iff_or hs,
    Statement.namesOrganization_withEntry_iff hnew]
  have hcounts : (s.withEntry operator key values).Counts .conditionAware ↔
      s.Counts .conditionAware := Iff.rfl
  rw [hcounts, and_or_left, or_right_comm]

end ConditionAware

end Policy

namespace Evaluator

/-- A new entry in the condition of a statement can only restrict what the policy grants. -/
theorem evaluatePolicy_of_added_entry {policy : Policy} {index : Nat} {s : Statement}
    {operator key : String} (hs : policy.statements[index]? = some s)
    (hnew : s.LacksEntry operator key) (values : Values) (evaluator : Evaluator)
    (ownerText : String) :
    SameOutcome (fun row restricted =>
        (evaluator.mode = .legacy → row = restricted) ∧
        (evaluator.mode = .conditionAware →
          (restricted.isPublic = true → row.isPublic = true) ∧
          restricted.publicStatementIds ⊆ row.publicStatementIds ∧
          (∀ name ∈ row.publicStatementIds,
            name ∈ restricted.publicStatementIds ∨ name = s.id index) ∧
          row.SameNames restricted ∧
          ∀ x, x ∈ restricted.organizationIds ↔
            x ∈ row.organizationIds ∨ (s.Allows ∧ s.notAction = none ∧ HoldsOrganizations key ∧
              x ∈ values.toList)))
      (evaluator.evaluatePolicy policy ownerText)
      (evaluator.evaluatePolicy (policy.withEntryAt index operator key values) ownerText) := by
  by_cases hid : IsAccountId ownerText
  · rw [evaluatePolicy_of_isAccountId hid, evaluatePolicy_of_isAccountId hid]
    refine sameOutcome_of_error_iff (fun _ => Policy.evaluate_error_iff_of_withEntryAt)
      fun row restricted hok hrestrictedOk => ⟨fun hmode => ?_, fun hmode => ?_⟩
    · rw [hmode, Policy.evaluate_legacy_withEntryAt] at hok
      rw [hmode, hok] at hrestrictedOk
      exact Except.ok.inj hrestrictedOk
    · rw [hmode] at hok hrestrictedOk
      have hrow := Policy.evaluate_reported hok
      have hrestricted := Policy.evaluate_reported hrestrictedOk
      have hsubset := Policy.publicStatementIds_subset_of_withEntryAt hs hrow hrestricted hnew
      refine ⟨fun hpublic => ?_, hsubset,
        fun _ hname => Policy.mem_publicStatementIds_withEntryAt_or hs hrow hrestricted hname,
        Policy.sameNames_of_withEntryAt hok hrestrictedOk, fun x => ?_⟩
      · have hids := hrestricted.isPublic_iff_publicStatementIds.mp hpublic
        obtain ⟨name, hname⟩ := List.exists_mem_of_ne_nil _ hids
        exact hrow.isPublic_iff_publicStatementIds.mpr (List.ne_nil_of_mem (hsubset hname))
      · rw [Policy.mem_organizationIds_withEntryAt_iff hs hrow hrestricted hnew]
        simp only [Statement.Counts, reduceCtorEq, false_or, and_assoc]
  · rw [evaluatePolicy_of_not_isAccountId hid, evaluatePolicy_of_not_isAccountId hid]
    exact .error _

/-- An organization key beside another key of its operator takes the first statement out of the
public ones and leaves the second there; its values are collected. -/
theorem evaluatePolicy_of_added_organization :
    let s : Statement := {
      sid := some "Any"
      effectText := some "Allow"
      principal := some .any
      condition := some (Condition.empty.withEntry "StringEquals" "aws:SourceVpce" ⟨["vpce-1"]⟩) }
    let served : Statement := {
      effectText := some "Allow"
      principal := some (.named { service := ⟨["sns.amazonaws.com"]⟩ }) }
    let policy : Policy := { statements := [s, served] }
    let row : Evaluation := {
      principals := ["*"]
      accountIds := ["*"]
      services := ["sns.amazonaws.com"]
      isPublic := true
      publicStatementIds := ["Any", "Statement[2]"] }
    policy.statements[0]? = some s ∧ s.LacksEntry "StringEquals" "AWS:PrincipalOrgID" ∧
      Evaluator.evaluatePolicy ⟨.conditionAware⟩ policy "012345678901" = .ok row ∧
      ∃ restricted, Evaluator.evaluatePolicy ⟨.conditionAware⟩
          (policy.withEntryAt 0 "StringEquals" "AWS:PrincipalOrgID" ⟨["o-2", "o-1"]⟩)
          "012345678901" = .ok restricted ∧
        restricted.publicStatementIds ⊆ ["Any", "Statement[2]"] ∧
        ("Statement[2]" ∈ restricted.publicStatementIds ∨ "Statement[2]" = s.id 0) ∧
        row.SameNames restricted ∧ "o-1" ∈ restricted.organizationIds := by
  intro s served policy row
  have hs : policy.statements[0]? = some s := rfl
  have hnew : s.LacksEntry "StringEquals" "AWS:PrincipalOrgID" := by decide
  have hok : Evaluator.evaluatePolicy ⟨.conditionAware⟩ policy "012345678901" = .ok row := by
    decide +kernel
  refine ⟨hs, hnew, hok, ?_⟩
  have hsame := evaluatePolicy_of_added_entry hs hnew ⟨["o-2", "o-1"]⟩ ⟨.conditionAware⟩
    "012345678901"
  rw [hok] at hsame
  revert hsame
  generalize Evaluator.evaluatePolicy ⟨.conditionAware⟩
    (policy.withEntryAt 0 "StringEquals" "AWS:PrincipalOrgID" ⟨["o-2", "o-1"]⟩)
    "012345678901" = answer
  rintro ⟨-, haware⟩
  obtain ⟨-, hsubset, hkept, hnames, horganizations⟩ := haware rfl
  refine ⟨_, rfl, hsubset, hkept _ (by decide), hnames, (horganizations "o-1").mpr (Or.inr ?_)⟩
  exact ⟨rfl, rfl, Or.inl (by decide), by decide⟩

end Evaluator

end ResourcePolicy
