import ResourcePolicy.Proofs.Failures
import ResourcePolicy.Proofs.RowComparison

/-!
# The two sets of rules compared

The legacy rules look at the principal of every statement that allows, the condition-aware rules
only if the statement does not exclude actions. So the legacy rules run into every error that the
condition-aware rules run into, and they name everyone whom those name. Where no statement that
allows excludes actions, the rules part only over the conditions, which may narrow a public grant.
-/

namespace ResourcePolicy

namespace Statement

variable {s : Statement} {mode otherMode : Mode} {error : PolicyError}

/-- A statement that counts under some rules counts under the legacy rules. -/
theorem Counts.legacy (hcounts : s.Counts mode) : s.Counts .legacy := ⟨hcounts.1, Or.inl rfl⟩

/-- A statement that counts under the legacy rules counts under any rules unless it excludes
actions. -/
theorem Counts.of_legacy (hcounts : s.Counts .legacy) (hnot : s.notAction = none) :
    s.Counts mode := ⟨hcounts.1, Or.inr hnot⟩

/-- An error of a statement is one under any rules by which the statement counts too. -/
theorem HasError.of_counts (herror : s.HasError mode error)
    (hcounts : s.Counts mode → s.Counts otherMode) : s.HasError otherMode error := by
  cases herror with
  | effect hallows hdenies => exact .effect hallows hdenies
  | value front value back hcounted hvalues hfront hvalue =>
    exact .value front value back (hcounts hcounted) hvalues hfront hvalue

/-- An error under the legacy rules only is over an AWS value, in a statement that allows and
excludes actions. -/
theorem HasError.of_legacy_only (herror : s.HasError .legacy error)
    (hnone : ¬ s.HasError .conditionAware error) :
    s.Allows ∧ s.notAction ≠ none ∧
      ∃ value ∈ s.awsValues, ¬ AwsPrincipal.IsAccepted value ∧ error = .unparseableArn value := by
  have hnot : s.notAction ≠ none := by
    intro habsent
    exact hnone (herror.of_counts fun hcounts => hcounts.of_legacy habsent)
  cases herror with
  | effect hallows hdenies => exact absurd (.effect hallows hdenies) hnone
  | value front value back hcounts hvalues _ hvalue =>
    have hmem : value ∈ s.awsValues := by
      rw [hvalues]
      exact List.mem_append_cons_self
    exact ⟨hcounts.1, hnot, value, hmem, hvalue, rfl⟩

/-- A statement that is public under the condition-aware rules is public under the legacy rules
unless it excludes actions. -/
theorem IsPublic.legacy (hpublic : s.IsPublic) (hnot : s.notAction = none) :
    s.IsPublicUnder .legacy := by
  obtain ⟨hallows, hexcludes | ⟨-, hanyone, -⟩⟩ := hpublic
  · exact absurd hnot hexcludes
  · exact ⟨hallows, hanyone⟩

/-- A statement that is public under the legacy rules is public under the condition-aware rules
unless it is narrowed. -/
theorem isPublic_of_legacy (hpublic : s.IsPublicUnder .legacy) (hnarrowed : ¬ s.IsNarrowed) :
    s.IsPublic := by
  obtain ⟨hallows, hanyone⟩ := hpublic
  by_cases hnot : s.notAction = none
  · exact ⟨hallows, Or.inr ⟨hnot, hanyone, hnarrowed⟩⟩
  · exact ⟨hallows, Or.inl hnot⟩

end Statement

namespace Policy

variable {policy : Policy} {mode otherMode : Mode} {owner : AccountId} {error : PolicyError}
variable {row legacyRow : Evaluation}

/-- The statement is the first one of the policy with an error, and has this error. -/
def Raises (policy : Policy) (mode : Mode) (s : Statement) (error : PolicyError) : Prop :=
  ∃ front back, policy.statements = front ++ s :: back ∧
    (∀ t ∈ front, ∀ e, ¬ t.HasError mode e) ∧ s.HasError mode error

/-- An evaluation fails with the error that some statement raises. -/
theorem evaluate_eq_error_iff_exists_raises :
    policy.evaluate mode owner = .error error ↔ ∃ s, policy.Raises mode s error := by
  rw [evaluate_eq_error_iff_hasError]
  constructor
  · rintro ⟨front, s, back, hstatements, hfront, herror⟩
    exact ⟨s, front, back, hstatements, hfront, herror⟩
  · rintro ⟨s, front, back, hstatements, hfront, herror⟩
    exact ⟨front, s, back, hstatements, hfront, herror⟩

/-- The statement that raises an error is one of the policy. -/
theorem Raises.mem {s : Statement} (hraises : policy.Raises mode s error) :
    s ∈ policy.statements := by
  obtain ⟨front, back, hstatements, -⟩ := hraises
  rw [hstatements]
  exact List.mem_append_cons_self

/-- A policy names no more under rules by which no more statements count. -/
theorem namesWithin_of_counts
    (hcounts : ∀ s ∈ policy.statements, s.Counts mode → s.Counts otherMode) :
    policy.NamesWithin mode policy otherMode := by
  have hnames : ∀ (values : Statement → List String) (x : String),
      policy.Names mode values x → policy.Names otherMode values x := by
    rintro values x ⟨s, hs, hcounted, hx⟩
    exact ⟨s, hs, hcounts s hs hcounted, hx⟩
  exact ⟨hnames _, hnames _, hnames _⟩

/-- A policy that is evaluated under the legacy rules is evaluated under any rules. -/
theorem exists_evaluate_of_legacy (hlegacy : ∃ row, policy.evaluate .legacy owner = .ok row) :
    ∃ row, policy.evaluate mode owner = .ok row := by
  rw [exists_evaluate_iff] at hlegacy ⊢
  intro s hs e herror
  exact hlegacy s hs e (herror.of_counts Statement.Counts.legacy)

/-- A policy that fails under the legacy rules only does so over an AWS value of a statement that
allows and excludes actions. -/
theorem exists_raises_of_legacy_only (hok : policy.evaluate .conditionAware owner = .ok row)
    (herror : policy.evaluate .legacy owner = .error error) :
    ∃ s value, policy.Raises .legacy s error ∧ s.Allows ∧ s.notAction ≠ none ∧
      value ∈ s.awsValues ∧ ¬ AwsPrincipal.IsAccepted value ∧ error = .unparseableArn value := by
  obtain ⟨s, hraises⟩ := evaluate_eq_error_iff_exists_raises.mp herror
  have hnone : ¬ s.HasError .conditionAware error :=
    exists_evaluate_iff.mp ⟨row, hok⟩ s hraises.mem error
  obtain ⟨front, back, hstatements, hfront, hs⟩ := hraises
  obtain ⟨hallows, hnot, value, hvalue, hrefused, heq⟩ := hs.of_legacy_only hnone
  exact ⟨s, value, ⟨front, back, hstatements, hfront, hs⟩, hallows, hnot, hvalue, hrefused, heq⟩

/-- Where only the condition-aware rules find the policy public, a statement that allows excludes
actions. -/
theorem exists_notAction_of_isPublic (hrow : policy.Reported .conditionAware owner row)
    (hlegacy : policy.Reported .legacy owner legacyRow) (hpublic : row.isPublic = true)
    (hnotPublic : legacyRow.isPublic = false) :
    ∃ s ∈ policy.statements, s.Allows ∧ s.notAction ≠ none := by
  obtain ⟨s, hs, hs'⟩ := hrow.isPublic.mp hpublic
  refine ⟨s, hs, hs'.1, fun hnot => ?_⟩
  have hlegacyPublic := hlegacy.isPublic.mpr ⟨s, hs, Statement.IsPublic.legacy hs' hnot⟩
  rw [hlegacyPublic] at hnotPublic
  cases hnotPublic

section NoExclusion

variable (hnone : ∀ s ∈ policy.statements, s.Allows → s.notAction = none)

include hnone

/-- Where no statement that allows excludes actions, the same statements count under all rules. -/
theorem counts_iff_of_no_exclusion {s : Statement} (hs : s ∈ policy.statements) :
    s.Counts mode ↔ s.Counts otherMode :=
  ⟨fun hcounts => hcounts.legacy.of_legacy (hnone s hs hcounts.1),
    fun hcounts => hcounts.legacy.of_legacy (hnone s hs hcounts.1)⟩

/-- Where no statement that allows excludes actions, the policy fails alike under all rules. -/
theorem evaluate_error_iff_of_no_exclusion :
    policy.evaluate mode owner = .error error ↔ policy.evaluate otherMode owner = .error error := by
  rw [evaluate_eq_error_iff_hasError, evaluate_eq_error_iff_hasError]
  refine firstError_congr fun s hs e => ?_
  have hcounts : s.Counts mode ↔ s.Counts otherMode := counts_iff_of_no_exclusion hnone hs
  exact ⟨fun herror => herror.of_counts hcounts.mp, fun herror => herror.of_counts hcounts.mpr⟩

/-- Where no statement that allows excludes actions, the rows name the same. -/
theorem sameNames_of_no_exclusion (hok : policy.evaluate mode owner = .ok row)
    (hlegacy : policy.evaluate otherMode owner = .ok legacyRow) : row.SameNames legacyRow := by
  have hrow := evaluate_reported hok
  have hlegacyRow := evaluate_reported hlegacy
  have hforth : policy.NamesWithin mode policy otherMode :=
    namesWithin_of_counts fun s hs => (counts_iff_of_no_exclusion hnone hs).mp
  have hback : policy.NamesWithin otherMode policy mode :=
    namesWithin_of_counts fun s hs => (counts_iff_of_no_exclusion hnone hs).mp
  exact (hforth.rows hrow hlegacyRow).antisymm (hback.rows hlegacyRow hrow)
    (evaluate_ascends hok) (evaluate_ascends hlegacy)

/-- Where no statement that allows excludes actions, a policy that is public under the
condition-aware rules is public under the legacy rules. -/
theorem isPublic_legacy_of_no_exclusion (hrow : policy.Reported .conditionAware owner row)
    (hlegacy : policy.Reported .legacy owner legacyRow) (hpublic : row.isPublic = true) :
    legacyRow.isPublic = true := by
  obtain ⟨s, hs, hs'⟩ := hrow.isPublic.mp hpublic
  exact hlegacy.isPublic.mpr ⟨s, hs, Statement.IsPublic.legacy hs' (hnone s hs hs'.1)⟩

/-- Where no statement that allows excludes actions or is narrowed, the flags are equal. -/
theorem isPublic_eq_of_no_exclusion (hrow : policy.Reported .conditionAware owner row)
    (hlegacy : policy.Reported .legacy owner legacyRow)
    (hnarrowed : ∀ s ∈ policy.statements, s.Allows → ¬ s.IsNarrowed) :
    row.isPublic = legacyRow.isPublic := by
  rw [Bool.eq_iff_iff]
  refine ⟨isPublic_legacy_of_no_exclusion hnone hrow hlegacy, fun hpublic => ?_⟩
  obtain ⟨s, hs, hs'⟩ := hlegacy.isPublic.mp hpublic
  exact hrow.isPublic.mpr ⟨s, hs, Statement.isPublic_of_legacy hs' (hnarrowed s hs hs'.1)⟩

end NoExclusion

end Policy

namespace Evaluator

/-- What the two sets of rules make of one policy. -/
theorem evaluatePolicy_under_both_rules (policy : Policy) (ownerText : String) :
    let aware := Evaluator.evaluatePolicy ⟨.conditionAware⟩ policy ownerText
    let legacy := Evaluator.evaluatePolicy ⟨.legacy⟩ policy ownerText
    -- What the legacy rules evaluate, the condition-aware rules evaluate too.
    ((∃ row, legacy = .ok row) → ∃ row, aware = .ok row) ∧
    -- The converse fails only over a value that the condition-aware rules do not look at.
    (∀ row error, aware = .ok row → legacy = .error error →
      ∃ s value, policy.Raises .legacy s error ∧ s.Allows ∧ s.notAction ≠ none ∧
        value ∈ s.awsValues ∧ ¬ AwsPrincipal.IsAccepted value ∧ error = .unparseableArn value) ∧
    -- The legacy rules name more, and they neither collect organizations nor report statements.
    (∀ row legacyRow, aware = .ok row → legacy = .ok legacyRow →
      row.NamesWithin legacyRow ∧ legacyRow.organizationIds = [] ∧
      legacyRow.publicStatementIds = [] ∧
      (row.isPublic = true → legacyRow.isPublic = false →
        ∃ s ∈ policy.statements, s.Allows ∧ s.notAction ≠ none)) ∧
    -- Without an exclusion of actions the rules differ in what the conditions narrow.
    ((∀ s ∈ policy.statements, s.Allows → s.notAction = none) →
      SameOutcome (fun row legacyRow => row.SameNames legacyRow ∧
        (row.isPublic = true → legacyRow.isPublic = true) ∧
        ((∀ s ∈ policy.statements, s.Allows → ¬ s.IsNarrowed) →
          row.isPublic = legacyRow.isPublic)) aware legacy) := by
  intro aware legacy
  by_cases hid : IsAccountId ownerText
  · have haware : aware = policy.evaluate .conditionAware ⟨ownerText, hid⟩ :=
      evaluatePolicy_of_isAccountId hid
    have hlegacy : legacy = policy.evaluate .legacy ⟨ownerText, hid⟩ :=
      evaluatePolicy_of_isAccountId hid
    rw [haware, hlegacy]
    refine ⟨Policy.exists_evaluate_of_legacy, fun row error => Policy.exists_raises_of_legacy_only,
      fun row legacyRow hok hlegacyOk => ?_, fun hnone => ?_⟩
    · have hrow := Policy.evaluate_reported hok
      have hlegacyRow := Policy.evaluate_reported hlegacyOk
      have hwithin : policy.NamesWithin .conditionAware policy .legacy :=
        Policy.namesWithin_of_counts fun s _ => Statement.Counts.legacy
      exact ⟨hwithin.rows hrow hlegacyRow, hlegacyRow.organizationIds_of_legacy,
        hlegacyRow.publicStatementIds_of_legacy,
        Policy.exists_notAction_of_isPublic hrow hlegacyRow⟩
    · refine sameOutcome_of_error_iff (fun e => Policy.evaluate_error_iff_of_no_exclusion hnone)
        fun row legacyRow hok hlegacyOk => ?_
      have hrow := Policy.evaluate_reported hok
      have hlegacyRow := Policy.evaluate_reported hlegacyOk
      exact ⟨Policy.sameNames_of_no_exclusion hnone hok hlegacyOk,
        Policy.isPublic_legacy_of_no_exclusion hnone hrow hlegacyRow,
        Policy.isPublic_eq_of_no_exclusion hnone hrow hlegacyRow⟩
  · have haware : aware = .error (.invalidAccountId ownerText) :=
      evaluatePolicy_of_not_isAccountId hid
    have hlegacy : legacy = .error (.invalidAccountId ownerText) :=
      evaluatePolicy_of_not_isAccountId hid
    rw [haware, hlegacy]
    simp only [reduceCtorEq, exists_false, false_implies, implies_true, true_and]
    exact fun _ => .error _

/-- A bad value under an exclusion of actions fails the legacy rules only; a wildcard that is
narrowed is named under both rules and public under the legacy rules only. -/
theorem evaluatePolicy_under_both_rules_of_two :
    let excluding : Policy := { statements := [{
      effectText := some "Allow"
      principal := some (.named { aws := ⟨["x"]⟩ })
      notAction := some ⟨["s3:GetObject"]⟩ }] }
    let narrowed : Policy := { statements := [{
      effectText := some "Allow"
      principal := some .any
      condition := some (Condition.empty.withEntry "StringEquals" "aws:SourceAccount"
        ⟨["111122223333"]⟩) }] }
    let legacyRow : Evaluation := { principals := ["*"], accountIds := ["*"], isPublic := true }
    Evaluator.evaluatePolicy ⟨.conditionAware⟩ excluding "012345678901" =
        .ok { isPublic := true, publicStatementIds := ["Statement[1]"] } ∧
      (∃ s value, excluding.Raises .legacy s (.unparseableArn "x") ∧ s.notAction ≠ none ∧
        value ∈ s.awsValues ∧ ¬ AwsPrincipal.IsAccepted value) ∧
      Evaluator.evaluatePolicy ⟨.legacy⟩ narrowed "012345678901" = .ok legacyRow ∧
      ∃ row, Evaluator.evaluatePolicy ⟨.conditionAware⟩ narrowed "012345678901" = .ok row ∧
        row.SameNames legacyRow := by
  intro excluding narrowed legacyRow
  have haware : Evaluator.evaluatePolicy ⟨.conditionAware⟩ excluding "012345678901" =
      .ok { isPublic := true, publicStatementIds := ["Statement[1]"] } := by decide +kernel
  have hfails : Evaluator.evaluatePolicy ⟨.legacy⟩ excluding "012345678901" =
      .error (.unparseableArn "x") := by decide +kernel
  have hlegacy : Evaluator.evaluatePolicy ⟨.legacy⟩ narrowed "012345678901" = .ok legacyRow := by
    decide +kernel
  refine ⟨haware, ?_, hlegacy, ?_⟩
  · obtain ⟨-, hconverse, -⟩ := evaluatePolicy_under_both_rules excluding "012345678901"
    obtain ⟨s, value, hraises, -, hnot, hvalue, hrefused, -⟩ := hconverse _ _ haware hfails
    exact ⟨s, value, hraises, hnot, hvalue, hrefused⟩
  · obtain ⟨hsuccess, -, -, hno⟩ := evaluatePolicy_under_both_rules narrowed "012345678901"
    obtain ⟨row, hrow⟩ := hsuccess ⟨legacyRow, hlegacy⟩
    have hnone : ∀ s ∈ narrowed.statements, s.Allows → s.notAction = none := by
      intro s hs _
      rw [List.mem_singleton.mp hs]
    have hsame := hno hnone
    rw [hrow, hlegacy] at hsame
    cases hsame with
    | ok hrows => exact ⟨row, hrow, hrows.1⟩

end Evaluator

end ResourcePolicy
