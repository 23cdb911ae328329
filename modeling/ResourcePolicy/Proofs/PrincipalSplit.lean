import Mathlib.Control.Monad.Basic
import ResourcePolicy.Proofs.Composition
import ResourcePolicy.Proofs.RowComparison

/-!
# Splitting a principal over two statements

A statement may be written as two that share out the values of its principal and are alike in
everything else. What the two grant together is what the one grants: a condition narrows both or
neither, a public value stays in one of them, and the first value that is refused is met at the same
point. Only ids made from positions can change, since the statements behind them stand one place
further down.
-/

namespace ResourcePolicy

/-- Of each type the values are those of the front followed by those of the back. -/
structure PrincipalTypes.SplitsInto (types front back : PrincipalTypes) : Prop where
  aws : types.aws.toList = front.aws.toList ++ back.aws.toList
  service : types.service.toList = front.service.toList ++ back.service.toList
  federated : types.federated.toList = front.federated.toList ++ back.federated.toList

namespace Statement

/-- The statement with a principal that names the given values, and otherwise as it is. -/
def naming (s : Statement) (types : PrincipalTypes) : Statement :=
  { s with principal := some (.named types) }

/-- The statement names the given values in its principal, and they are split into a front and a
back part. -/
structure Splits (s : Statement) (types front back : PrincipalTypes) : Prop where
  principal : s.principal = some (.named types)
  split : types.SplitsInto front back

variable {s : Statement} {types front back : PrincipalTypes} {mode : Mode}

namespace Splits

theorem namedTypes_eq (hs : s.Splits types front back) : s.namedTypes = types := by
  rw [namedTypes, hs.principal]

theorem awsValues_eq (hs : s.Splits types front back) :
    s.awsValues = (s.naming front).awsValues ++ (s.naming back).awsValues := by
  rw [awsValues, hs.namedTypes_eq]
  exact hs.split.aws

theorem services_eq (hs : s.Splits types front back) :
    s.services = (s.naming front).services ++ (s.naming back).services := by
  rw [services, hs.namedTypes_eq]
  exact hs.split.service

theorem federated_eq (hs : s.Splits types front back) :
    s.federated = (s.naming front).federated ++ (s.naming back).federated := by
  rw [federated, hs.namedTypes_eq]
  exact hs.split.federated

/-- The statement names anyone iff one of the parts does. -/
theorem namesAnyone_iff (hs : s.Splits types front back) :
    s.NamesAnyone ↔ (s.naming front).NamesAnyone ∨ (s.naming back).NamesAnyone := by
  unfold NamesAnyone
  rw [hs.awsValues_eq, hs.services_eq, List.mem_append, ne_eq, List.append_eq_nil_iff, not_and_or,
    or_or_or_comm]

/-- The statement is public iff one of the parts is: its condition narrows both or neither. -/
theorem isPublicUnder_iff (hs : s.Splits types front back) :
    s.IsPublicUnder mode ↔
      (s.naming front).IsPublicUnder mode ∨ (s.naming back).IsPublicUnder mode := by
  cases mode with
  | legacy =>
    unfold IsPublicUnder
    rw [hs.namesAnyone_iff, and_or_left]
    exact Iff.rfl
  | conditionAware =>
    unfold IsPublicUnder IsPublic
    rw [hs.namesAnyone_iff]
    constructor
    · rintro ⟨hallows, hnot | ⟨hnot, hfront | hback, hnarrowed⟩⟩
      · exact Or.inl ⟨hallows, Or.inl hnot⟩
      · exact Or.inl ⟨hallows, Or.inr ⟨hnot, hfront, hnarrowed⟩⟩
      · exact Or.inr ⟨hallows, Or.inr ⟨hnot, hback, hnarrowed⟩⟩
    · rintro (⟨hallows, hnot | ⟨hnot, hfront, hnarrowed⟩⟩ |
        ⟨hallows, hnot | ⟨hnot, hback, hnarrowed⟩⟩)
      · exact ⟨hallows, Or.inl hnot⟩
      · exact ⟨hallows, Or.inr ⟨hnot, Or.inl hfront, hnarrowed⟩⟩
      · exact ⟨hallows, Or.inl hnot⟩
      · exact ⟨hallows, Or.inr ⟨hnot, Or.inr hback, hnarrowed⟩⟩

/-- The statement fails over the front part, or else over the back part. -/
theorem hasError_iff (hs : s.Splits types front back) {error : PolicyError} :
    s.HasError mode error ↔
      FirstError (HasError mode) [s.naming front, s.naming back] error := by
  rw [firstError_cons, firstError_singleton]
  -- Whether a statement counts does not depend on its principal, so the parts count when it does.
  by_cases hcounts : s.Counts mode
  · have hfront : (s.naming front).Counts mode := hcounts
    have hback : (s.naming back).Counts mode := hcounts
    simp only [hasError_iff_of_counts hcounts, hasError_iff_of_counts hfront,
      hasError_iff_of_counts hback]
    rw [hs.awsValues_eq, firstError_append]
  · have hfront : ¬ (s.naming front).Counts mode := hcounts
    have hback : ¬ (s.naming back).Counts mode := hcounts
    rw [hasError_iff_of_not_counts hcounts, hasError_iff_of_not_counts hfront,
      hasError_iff_of_not_counts hback]
    exact (or_iff_left_of_imp And.right).symm

end Splits

end Statement

namespace Policy

variable {policy split : Policy} {before after : List Statement} {s : Statement}
variable {types front back : PrincipalTypes} {mode : Mode} {owner : AccountId}
variable {row splitRow : Evaluation}

section Split

variable (hs : s.Splits types front back) (hpolicy : policy.statements = before ++ s :: after)
variable (hsplit : split.statements = before ++ s.naming front :: s.naming back :: after)

include hpolicy hsplit

/-- What one of the parts has iff the statement has it, some statement has in both policies or in
neither. -/
theorem exists_mem_split_iff {P : Statement → Prop}
    (hP : P s ↔ P (s.naming front) ∨ P (s.naming back)) :
    (∃ t ∈ policy.statements, P t) ↔ ∃ t ∈ split.statements, P t := by
  have hparts : split.statements = before ++ ([s.naming front, s.naming back] ++ after) := hsplit
  rw [hpolicy, hparts]
  refine exists_mem_replace (hP.trans ?_)
  simp only [List.mem_cons, List.not_mem_nil, or_false, exists_eq_or_imp, exists_eq_left]

include hs

/-- The policies fail alike. -/
theorem evaluate_error_iff_of_split {error : PolicyError} :
    policy.evaluate mode owner = .error error ↔ split.evaluate mode owner = .error error := by
  have hparts : split.statements = before ++ ([s.naming front, s.naming back] ++ after) := hsplit
  rw [evaluate_eq_error_iff_hasError, evaluate_eq_error_iff_hasError, hpolicy, hparts]
  exact firstError_replace fun _ => hs.hasError_iff

/-- The policies name the same values. -/
theorem namesAlike_of_split : policy.NamesAlike mode split mode := by
  refine ⟨fun x => ?_, fun x => ?_, fun x => ?_⟩ <;>
    refine exists_mem_split_iff hpolicy hsplit ?_
  · rw [hs.awsValues_eq, List.mem_append, and_or_left]
    exact Iff.rfl
  · rw [hs.services_eq, List.mem_append, and_or_left]
    exact Iff.rfl
  · rw [hs.federated_eq, List.mem_append, and_or_left]
    exact Iff.rfl

/-- The rows report the same grants. -/
theorem sameGrants_of_split (hok : policy.evaluate mode owner = .ok row)
    (hsplitOk : split.evaluate mode owner = .ok splitRow) : row.SameGrants splitRow := by
  refine (namesAlike_of_split hs hpolicy hsplit).sameGrants (evaluate_reported hok)
    (evaluate_ascends hok) (evaluate_ascends hsplitOk) (evaluate_reported hsplitOk)
    (fun x => ?_) ?_
  · exact exists_mem_split_iff hpolicy hsplit or_self_iff.symm
  · exact exists_mem_split_iff hpolicy hsplit hs.isPublicUnder_iff

/-- The same ids are reported if the statement has a name of its own and so have the public ones
behind it. -/
theorem publicStatementIds_of_split (hsid : ∃ sid, s.sid = some sid ∧ sid ≠ "")
    (hafter : ∀ t ∈ after, t.IsPublicUnder mode → ∃ sid, t.sid = some sid ∧ sid ≠ "")
    (hok : policy.evaluate mode owner = .ok row)
    (hsplitOk : split.evaluate mode owner = .ok splitRow) :
    row.publicStatementIds = splitRow.publicStatementIds := by
  let head : Policy := { statements := before }
  let rest : Policy := { statements := s :: after }
  let splitRest : Policy := { statements := s.naming front :: s.naming back :: after }
  have hrest : ∀ t ∈ rest.statements, t.IsPublicUnder mode → ∃ sid, t.sid = some sid ∧ sid ≠ "" :=
    List.forall_mem_cons.mpr ⟨fun _ => hsid, hafter⟩
  have hsplitRest : ∀ t ∈ splitRest.statements, t.IsPublicUnder mode →
      ∃ sid, t.sid = some sid ∧ sid ≠ "" :=
    List.forall_mem_cons.mpr ⟨fun _ => hsid, List.forall_mem_cons.mpr ⟨fun _ => hsid, hafter⟩⟩
  have hnames : ∀ name, (∃ t ∈ rest.statements, t.IsPublicUnder mode ∧ t.sid = some name) ↔
      ∃ t ∈ splitRest.statements, t.IsPublicUnder mode ∧ t.sid = some name := by
    intro name
    refine @exists_mem_split_iff rest splitRest [] after s front back rfl rfl _ ?_
    rw [hs.isPublicUnder_iff, or_and_right]
    exact Iff.rfl
  have hwhole : policy.statements = head.statements ++ rest.statements := hpolicy
  have hsplitWhole : split.statements = head.statements ++ splitRest.statements := hsplit
  refine (evaluate_ascends hok).publicStatementIds.eq_of_mem_iff
    (evaluate_ascends hsplitOk).publicStatementIds fun name => ?_
  rw [(evaluate_reported hok).mem_publicStatementIds_iff_reportsFrom,
    (evaluate_reported hsplitOk).mem_publicStatementIds_iff_reportsFrom,
    reportsFrom_append hwhole, reportsFrom_append hsplitWhole, reportsFrom_iff_exists_sid hrest,
    reportsFrom_iff_exists_sid hsplitRest, hnames]

end Split

end Policy

namespace Evaluator

/-- A policy and the one in which the principal of a statement is split over two fail alike or grant
the same; where no id behind the split is made from a position, they have the same row. -/
theorem evaluatePolicy_of_split_principal {policy split : Policy} {before after : List Statement}
    {s : Statement} {types front back : PrincipalTypes} (hs : s.Splits types front back)
    (hpolicy : policy.statements = before ++ s :: after)
    (hsplit : split.statements = before ++ s.naming front :: s.naming back :: after)
    (evaluator : Evaluator) (ownerText : String) :
    SameOutcome (fun row splitRow => row.SameGrants splitRow ∧
        ((evaluator.mode = .legacy ∨ ((∃ sid, s.sid = some sid ∧ sid ≠ "") ∧
            ∀ t ∈ after, t.IsPublic → ∃ sid, t.sid = some sid ∧ sid ≠ "")) →
          row = splitRow))
      (evaluator.evaluatePolicy policy ownerText) (evaluator.evaluatePolicy split ownerText) := by
  obtain ⟨mode⟩ := evaluator
  by_cases hid : IsAccountId ownerText
  · rw [evaluatePolicy_of_isAccountId hid, evaluatePolicy_of_isAccountId hid]
    refine sameOutcome_of_error_iff
      (fun _ => Policy.evaluate_error_iff_of_split hs hpolicy hsplit)
      fun row splitRow hok hsplitOk => ?_
    have hgrants := Policy.sameGrants_of_split hs hpolicy hsplit hok hsplitOk
    refine ⟨hgrants, fun hnames => ?_⟩
    have hids : row.publicStatementIds = splitRow.publicStatementIds := by
      cases mode with
      | legacy =>
        rw [(Policy.evaluate_reported hok).publicStatementIds_of_legacy,
          (Policy.evaluate_reported hsplitOk).publicStatementIds_of_legacy]
      | conditionAware =>
        obtain ⟨hsid, hafter⟩ := hnames.resolve_left (by decide)
        have hpublic : ∀ t ∈ after, t.IsPublicUnder .conditionAware →
            ∃ sid, t.sid = some sid ∧ sid ≠ "" := hafter
        exact Policy.publicStatementIds_of_split hs hpolicy hsplit hsid hpublic hok hsplitOk
    exact hgrants.eq hids (Policy.evaluate_leavesReserved hok)
      (Policy.evaluate_leavesReserved hsplitOk)
  · rw [evaluatePolicy_of_not_isAccountId hid, evaluatePolicy_of_not_isAccountId hid]
    exact .error _

/-- A topic that anyone and a service may use is as public when those two are named apart from the
account beside them; the statement behind it has no name but is not public. -/
theorem evaluatePolicy_of_split_principal_of_topic :
    let types : PrincipalTypes :=
      { aws := ⟨["111122223333", "*"]⟩, service := ⟨["sns.amazonaws.com"]⟩ }
    let front : PrincipalTypes := { aws := ⟨["111122223333"]⟩ }
    let back : PrincipalTypes := { aws := ⟨["*"]⟩, service := ⟨["sns.amazonaws.com"]⟩ }
    let denying : Statement := { effectText := some "Deny" }
    let topic : Statement :=
      { sid := some "Topic", effectText := some "Allow", principal := some (.named types) }
    let narrowed : Statement := {
      effectText := some "Allow"
      principal := some .any
      condition := some (Condition.empty.withEntry "StringEquals" "aws:PrincipalOrgID" ⟨["o-1"]⟩) }
    let row : Evaluation := {
      organizationIds := ["o-1"]
      principals := ["*", "111122223333"]
      accountIds := ["*", "111122223333"]
      services := ["sns.amazonaws.com"]
      isPublic := true
      publicStatementIds := ["Topic"] }
    topic.Splits types front back ∧ ¬ narrowed.IsPublic ∧
      Evaluator.evaluatePolicy ⟨.conditionAware⟩
        { statements := [denying, topic, narrowed] } "012345678901" = .ok row ∧
      Evaluator.evaluatePolicy ⟨.conditionAware⟩
        { statements := [denying, topic.naming front, topic.naming back, narrowed] }
        "012345678901" = .ok row := by
  intro types front back denying topic narrowed row
  let policy : Policy := { statements := [denying, topic, narrowed] }
  let split : Policy :=
    { statements := [denying, topic.naming front, topic.naming back, narrowed] }
  have hs : topic.Splits types front back := ⟨rfl, rfl, rfl, rfl⟩
  have hpolicy : policy.statements = [denying] ++ topic :: [narrowed] := rfl
  have hsplit : split.statements =
      [denying] ++ topic.naming front :: topic.naming back :: [narrowed] := rfl
  have hnarrowed : ¬ narrowed.IsPublic := by decide
  have hok : Evaluator.evaluatePolicy ⟨.conditionAware⟩ policy "012345678901" = .ok row := by
    decide +kernel
  refine ⟨hs, hnarrowed, hok, ?_⟩
  have hsame := evaluatePolicy_of_split_principal hs hpolicy hsplit ⟨.conditionAware⟩
    "012345678901"
  rw [hok] at hsame
  revert hsame
  generalize Evaluator.evaluatePolicy ⟨.conditionAware⟩ split "012345678901" = answer
  rintro ⟨-, hrows⟩
  have hnames : ∀ t ∈ [narrowed], t.IsPublic → ∃ sid, t.sid = some sid ∧ sid ≠ "" :=
    List.forall_mem_singleton.mpr fun hpublic => absurd hpublic hnarrowed
  rw [hrows (Or.inr ⟨⟨"Topic", rfl, by decide⟩, hnames⟩)]

end Evaluator

end ResourcePolicy
