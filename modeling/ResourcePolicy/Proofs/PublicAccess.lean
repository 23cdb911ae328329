import Mathlib.Control.Monad.Basic
import ResourcePolicy.Proofs.PolicyRow

/-!
# Public access under the condition-aware rules

A policy is public exactly when one of its statements is, and then the ids of just those
statements are reported, in order and without repetition. A statement is reported under its own
id, or under its position if it has none.
-/

namespace ResourcePolicy

namespace Statement

/-- The name under which the statement at an index is reported: its own unless that is absent or
empty, else its position counted from one. -/
def ReportedAs (s : Statement) (index : Nat) (name : String) : Prop :=
  (s.sid = some name ∧ name ≠ "") ∨
    ((s.sid = none ∨ s.sid = some "") ∧ name = "Statement[" ++ toString (index + 1) ++ "]")

/-- A statement is reported under its id and no other name. -/
theorem eq_id_iff {s : Statement} {index : Nat} {name : String} :
    name = s.id index ↔ s.ReportedAs index name := by
  unfold Statement.id ReportedAs
  cases s.sid with
  | none => simp [positionId]
  | some sid =>
    by_cases hempty : sid = ""
    · subst hempty
      simp [positionId]
    · simp only [String.isEmpty_iff, hempty, if_false, Option.some.injEq, reduceCtorEq, or_self,
        false_and, or_false]
      constructor
      · rintro rfl
        exact ⟨rfl, hempty⟩
      · rintro ⟨rfl, -⟩
        rfl

end Statement

namespace Evaluator

/-- The public flag and the public statements, exactly. -/
theorem isPublic_and_publicStatementIds_iff {policy : Policy} {ownerText : String}
    {row : Evaluation}
    (hok : Evaluator.evaluatePolicy ⟨.conditionAware⟩ policy ownerText = .ok row) :
    (row.isPublic = true ↔ ∃ s ∈ policy.statements, s.IsPublic) ∧
    Ascending id row.publicStatementIds ∧
    ∀ name, name ∈ row.publicStatementIds ↔
      ∃ (index : Nat) (s : Statement), policy.statements[index]? = some s ∧ s.IsPublic ∧
        s.ReportedAs index name := by
  obtain ⟨hascends, _, -, hreported⟩ := evaluatePolicy_reported hok
  refine ⟨hreported.isPublic, hascends.publicStatementIds, fun name => ?_⟩
  rw [hreported.publicStatementIds]
  simp only [Statement.eq_id_iff, true_and]
  rfl

/-- A wildcard under an operator that passes on a missing key is public, and so are an exclusion of
no actions and a service under a key that is not trusted; a service that is pinned to an account by
its ARN is not, in whatever case the key is written. -/
theorem isPublic_and_publicStatementIds_of_four :
    let optional : Statement := {
      sid := some ""
      effectText := some "Allow"
      principal := some .any
      condition := some (Condition.empty.withEntry "StringEqualsIfExists" "aws:SourceAccount"
        ⟨["111122223333"]⟩) }
    let excluding : Statement :=
      { sid := some "Any", effectText := some "Allow", notAction := some ⟨[]⟩ }
    let pinned : Statement := {
      sid := some "Pinned"
      effectText := some "Allow"
      principal := some (.named { service := ⟨["sns.amazonaws.com"]⟩ })
      condition := some (Condition.empty.withEntry "ArnLike" "AWS:SourceArn"
        ⟨["arn:aws:sns:us-east-1:111122223333:topic"]⟩) }
    let untrusted : Statement := {
      sid := some "Endpoint"
      effectText := some "Allow"
      principal := some (.named { service := ⟨["sqs.amazonaws.com"]⟩ })
      condition := some (Condition.empty.withEntry "StringEquals" "aws:SourceVpce"
        ⟨["vpce-1a2b3c4d"]⟩) }
    let row : Evaluation := {
      principals := ["*"]
      accountIds := ["*"]
      services := ["sns.amazonaws.com", "sqs.amazonaws.com"]
      isPublic := true
      publicStatementIds := ["Any", "Endpoint", "Statement[1]"] }
    Evaluator.evaluatePolicy ⟨.conditionAware⟩
        { statements := [optional, excluding, pinned, untrusted] } "012345678901" = .ok row ∧
      optional.IsPublic ∧ excluding.IsPublic ∧ ¬ pinned.IsPublic ∧ untrusted.IsPublic ∧
      row.isPublic = true ∧ Ascending id row.publicStatementIds ∧
      "Statement[1]" ∈ row.publicStatementIds ∧ "Endpoint" ∈ row.publicStatementIds := by
  intro optional excluding pinned untrusted row
  have hok : Evaluator.evaluatePolicy ⟨.conditionAware⟩
      { statements := [optional, excluding, pinned, untrusted] } "012345678901" = .ok row := by
    decide +kernel
  have hoptional : optional.IsPublic := by decide
  have huntrusted : untrusted.IsPublic := by decide
  obtain ⟨hpublic, hascends, hids⟩ := isPublic_and_publicStatementIds_iff hok
  refine ⟨hok, hoptional, by decide, by decide, huntrusted, ?_, hascends, ?_, ?_⟩
  · exact hpublic.mpr ⟨optional, List.mem_cons_self, hoptional⟩
  · exact (hids _).mpr ⟨0, optional, rfl, hoptional, Or.inr ⟨Or.inr rfl, by decide⟩⟩
  · exact (hids _).mpr ⟨3, untrusted, rfl, huntrusted, Or.inl ⟨rfl, by decide⟩⟩

end Evaluator

end ResourcePolicy
