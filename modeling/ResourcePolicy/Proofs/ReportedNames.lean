import Mathlib.Control.Monad.Basic
import ResourcePolicy.Proofs.PolicyRow

/-!
# The names in a row

The lists of a row hold exactly the names that the counted statements of the policy give them:
nothing is lost, nothing is invented and nothing is reported twice. The accounts leave out the
owner, and organizations are collected under the condition-aware rules only, from every condition
of a counted statement.
-/

namespace ResourcePolicy

namespace Evaluator

/-- The members of the five lists, under either set of rules. -/
theorem mem_lists_iff {evaluator : Evaluator} {policy : Policy} {ownerText : String}
    {row : Evaluation} (hok : evaluator.evaluatePolicy policy ownerText = .ok row) :
    (∀ x, x ∈ row.principals ↔
      ∃ s ∈ policy.statements, s.Counts evaluator.mode ∧ x ∈ s.awsValues) ∧
    (∀ x, x ∈ row.services ↔
      ∃ s ∈ policy.statements, s.Counts evaluator.mode ∧ x ∈ s.services) ∧
    (∀ x, x ∈ row.federatedIdentities ↔
      ∃ s ∈ policy.statements, s.Counts evaluator.mode ∧ x ∈ s.federated) ∧
    (∀ x, x ∈ row.accountIds ↔
      (x = "*" ∧ ∃ s ∈ policy.statements, s.Counts evaluator.mode ∧ "*" ∈ s.awsValues) ∨
      (x ≠ ownerText ∧ ∃ s ∈ policy.statements, s.Counts evaluator.mode ∧
        ∃ value ∈ s.awsValues, NamesAccount value x)) ∧
    (∀ x, x ∈ row.organizationIds ↔ evaluator.mode = .conditionAware ∧
      ∃ s ∈ policy.statements, s.Counts evaluator.mode ∧ s.NamesOrganization x) ∧
    row.Ascends := by
  obtain ⟨hascends, owner, rfl, hreported⟩ := evaluatePolicy_reported hok
  refine ⟨hreported.principals, hreported.services, hreported.federated, fun x => ?_, fun x => ?_,
    hascends⟩
  · rw [hreported.accounts]
    constructor
    · rintro ⟨s, hs, hcounts, ⟨hx, hwildcard⟩ | ⟨hne, hnamed⟩⟩
      · exact Or.inl ⟨hx, s, hs, hcounts, hwildcard⟩
      · exact Or.inr ⟨hne, s, hs, hcounts, hnamed⟩
    · rintro (⟨hx, s, hs, hcounts, hwildcard⟩ | ⟨hne, s, hs, hcounts, hnamed⟩)
      · exact ⟨s, hs, hcounts, Or.inl ⟨hx, hwildcard⟩⟩
      · exact ⟨s, hs, hcounts, Or.inr ⟨hne, hnamed⟩⟩
  · rw [hreported.organizations]
    constructor
    · rintro ⟨s, hs, hcounts, hmode, hnamed⟩
      exact ⟨hmode, s, hs, hcounts, hnamed⟩
    · rintro ⟨hmode, s, hs, hcounts, hnamed⟩
      exact ⟨s, hs, hcounts, hmode, hnamed⟩

/-- The owner is left out of the accounts but not of the principals, the organization of a condition
that narrows is collected, and the bare wildcard is an AWS value. -/
theorem mem_lists_of_narrowed_organization :
    let narrowed : Statement := {
      effectText := some "Allow"
      principal := some (.named {
        aws := ⟨["arn:aws:iam::444455554444:root", "012345678901"]⟩
        service := ⟨["sns.amazonaws.com"]⟩
        federated := ⟨["cognito-identity.amazonaws.com"]⟩ })
      condition := some (Condition.empty.withEntry "StringEquals" "AWS:PrincipalOrgID" ⟨["o-1"]⟩) }
    let anyone : Statement := { effectText := some "Allow", principal := some .any }
    let row : Evaluation := {
      organizationIds := ["o-1"]
      principals := ["*", "012345678901", "arn:aws:iam::444455554444:root"]
      accountIds := ["*", "444455554444"]
      federatedIdentities := ["cognito-identity.amazonaws.com"]
      services := ["sns.amazonaws.com"]
      isPublic := true
      publicStatementIds := ["Statement[2]"] }
    Evaluator.evaluatePolicy ⟨.conditionAware⟩ { statements := [narrowed, anyone] }
        "012345678901" = .ok row ∧
      "*" ∈ row.principals ∧ "sns.amazonaws.com" ∈ row.services ∧
      "cognito-identity.amazonaws.com" ∈ row.federatedIdentities ∧ "*" ∈ row.accountIds ∧
      "444455554444" ∈ row.accountIds ∧ "012345678901" ∉ row.accountIds ∧
      "o-1" ∈ row.organizationIds ∧ row.Ascends := by
  intro narrowed anyone row
  have hok : Evaluator.evaluatePolicy ⟨.conditionAware⟩ { statements := [narrowed, anyone] }
      "012345678901" = .ok row := by decide +kernel
  have hnarrowed : narrowed.Counts .conditionAware := ⟨rfl, Or.inr rfl⟩
  have hanyone : anyone.Counts .conditionAware := ⟨rfl, Or.inr rfl⟩
  have hfirst : narrowed ∈ [narrowed, anyone] := List.mem_cons_self
  have hsecond : anyone ∈ [narrowed, anyone] := List.mem_cons_of_mem _ List.mem_cons_self
  have hroot : NamesAccount "arn:aws:iam::444455554444:root" "444455554444" := by
    refine ⟨by decide, Or.inr ?_⟩
    exact ⟨"aws", "iam", "", "root", by decide, by decide, by decide, by decide, by decide⟩
  have hentry : Condition.Entry.mk "StringEquals" "AWS:PrincipalOrgID" ⟨["o-1"]⟩ ∈
      (Condition.empty.withEntry "StringEquals" "AWS:PrincipalOrgID" ⟨["o-1"]⟩).entries := by
    decide
  obtain ⟨hprincipals, hservices, hfederated, haccounts, horganizations, hascends⟩ :=
    mem_lists_iff hok
  refine ⟨hok, ?_, ?_, ?_, ?_, ?_, ?_, ?_, hascends⟩
  · exact (hprincipals _).mpr ⟨anyone, hsecond, hanyone, List.mem_cons_self⟩
  · exact (hservices _).mpr ⟨narrowed, hfirst, hnarrowed, List.mem_cons_self⟩
  · exact (hfederated _).mpr ⟨narrowed, hfirst, hnarrowed, List.mem_cons_self⟩
  · exact (haccounts _).mpr (Or.inl ⟨rfl, anyone, hsecond, hanyone, List.mem_cons_self⟩)
  · exact (haccounts _).mpr
      (Or.inr ⟨by decide, narrowed, hfirst, hnarrowed, _, List.mem_cons_self, hroot⟩)
  · rw [haccounts]
    rintro (⟨hwildcard, -⟩ | ⟨hother, -⟩)
    · exact absurd hwildcard (by decide)
    · exact hother rfl
  · exact (horganizations _).mpr ⟨rfl, narrowed, hfirst, hnarrowed, _, rfl, _,
      Condition.holds_iff.mpr hentry, Or.inl (by decide), List.mem_cons_self⟩

end Evaluator

end ResourcePolicy
