import ResourcePolicy.Proofs.Failures
import ResourcePolicy.Proofs.RowComparison

/-!
# One policy seen by two owners

The owner of the resource matters for the list of accounts only: it leaves the owner out. So a
policy has the same error for every owner, and the rows for two owners differ at most in which of
the two they list among the accounts.
-/

namespace ResourcePolicy

namespace Policy

variable {policy : Policy} {mode : Mode} {owner other : AccountId} {error : PolicyError}
variable {row otherRow : Evaluation}

/-- A policy fails alike for every owner. -/
theorem evaluate_error_iff_of_owners :
    policy.evaluate mode owner = .error error ↔ policy.evaluate mode other = .error error := by
  rw [evaluate_eq_error_iff_hasError, evaluate_eq_error_iff_hasError]

/-- The rows for two owners have the same principals. -/
theorem principals_eq_of_owners (hok : policy.evaluate mode owner = .ok row)
    (hother : policy.evaluate mode other = .ok otherRow) : row.principals = otherRow.principals :=
  (evaluate_ascends hok).principals.eq_of_forall_mem_iff (evaluate_ascends hother).principals
    (evaluate_reported hok).principals (evaluate_reported hother).principals

/-- The rows for two owners are equal but for the accounts. -/
theorem eq_except_accountIds_of_owners (hok : policy.evaluate mode owner = .ok row)
    (hother : policy.evaluate mode other = .ok otherRow) :
    { row with accountIds := otherRow.accountIds } = otherRow := by
  have hrow := evaluate_reported hok
  have hotherRow := evaluate_reported hother
  have hascends := evaluate_ascends hok
  have hotherAscends := evaluate_ascends hother
  have hprincipals := principals_eq_of_owners hok hother
  have hservices : row.services = otherRow.services :=
    hascends.services.eq_of_forall_mem_iff hotherAscends.services hrow.services hotherRow.services
  have hfederated : row.federatedIdentities = otherRow.federatedIdentities :=
    hascends.federated.eq_of_forall_mem_iff hotherAscends.federated hrow.federated
      hotherRow.federated
  have horganizations : row.organizationIds = otherRow.organizationIds :=
    hascends.organizations.eq_of_forall_mem_iff hotherAscends.organizations hrow.organizations
      hotherRow.organizations
  have hids : row.publicStatementIds = otherRow.publicStatementIds :=
    hascends.publicStatementIds.eq_of_forall_mem_iff hotherAscends.publicStatementIds
      hrow.publicStatementIds hotherRow.publicStatementIds
  have hpublic : row.isPublic = otherRow.isPublic :=
    Bool.eq_iff_iff.mpr (hrow.isPublic.trans hotherRow.isPublic.symm)
  have hsame : Evaluation.SameGrants { row with accountIds := otherRow.accountIds } otherRow :=
    ⟨⟨hprincipals, hservices, hfederated, rfl⟩, horganizations, hpublic⟩
  obtain ⟨hlevel, hpublicLevels, hsharedLevels, hprivateLevels, hshared⟩ :=
    evaluate_leavesReserved hok
  exact hsame.eq hids ⟨hlevel, hpublicLevels, hsharedLevels, hprivateLevels, hshared⟩
    (evaluate_leavesReserved hother)

/-- The owner is not listed among the accounts. -/
theorem Reported.owner_not_mem_accountIds (hrow : policy.Reported mode owner row) :
    owner.text ∉ row.accountIds := fun hmem => (hrow.mem_accountIds_iff.mp hmem).1 rfl

/-- The rows for two owners list the same accounts besides the two. -/
theorem filter_accountIds_of_owners (hok : policy.evaluate mode owner = .ok row)
    (hother : policy.evaluate mode other = .ok otherRow) :
    row.accountIds.filter (· ≠ other.text) = otherRow.accountIds.filter (· ≠ owner.text) := by
  have hprincipals := principals_eq_of_owners hok hother
  have hrow := evaluate_reported hok
  have hotherRow := evaluate_reported hother
  have hascending := (evaluate_ascends hok).accounts.filter (· ≠ other.text)
  have hotherAscending := (evaluate_ascends hother).accounts.filter (· ≠ owner.text)
  refine Ascending.eq_of_mem_iff hascending hotherAscending fun x => ?_
  simp only [List.mem_filter, decide_eq_true_eq, hrow.mem_accountIds_iff,
    hotherRow.mem_accountIds_iff, hprincipals]
  constructor
  · rintro ⟨⟨hne, hstands⟩, hneOther⟩
    exact ⟨⟨hneOther, hstands⟩, hne⟩
  · rintro ⟨⟨hneOther, hstands⟩, hne⟩
    exact ⟨⟨hne, hstands⟩, hneOther⟩

/-- An account that no AWS value of a counted statement names is not listed. -/
theorem Reported.not_mem_accountIds (hrow : policy.Reported mode owner row) (account : AccountId)
    (hnames : ∀ s ∈ policy.statements, s.Counts mode → ∀ value ∈ s.awsValues,
      ¬ NamesAccount value account.text) : account.text ∉ row.accountIds := by
  intro hmem
  obtain ⟨-, value, hvalue, ⟨-, hwildcard⟩ | hnamed⟩ := hrow.mem_accountIds_iff.mp hmem
  · exact account.text_ne_wildcard hwildcard
  · obtain ⟨s, hs, hcounts, hmem⟩ := (hrow.principals value).mp hvalue
    exact hnames s hs hcounts value hmem hnamed

/-- The rows for two owners are equal if no AWS value of a counted statement names one of them. -/
theorem eq_of_owners_not_named (hok : policy.evaluate mode owner = .ok row)
    (hother : policy.evaluate mode other = .ok otherRow)
    (hnames : ∀ s ∈ policy.statements, s.Counts mode → ∀ value ∈ s.awsValues,
      ¬ NamesAccount value owner.text ∧ ¬ NamesAccount value other.text) : row = otherRow := by
  have hrow := evaluate_reported hok
  have hotherRow := evaluate_reported hother
  have hnotOther : other.text ∉ row.accountIds :=
    hrow.not_mem_accountIds other fun s hs hcounts value hvalue =>
      (hnames s hs hcounts value hvalue).2
  have hnotOwner : owner.text ∉ otherRow.accountIds :=
    hotherRow.not_mem_accountIds owner fun s hs hcounts value hvalue =>
      (hnames s hs hcounts value hvalue).1
  have hfilter : ∀ (accounts : List String) (name : String), name ∉ accounts →
      accounts.filter (· ≠ name) = accounts := by
    intro accounts name hname
    refine List.filter_eq_self.mpr fun x hx => ?_
    exact decide_eq_true fun heq => hname (heq ▸ hx)
  have haccounts : row.accountIds = otherRow.accountIds := by
    have hsame := filter_accountIds_of_owners hok hother
    rwa [hfilter _ _ hnotOther, hfilter _ _ hnotOwner] at hsame
  have hexcept := eq_except_accountIds_of_owners hok hother
  rwa [← haccounts] at hexcept

end Policy

namespace Evaluator

/-- A policy is evaluated for one owner iff for the other, with rows that differ in whether they
list the other owner among the accounts. -/
theorem evaluatePolicy_of_two_owners {ownerText otherText : String}
    (howner : IsAccountId ownerText) (hother : IsAccountId otherText) (evaluator : Evaluator)
    (policy : Policy) :
    SameOutcome (fun row otherRow =>
        { row with accountIds := otherRow.accountIds } = otherRow ∧
        ownerText ∉ row.accountIds ∧ otherText ∉ otherRow.accountIds ∧
        row.accountIds.filter (· ≠ otherText) = otherRow.accountIds.filter (· ≠ ownerText) ∧
        ((∀ s ∈ policy.statements, s.Counts evaluator.mode → ∀ value ∈ s.awsValues,
            ¬ NamesAccount value ownerText ∧ ¬ NamesAccount value otherText) →
          row = otherRow))
      (evaluator.evaluatePolicy policy ownerText) (evaluator.evaluatePolicy policy otherText) := by
  rw [evaluatePolicy_of_isAccountId howner, evaluatePolicy_of_isAccountId hother]
  refine sameOutcome_of_error_iff (fun _ => Policy.evaluate_error_iff_of_owners)
    fun row otherRow hok hotherOk => ?_
  have hrow := Policy.evaluate_reported hok
  have hotherRow := Policy.evaluate_reported hotherOk
  exact ⟨Policy.eq_except_accountIds_of_owners hok hotherOk, hrow.owner_not_mem_accountIds,
    hotherRow.owner_not_mem_accountIds, Policy.filter_accountIds_of_owners hok hotherOk,
    Policy.eq_of_owners_not_named hok hotherOk⟩

/-- Each of two owners is a foreign account to the other, by its id or by its ARN, and a third
account is foreign to both. -/
theorem evaluatePolicy_of_two_owners_both_named :
    let policy : Policy := { statements := [{
      effectText := some "Allow"
      principal := some (.named { aws :=
        ⟨["*", "012345678901", "arn:aws:iam::111122223333:root", "444455556666"]⟩ }) }] }
    let row : Evaluation := {
      principals := ["*", "012345678901", "444455556666", "arn:aws:iam::111122223333:root"]
      accountIds := ["*", "111122223333", "444455556666"]
      isPublic := true }
    IsAccountId "012345678901" ∧ IsAccountId "111122223333" ∧
      Evaluator.evaluatePolicy ⟨.legacy⟩ policy "012345678901" = .ok row ∧
      ∃ otherRow, Evaluator.evaluatePolicy ⟨.legacy⟩ policy "111122223333" = .ok otherRow ∧
        { row with accountIds := otherRow.accountIds } = otherRow ∧
        "111122223333" ∉ otherRow.accountIds ∧
        ["*", "444455556666"] = otherRow.accountIds.filter (· ≠ "012345678901") := by
  intro policy row
  have howner : IsAccountId "012345678901" := by decide
  have hother : IsAccountId "111122223333" := by decide
  have hok : Evaluator.evaluatePolicy ⟨.legacy⟩ policy "012345678901" = .ok row := by
    decide +kernel
  refine ⟨howner, hother, hok, ?_⟩
  have hsame := evaluatePolicy_of_two_owners howner hother ⟨.legacy⟩ policy
  rw [hok] at hsame
  revert hsame
  generalize Evaluator.evaluatePolicy ⟨.legacy⟩ policy "111122223333" = answer
  rintro ⟨hexcept, -, hnot, hfilter, -⟩
  exact ⟨_, rfl, hexcept, hnot, hfilter⟩

end Evaluator

end ResourcePolicy
