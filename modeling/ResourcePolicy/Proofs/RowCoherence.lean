import Mathlib.Control.Monad.Basic
import ResourcePolicy.Proofs.Failures
import ResourcePolicy.Proofs.RowComparison

/-!
# How the fields of a row fit together

The flag, the public statements, the principals and the accounts of a row are filled on different
paths, and yet each row is coherent on its own: its accounts are those of its principals, and its
flag agrees with its lists. Under the condition-aware rules the flag is set iff a public statement
is listed; under the legacy rules it is set iff the wildcard or a service is.
-/

namespace ResourcePolicy

/-- The AWS value is accepted as a principal of the account. -/
def AwsPrincipal.ResolvesTo (value account : String) : Prop :=
  ∃ principal id, classify value = .ok principal ∧ principal.account? = some id ∧
    id.text = account

namespace Evaluation

/-- The row fits together, seen on its own under the rules and for the owner that it was made
for. -/
structure Coherent (mode : Mode) (ownerText : String) (row : Evaluation) : Prop where
  /-- Every list that is filled ascends strictly. -/
  ascends : row.Ascends
  /-- The fields that are kept for other uses are empty. -/
  reserved : row.LeavesReserved
  /-- Every principal is an AWS value that is accepted. -/
  accepted : ∀ value ∈ row.principals, ∃ principal, AwsPrincipal.classify value = .ok principal
  /-- The accounts are those that the principals resolve to, without the owner, and the wildcard if
  it is a principal. -/
  accounts : ∀ x, x ∈ row.accountIds ↔ (x = "*" ∧ "*" ∈ row.principals) ∨
    (x ≠ ownerText ∧ ∃ value ∈ row.principals, AwsPrincipal.ResolvesTo value x)
  /-- So an account is the wildcard or an account id. -/
  accountForm : ∀ x ∈ row.accountIds, x = "*" ∨ IsAccountId x
  /-- The condition-aware rules set the flag iff they list a public statement, each under an id. -/
  conditionAware : mode = .conditionAware →
    (row.isPublic = true ↔ row.publicStatementIds ≠ []) ∧ "" ∉ row.publicStatementIds
  /-- The legacy rules list neither public statements nor organizations, and set the flag iff they
  list the wildcard or a service. -/
  legacy : mode = .legacy → row.publicStatementIds = [] ∧ row.organizationIds = [] ∧
    (row.isPublic = true ↔ "*" ∈ row.principals ∨ row.services ≠ [])

end Evaluation

/-- The name made from an index is not empty. -/
theorem Statement.positionId_ne_empty (index : Nat) : positionId index ≠ "" := by
  intro hempty
  have hlength := congrArg String.length hempty
  simp [positionId] at hlength

/-- No statement is reported under the empty text. -/
theorem Statement.id_ne_empty (s : Statement) (index : Nat) : s.id index ≠ "" := by
  unfold Statement.id
  cases s.sid with
  | none => exact positionId_ne_empty index
  | some sid =>
    by_cases hsid : sid = ""
    · simpa [hsid] using positionId_ne_empty index
    · simp [hsid, String.isEmpty_iff]

namespace Policy

variable {policy : Policy} {mode : Mode} {owner : AccountId} {row : Evaluation}

/-- The accounts of a row are those that its principals resolve to, without the owner, and the
wildcard if it is a principal. -/
theorem Reported.mem_accountIds_iff_resolvesTo (hrow : policy.Reported mode owner row)
    {x : String} :
    x ∈ row.accountIds ↔ (x = "*" ∧ "*" ∈ row.principals) ∨
      (x ≠ owner.text ∧ ∃ value ∈ row.principals, AwsPrincipal.ResolvesTo value x) := by
  simp only [hrow.mem_accountIds_iff, AwsPrincipal.StandsFor, AwsPrincipal.namesAccount_iff]
  constructor
  · rintro ⟨hne, value, hvalue, ⟨rfl, rfl⟩ | hresolves⟩
    · exact Or.inl ⟨rfl, hvalue⟩
    · exact Or.inr ⟨hne, value, hvalue, hresolves⟩
  · rintro (⟨rfl, hwildcard⟩ | ⟨hne, value, hvalue, hresolves⟩)
    · exact ⟨owner.text_ne_wildcard.symm, "*", hwildcard, Or.inl ⟨rfl, rfl⟩⟩
    · exact ⟨hne, value, hvalue, Or.inr hresolves⟩

/-- An account of a row is the wildcard or an account id. -/
theorem Reported.accountIds_form (hrow : policy.Reported mode owner row) {x : String}
    (hx : x ∈ row.accountIds) : x = "*" ∨ IsAccountId x := by
  rcases hrow.mem_accountIds_iff_resolvesTo.mp hx with ⟨hwildcard, -⟩ | ⟨-, _, -, _, id, -, -, rfl⟩
  · exact Or.inl hwildcard
  · exact Or.inr id.valid

/-- The principals of a row are accepted: a refused one would have failed its statement. -/
theorem isAccepted_of_mem_principals (hok : policy.evaluate mode owner = .ok row) {value : String}
    (hvalue : value ∈ row.principals) : AwsPrincipal.IsAccepted value := by
  obtain ⟨s, hs, hcounts, hmem⟩ := ((evaluate_reported hok).principals value).mp hvalue
  have hnone := exists_evaluate_iff.mp ⟨row, hok⟩ s hs
  exact (Statement.forall_not_hasError_iff.mp hnone).2 hcounts value hmem

/-- The condition-aware rules set the flag iff they list a public statement. -/
theorem Reported.isPublic_iff_publicStatementIds
    (hrow : policy.Reported .conditionAware owner row) :
    row.isPublic = true ↔ row.publicStatementIds ≠ [] := by
  rw [hrow.isPublic]
  constructor
  · rintro ⟨s, hs, hpublic⟩
    obtain ⟨i, hi⟩ := List.mem_iff_getElem?.mp hs
    have hid : s.id i ∈ row.publicStatementIds :=
      (hrow.publicStatementIds _).mpr ⟨rfl, i, s, hi, hpublic, rfl⟩
    exact List.ne_nil_of_mem hid
  · intro hne
    obtain ⟨x, hx⟩ := List.exists_mem_of_ne_nil _ hne
    obtain ⟨-, _, s, hi, hpublic, -⟩ := (hrow.publicStatementIds x).mp hx
    exact ⟨s, List.mem_of_getElem? hi, hpublic⟩

/-- No public statement is listed under the empty text. -/
theorem Reported.empty_not_mem_publicStatementIds (hrow : policy.Reported mode owner row) :
    "" ∉ row.publicStatementIds := by
  intro hmem
  obtain ⟨-, i, s, -, -, hid⟩ := (hrow.publicStatementIds "").mp hmem
  exact s.id_ne_empty i hid.symm

/-- The legacy rules set the flag iff they list the wildcard or a service. -/
theorem Reported.isPublic_iff_of_legacy (hrow : policy.Reported .legacy owner row) :
    row.isPublic = true ↔ "*" ∈ row.principals ∨ row.services ≠ [] := by
  rw [hrow.isPublic, hrow.principals]
  constructor
  · rintro ⟨s, hs, hallows, hwildcard | hservices⟩
    · exact Or.inl ⟨s, hs, ⟨hallows, Or.inl rfl⟩, hwildcard⟩
    · obtain ⟨x, hx⟩ := List.exists_mem_of_ne_nil _ hservices
      have hlisted : x ∈ row.services :=
        (hrow.services x).mpr ⟨s, hs, ⟨hallows, Or.inl rfl⟩, hx⟩
      exact Or.inr (List.ne_nil_of_mem hlisted)
  · rintro (⟨s, hs, hcounts, hwildcard⟩ | hne)
    · exact ⟨s, hs, hcounts.1, Or.inl hwildcard⟩
    · obtain ⟨x, hx⟩ := List.exists_mem_of_ne_nil _ hne
      obtain ⟨s, hs, hcounts, hmem⟩ := (hrow.services x).mp hx
      exact ⟨s, hs, hcounts.1, Or.inr (List.ne_nil_of_mem hmem)⟩

/-- The row of a policy is coherent. -/
theorem coherent_of_evaluate (hok : policy.evaluate mode owner = .ok row) :
    row.Coherent mode owner.text where
  ascends := evaluate_ascends hok
  reserved := evaluate_leavesReserved hok
  accepted _ hvalue := isAccepted_of_mem_principals hok hvalue
  accounts _ := (evaluate_reported hok).mem_accountIds_iff_resolvesTo
  accountForm _ hx := (evaluate_reported hok).accountIds_form hx
  conditionAware := by
    rintro rfl
    have hrow := evaluate_reported hok
    exact ⟨hrow.isPublic_iff_publicStatementIds, hrow.empty_not_mem_publicStatementIds⟩
  legacy := by
    rintro rfl
    have hrow := evaluate_reported hok
    exact ⟨hrow.publicStatementIds_of_legacy, hrow.organizationIds_of_legacy,
      hrow.isPublic_iff_of_legacy⟩

end Policy

namespace Evaluator

variable {evaluator : Evaluator} {policyText ownerText : String} {row : Evaluation}

/-- A text that is evaluated has been read as a policy, and the row is that of the policy. -/
theorem exists_policy_of_evaluate (hok : evaluator.evaluate policyText ownerText = .ok row) :
    ∃ policy, evaluator.evaluatePolicy policy ownerText = .ok row := by
  obtain ⟨owner, howner, hrest⟩ := bind_eq_ok_iff.mp hok
  obtain ⟨policy, -, hrow⟩ := bind_eq_ok_iff.mp hrest
  exact ⟨policy, bind_eq_ok_iff.mpr ⟨owner, howner, hrow⟩⟩

/-- The row of a policy text is coherent. -/
theorem evaluate_coherent (hok : evaluator.evaluate policyText ownerText = .ok row) :
    row.Coherent evaluator.mode ownerText := by
  obtain ⟨policy, hpolicy⟩ := exists_policy_of_evaluate hok
  have hid := isAccountId_of_evaluatePolicy hpolicy
  rw [evaluatePolicy_of_isAccountId hid] at hpolicy
  exact Policy.coherent_of_evaluate hpolicy

/-- A statement without a name that excludes no actions is public, though the only principal of the
row is an ARN of another account. -/
theorem evaluate_coherent_of_two :
    let text := "\x7b\"Statement\":[\x7b\"Sid\":\"\",\"Effect\":\"Allow\",\"NotAction\":[]\x7d," ++
      "\x7b\"Effect\":\"Allow\",\"Principal\":\"arn:aws:iam::111122223333:root\"\x7d]\x7d"
    let row : Evaluation := {
      principals := ["arn:aws:iam::111122223333:root"]
      accountIds := ["111122223333"]
      isPublic := true
      publicStatementIds := ["Statement[1]"] }
    Evaluator.evaluate ⟨.conditionAware⟩ text "012345678901" = .ok row ∧
      row.Coherent .conditionAware "012345678901" ∧ row.publicStatementIds ≠ [] ∧
      IsAccountId "111122223333" := by
  intro text row
  have hok : Evaluator.evaluate ⟨.conditionAware⟩ text "012345678901" = .ok row := by
    decide +kernel
  have hcoherent := evaluate_coherent hok
  refine ⟨hok, hcoherent, (hcoherent.conditionAware rfl).1.mp rfl, ?_⟩
  exact (hcoherent.accountForm "111122223333" (by decide)).resolve_left (by decide)

end Evaluator

end ResourcePolicy
