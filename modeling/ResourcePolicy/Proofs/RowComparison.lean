import ResourcePolicy.Proofs.PolicyRow

/-!
# Comparing the rows of two evaluations

Two evaluations may differ in their policies, in their rules or in their owners. Since the lists of
a row ascend, they are equal once they have the same members. The accounts of a row are those that
its principals belong to, so they need no comparison of their own, and the fields that no evaluation
fills are the same in every row.
-/

namespace ResourcePolicy

section Ascending

variable {names otherNames : List String}

/-- An ascending list has no member twice. -/
theorem Ascending.nodup (hascending : Ascending id names) : names.Nodup := by
  refine List.Pairwise.imp ?_ hascending
  rintro x _ hlt rfl
  exact Std.lt_irrefl hlt

/-- Ascending lists that contain each other are equal. -/
theorem Ascending.eq_of_subset (hascending : Ascending id names)
    (hotherAscending : Ascending id otherNames) (hforth : names ⊆ otherNames)
    (hback : otherNames ⊆ names) : names = otherNames :=
  hascending.eq_of_mem_iff hotherAscending fun _ => ⟨fun hx => hforth hx, fun hx => hback hx⟩

/-- Ascending lists of the texts with some property are equal. -/
theorem Ascending.eq_of_forall_mem_iff (hascending : Ascending id names)
    (hotherAscending : Ascending id otherNames) {P : String → Prop}
    (hnames : ∀ x, x ∈ names ↔ P x) (hotherNames : ∀ x, x ∈ otherNames ↔ P x) :
    names = otherNames :=
  hascending.eq_of_mem_iff hotherAscending fun x => (hnames x).trans (hotherNames x).symm

end Ascending

/-- What an AWS value stands for among the accounts: the account that it names, and the wildcard
for itself. -/
def AwsPrincipal.StandsFor (value name : String) : Prop :=
  (value = "*" ∧ name = "*") ∨ NamesAccount value name

namespace Evaluation

/-- The rows name the same principals, services, federated identities and accounts. -/
structure SameNames (row other : Evaluation) : Prop where
  principals : row.principals = other.principals
  services : row.services = other.services
  federated : row.federatedIdentities = other.federatedIdentities
  accounts : row.accountIds = other.accountIds

/-- The rows report the same grants: the same names, the same organizations and the same flag. -/
structure SameGrants (row other : Evaluation) : Prop extends SameNames row other where
  organizations : row.organizationIds = other.organizationIds
  isPublic : row.isPublic = other.isPublic

/-- Everyone whom the row names is named by the other one. -/
structure NamesWithin (row other : Evaluation) : Prop where
  principals : row.principals ⊆ other.principals
  services : row.services ⊆ other.services
  federated : row.federatedIdentities ⊆ other.federatedIdentities
  accounts : row.accountIds ⊆ other.accountIds

/-- The fields that are kept for other uses are empty. -/
structure LeavesReserved (row : Evaluation) : Prop where
  accessLevel : row.accessLevel = ""
  publicAccessLevels : row.publicAccessLevels = []
  sharedAccessLevels : row.sharedAccessLevels = []
  privateAccessLevels : row.privateAccessLevels = []
  sharedStatementIds : row.sharedStatementIds = []

variable {row other : Evaluation}

/-- Rows that name no more than each other name the same. -/
theorem NamesWithin.antisymm (hforth : row.NamesWithin other) (hback : other.NamesWithin row)
    (hrow : row.Ascends) (hother : other.Ascends) : row.SameNames other where
  principals := hrow.principals.eq_of_subset hother.principals hforth.principals hback.principals
  services := hrow.services.eq_of_subset hother.services hforth.services hback.services
  federated := hrow.federated.eq_of_subset hother.federated hforth.federated hback.federated
  accounts := hrow.accounts.eq_of_subset hother.accounts hforth.accounts hback.accounts

/-- Rows that report the same grants and the same public statements are equal. -/
theorem SameGrants.eq (hsame : row.SameGrants other)
    (hids : row.publicStatementIds = other.publicStatementIds) (hrow : row.LeavesReserved)
    (hother : other.LeavesReserved) : row = other := by
  obtain ⟨⟨hprincipals, hservices, hfederated, haccounts⟩, horganizations, hpublic⟩ := hsame
  obtain ⟨hlevel, hpublicLevels, hsharedLevels, hprivateLevels, hshared⟩ := hrow
  obtain ⟨hlevel', hpublicLevels', hsharedLevels', hprivateLevels', hshared'⟩ := hother
  cases row
  cases other
  simp_all only

end Evaluation

namespace Policy

variable {policy other : Policy} {mode otherMode : Mode} {owner : AccountId}
variable {row otherRow : Evaluation}

/-- An evaluation leaves the reserved fields empty. -/
theorem evaluate_leavesReserved (hok : policy.evaluate mode owner = .ok row) :
    row.LeavesReserved := by
  rw [evaluate_eq_map] at hok
  obtain ⟨granted, -, rfl⟩ := map_eq_ok_iff.mp hok
  exact ⟨rfl, rfl, rfl, rfl, rfl⟩

/-- A counted statement of the policy has the text among some of its values. -/
def Names (policy : Policy) (mode : Mode) (values : Statement → List String) (text : String) :
    Prop :=
  ∃ s ∈ policy.statements, s.Counts mode ∧ text ∈ values s

/-- Every value that the policy names under its rules is named by the other one under its own. -/
structure NamesWithin (policy : Policy) (mode : Mode) (other : Policy) (otherMode : Mode) :
    Prop where
  awsValues : ∀ x, policy.Names mode Statement.awsValues x →
    other.Names otherMode Statement.awsValues x
  services : ∀ x, policy.Names mode Statement.services x →
    other.Names otherMode Statement.services x
  federated : ∀ x, policy.Names mode Statement.federated x →
    other.Names otherMode Statement.federated x

/-- The policies name the same values, each under its own rules. -/
structure NamesAlike (policy : Policy) (mode : Mode) (other : Policy) (otherMode : Mode) :
    Prop where
  awsValues : ∀ x, policy.Names mode Statement.awsValues x ↔
    other.Names otherMode Statement.awsValues x
  services : ∀ x, policy.Names mode Statement.services x ↔
    other.Names otherMode Statement.services x
  federated : ∀ x, policy.Names mode Statement.federated x ↔
    other.Names otherMode Statement.federated x

/-- The accounts of a row are those that its principals stand for, except the owner. -/
theorem Reported.mem_accountIds_iff (hrow : policy.Reported mode owner row) {x : String} :
    x ∈ row.accountIds ↔
      x ≠ owner.text ∧ ∃ value ∈ row.principals, AwsPrincipal.StandsFor value x := by
  simp only [hrow.accounts, hrow.principals, AwsPrincipal.StandsFor]
  constructor
  · rintro ⟨s, hs, hcounts, ⟨rfl, hwildcard⟩ | ⟨hne, value, hvalue, hnamed⟩⟩
    · exact ⟨owner.text_ne_wildcard.symm, "*", ⟨s, hs, hcounts, hwildcard⟩, Or.inl ⟨rfl, rfl⟩⟩
    · exact ⟨hne, value, ⟨s, hs, hcounts, hvalue⟩, Or.inr hnamed⟩
  · rintro ⟨hne, value, ⟨s, hs, hcounts, hvalue⟩, ⟨rfl, rfl⟩ | hnamed⟩
    · exact ⟨s, hs, hcounts, Or.inl ⟨rfl, hvalue⟩⟩
    · exact ⟨s, hs, hcounts, Or.inr ⟨hne, value, hvalue, hnamed⟩⟩

/-- The row of a policy that names no more values names no one else. -/
theorem NamesWithin.rows (hwithin : policy.NamesWithin mode other otherMode)
    (hrow : policy.Reported mode owner row) (hother : other.Reported otherMode owner otherRow) :
    row.NamesWithin otherRow := by
  have hprincipals : row.principals ⊆ otherRow.principals := fun x hx =>
    (hother.principals x).mpr (hwithin.awsValues x ((hrow.principals x).mp hx))
  refine ⟨hprincipals, fun x hx => ?_, fun x hx => ?_, fun x hx => ?_⟩
  · exact (hother.services x).mpr (hwithin.services x ((hrow.services x).mp hx))
  · exact (hother.federated x).mpr (hwithin.federated x ((hrow.federated x).mp hx))
  · obtain ⟨hne, value, hvalue, hstands⟩ := hrow.mem_accountIds_iff.mp hx
    exact hother.mem_accountIds_iff.mpr ⟨hne, value, hprincipals hvalue, hstands⟩

section NamesAlike

variable (hrow : policy.Reported mode owner row)
variable (hascends : row.Ascends) (hotherAscends : otherRow.Ascends)

include hrow hascends hotherAscends

/-- The rows of policies that name the same values name the same. -/
theorem NamesAlike.sameNames (halike : policy.NamesAlike mode other otherMode)
    (hother : other.Reported otherMode owner otherRow) : row.SameNames otherRow := by
  have hforth : policy.NamesWithin mode other otherMode :=
    ⟨fun x => (halike.awsValues x).mp, fun x => (halike.services x).mp,
      fun x => (halike.federated x).mp⟩
  have hback : other.NamesWithin otherMode policy mode :=
    ⟨fun x => (halike.awsValues x).mpr, fun x => (halike.services x).mpr,
      fun x => (halike.federated x).mpr⟩
  exact (hforth.rows hrow hother).antisymm (hback.rows hother hrow) hascends hotherAscends

/-- The rows of policies that name the same values and organizations, and are public together,
report the same grants. -/
theorem NamesAlike.sameGrants (halike : policy.NamesAlike mode other mode)
    (hother : other.Reported mode owner otherRow)
    (horganizations : ∀ x,
      (∃ s ∈ policy.statements, s.Counts mode ∧ mode = .conditionAware ∧ s.NamesOrganization x) ↔
        ∃ s ∈ other.statements, s.Counts mode ∧ mode = .conditionAware ∧ s.NamesOrganization x)
    (hpublic : (∃ s ∈ policy.statements, s.IsPublicUnder mode) ↔
      ∃ s ∈ other.statements, s.IsPublicUnder mode) : row.SameGrants otherRow where
  toSameNames := halike.sameNames hrow hascends hotherAscends hother
  organizations := by
    refine hascends.organizations.eq_of_forall_mem_iff hotherAscends.organizations
      hrow.organizations fun x => ?_
    rw [hother.organizations, horganizations]
  isPublic := by rw [Bool.eq_iff_iff, hrow.isPublic, hother.isPublic, hpublic]

end NamesAlike

/-- The legacy rules report no public statements. -/
theorem Reported.publicStatementIds_of_legacy (hrow : policy.Reported .legacy owner row) :
    row.publicStatementIds = [] := by
  refine List.eq_nil_iff_forall_not_mem.mpr fun x hx => ?_
  obtain ⟨hmode, -⟩ := (hrow.publicStatementIds x).mp hx
  cases hmode

/-- The legacy rules collect no organizations. -/
theorem Reported.organizationIds_of_legacy (hrow : policy.Reported .legacy owner row) :
    row.organizationIds = [] := by
  refine List.eq_nil_iff_forall_not_mem.mpr fun x hx => ?_
  obtain ⟨-, -, -, hmode, -⟩ := (hrow.organizations x).mp hx
  cases hmode

end Policy

end ResourcePolicy
