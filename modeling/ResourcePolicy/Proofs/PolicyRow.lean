import ResourcePolicy.Evaluator
import ResourcePolicy.Proofs.StatementGrants

/-!
# The row of a policy

The statements of a policy are gone through in order, and what each of them grants is absorbed
into one whole. Absorbing unites the names of each kind and loses nothing, so the row lists what
the single statements grant, and the policy is public exactly when one of its statements is.
-/

namespace ResourcePolicy

/-- The lists of the row ascend strictly, so nothing is listed twice. -/
structure Evaluation.Ascends (row : Evaluation) : Prop where
  principals : Ascending id row.principals
  services : Ascending id row.services
  federated : Ascending id row.federatedIdentities
  accounts : Ascending id row.accountIds
  organizations : Ascending id row.organizationIds
  publicStatementIds : Ascending id row.publicStatementIds

namespace Grantees

/-- The lists that a row takes from grantees ascend. -/
theorem toEvaluation_ascends (g : Grantees) (publicStatementIds : List String) :
    (g.toEvaluation publicStatementIds).Ascends where
  principals := g.principals.ascending
  services := g.services.ascending
  federated := g.federated.ascending
  accounts := g.accounts.ascending
  organizations := g.organizations.ascending
  publicStatementIds := (StringSet.ofList publicStatementIds).ascending

/-- Absorbing a run of grants adds the names in each of them, for any kind of names that is
united by a single step. -/
theorem mem_foldl_absorb {names : Grantees → StringSet}
    (hnames : ∀ whole part, names (absorb whole part) = names whole ∪ names part)
    {parts : List Grantees} {whole : Grantees} {x : String} :
    x ∈ names (parts.foldl absorb whole) ↔
      x ∈ names whole ∨ ∃ part ∈ parts, x ∈ names part := by
  induction parts generalizing whole with
  | nil => simp
  | cons part parts ih =>
    rw [List.foldl_cons, ih, hnames, StringSet.mem_union, or_assoc]
    simp only [List.mem_cons, exists_eq_or_imp]

/-- Absorbing a run of grants leaves the flag as it is. -/
theorem isPublic_foldl_absorb {parts : List Grantees} {whole : Grantees} :
    (parts.foldl absorb whole).isPublic = whole.isPublic := by
  induction parts generalizing whole with
  | nil => rfl
  | cons part parts ih => exact ih

end Grantees

namespace Policy

/-- The statements of the policy, each with what it grants. -/
def granted (policy : Policy) (mode : Mode) (owner : AccountId) :
    Except PolicyError (List (Statement × Grantees)) :=
  policy.statements.mapM fun s => return (s, ← s.grantees mode owner)

/-- What some statements grant together. -/
def whole (granted : List (Statement × Grantees)) : Grantees :=
  (granted.map Prod.snd).foldl Grantees.absorb
    { isPublic := (granted.map Prod.snd).any (·.isPublic) }

/-- The row that reports what some statements grant. -/
def row (mode : Mode) (granted : List (Statement × Grantees)) : Evaluation :=
  (whole granted).toEvaluation
    (match mode with
    | .legacy => []
    | .conditionAware => publicIds granted)

variable {policy : Policy} {mode : Mode} {owner : AccountId}

/-- The row of a policy reports what its statements grant. -/
theorem evaluate_eq_map : policy.evaluate mode owner = row mode <$> policy.granted mode owner :=
  rfl

/-- A policy fails with the error of the first statement that has one. -/
theorem evaluate_eq_error_iff {error : PolicyError} :
    policy.evaluate mode owner = .error error ↔
      FirstError (fun s e => s.grantees mode owner = .error e) policy.statements error := by
  rw [evaluate_eq_map, map_eq_error_iff, granted, mapM_eq_error_iff]
  refine firstError_congr fun s _ e => ?_
  exact map_eq_error_iff (g := fun g => (s, g))

section Granted

variable {granted : List (Statement × Grantees)}

/-- A statement stands with its own grantees, at its own index. -/
theorem getElem?_granted (hok : policy.granted mode owner = .ok granted) {i : Nat}
    {s : Statement} {g : Grantees} :
    granted[i]? = some (s, g) ↔ policy.statements[i]? = some s ∧ s.grantees mode owner = .ok g := by
  rw [getElem?_of_mapM hok]
  constructor
  · rintro ⟨other, hother, hpair⟩
    obtain ⟨_, hg, h⟩ := bind_eq_ok_iff.mp hpair
    cases h
    exact ⟨hother, hg⟩
  · rintro ⟨hs, hg⟩
    exact ⟨s, hs, bind_eq_ok_iff.mpr ⟨g, hg, rfl⟩⟩

/-- Every statement has grantees if the policy is evaluated. -/
theorem exists_grantees (hok : policy.granted mode owner = .ok granted) {s : Statement}
    (hs : s ∈ policy.statements) : ∃ g, s.grantees mode owner = .ok g := by
  obtain ⟨_, hpair⟩ := exists_ok_of_mapM hok hs
  obtain ⟨g, hg, -⟩ := bind_eq_ok_iff.mp hpair
  exact ⟨g, hg⟩

/-- What can be told of a statement from its grantees holds at an index of the policy iff it
holds there among the granted statements. -/
theorem exists_granted_iff (hok : policy.granted mode owner = .ok granted) {i : Nat}
    {P : Statement → Grantees → Prop} {Q : Statement → Prop}
    (hPQ : ∀ s g, s.Granted mode owner g → (P s g ↔ Q s)) :
    (∃ s g, granted[i]? = some (s, g) ∧ P s g) ↔
      ∃ s, policy.statements[i]? = some s ∧ Q s := by
  constructor
  · rintro ⟨s, g, hi, hP⟩
    obtain ⟨hs, hg⟩ := (getElem?_granted hok).mp hi
    exact ⟨s, hs, (hPQ s g (Statement.grantees_granted hg)).mp hP⟩
  · rintro ⟨s, hs, hQ⟩
    obtain ⟨g, hg⟩ := exists_grantees hok (List.mem_of_getElem? hs)
    exact ⟨s, g, (getElem?_granted hok).mpr ⟨hs, hg⟩,
      (hPQ s g (Statement.grantees_granted hg)).mpr hQ⟩

/-- The same of some statement, whatever its index. -/
theorem exists_mem_granted_iff (hok : policy.granted mode owner = .ok granted)
    {P : Grantees → Prop} {Q : Statement → Prop}
    (hPQ : ∀ s g, s.Granted mode owner g → (P g ↔ Q s)) :
    (∃ g ∈ granted.map Prod.snd, P g) ↔ ∃ s ∈ policy.statements, Q s := by
  have hindex : ∀ i, (∃ s g, granted[i]? = some (s, g) ∧ P g) ↔
      ∃ s, policy.statements[i]? = some s ∧ Q s :=
    fun i => exists_granted_iff hok (P := fun _ g => P g) hPQ
  constructor
  · rintro ⟨g, hg, hP⟩
    obtain ⟨⟨s, _⟩, hpair, rfl⟩ := List.mem_map.mp hg
    obtain ⟨i, hi⟩ := List.mem_iff_getElem?.mp hpair
    obtain ⟨s, hs, hQ⟩ := (hindex i).mp ⟨s, _, hi, hP⟩
    exact ⟨s, List.mem_of_getElem? hs, hQ⟩
  · rintro ⟨s, hs, hQ⟩
    obtain ⟨i, hi⟩ := List.mem_iff_getElem?.mp hs
    obtain ⟨s, g, hpair, hP⟩ := (hindex i).mpr ⟨s, hi, hQ⟩
    exact ⟨g, List.mem_map.mpr ⟨(s, g), List.mem_of_getElem? hpair, rfl⟩, hP⟩

/-- The whole has a name of some kind iff the grant of a statement has it. -/
theorem mem_whole_iff (hok : policy.granted mode owner = .ok granted)
    {names : Grantees → StringSet}
    (hnames : ∀ whole part, names (Grantees.absorb whole part) = names whole ∪ names part)
    (hempty : ∀ isPublic, names { isPublic } = ∅) {x : String} {Q : Statement → Prop}
    (hQ : ∀ s g, s.Granted mode owner g → (x ∈ names g ↔ Q s)) :
    x ∈ names (whole granted) ↔ ∃ s ∈ policy.statements, Q s := by
  rw [whole, Grantees.mem_foldl_absorb hnames, hempty,
    or_iff_right (StringSet.not_mem_empty x)]
  exact exists_mem_granted_iff hok hQ

/-- The whole is public iff one of the statements is. -/
theorem whole_isPublic_iff (hok : policy.granted mode owner = .ok granted) :
    (whole granted).isPublic = true ↔ ∃ s ∈ policy.statements, s.IsPublicUnder mode := by
  rw [whole, Grantees.isPublic_foldl_absorb, List.any_eq_true]
  exact exists_mem_granted_iff hok fun _ _ hgranted => hgranted.isPublic

/-- The public statements are reported by their ids. -/
theorem mem_publicIds_iff (hok : policy.granted mode owner = .ok granted) {x : String} :
    x ∈ publicIds granted ↔
      ∃ (i : Nat) (s : Statement), policy.statements[i]? = some s ∧ s.IsPublicUnder mode ∧
        x = s.id i := by
  have hindex : ∀ i : Nat,
      (∃ (s : Statement) (g : Grantees),
        granted[i]? = some (s, g) ∧ g.isPublic = true ∧ x = s.id i) ↔
      ∃ s : Statement, policy.statements[i]? = some s ∧ s.IsPublicUnder mode ∧ x = s.id i :=
    fun i => exists_granted_iff hok (P := fun s g => g.isPublic = true ∧ x = s.id i)
      fun _ _ hgranted => and_congr_left fun _ => hgranted.isPublic
  simp only [← hindex, publicIds, List.mem_map, List.mem_filter, Prod.exists,
    List.mem_zipIdx_iff_getElem?]
  constructor
  · rintro ⟨s, g, i, ⟨hi, hpublic⟩, rfl⟩
    exact ⟨i, s, g, hi, hpublic, rfl⟩
  · rintro ⟨i, s, g, hi, hpublic, rfl⟩
    exact ⟨s, g, i, ⟨hi, hpublic⟩, rfl⟩

end Granted

/-- The row reports the policy under the rules of the mode, seen from the owner. -/
structure Reported (policy : Policy) (mode : Mode) (owner : AccountId) (row : Evaluation) :
    Prop where
  principals : ∀ x, x ∈ row.principals ↔
    ∃ s ∈ policy.statements, s.Counts mode ∧ x ∈ s.awsValues
  services : ∀ x, x ∈ row.services ↔ ∃ s ∈ policy.statements, s.Counts mode ∧ x ∈ s.services
  federated : ∀ x, x ∈ row.federatedIdentities ↔
    ∃ s ∈ policy.statements, s.Counts mode ∧ x ∈ s.federated
  accounts : ∀ x, x ∈ row.accountIds ↔
    ∃ s ∈ policy.statements, s.Counts mode ∧ ((x = "*" ∧ "*" ∈ s.awsValues) ∨
      (x ≠ owner.text ∧ ∃ value ∈ s.awsValues, NamesAccount value x))
  organizations : ∀ x, x ∈ row.organizationIds ↔
    ∃ s ∈ policy.statements, s.Counts mode ∧ mode = .conditionAware ∧ s.NamesOrganization x
  isPublic : row.isPublic = true ↔ ∃ s ∈ policy.statements, s.IsPublicUnder mode
  publicStatementIds : ∀ x, x ∈ row.publicStatementIds ↔ mode = .conditionAware ∧
    ∃ (i : Nat) (s : Statement), policy.statements[i]? = some s ∧ s.IsPublicUnder mode ∧
        x = s.id i

/-- The row of an evaluated policy reports it. -/
theorem evaluate_reported {row : Evaluation} (hok : policy.evaluate mode owner = .ok row) :
    policy.Reported mode owner row := by
  rw [evaluate_eq_map] at hok
  obtain ⟨granted, hgranted, rfl⟩ := map_eq_ok_iff.mp hok
  have hid : ∀ x, x ∈ (row mode granted).publicStatementIds ↔
      mode = .conditionAware ∧ x ∈ publicIds granted := by
    intro x
    refine StringSet.mem_ofList.trans ?_
    cases mode <;> simp
  exact {
    principals x := mem_whole_iff hgranted (fun _ _ => rfl) (fun _ => rfl)
      fun _ _ h => h.principals x
    services x := mem_whole_iff hgranted (fun _ _ => rfl) (fun _ => rfl) fun _ _ h => h.services x
    federated x := mem_whole_iff hgranted (fun _ _ => rfl) (fun _ => rfl)
      fun _ _ h => h.federated x
    accounts x := mem_whole_iff hgranted (fun _ _ => rfl) (fun _ => rfl) fun _ _ h => h.accounts x
    organizations x := mem_whole_iff hgranted (fun _ _ => rfl) (fun _ => rfl)
      fun _ _ h => h.organizations x
    isPublic := whole_isPublic_iff hgranted
    publicStatementIds x := by rw [hid, mem_publicIds_iff hgranted] }

/-- The lists of the row of an evaluated policy ascend. -/
theorem evaluate_ascends {row : Evaluation} (hok : policy.evaluate mode owner = .ok row) :
    row.Ascends := by
  rw [evaluate_eq_map] at hok
  obtain ⟨granted, -, rfl⟩ := map_eq_ok_iff.mp hok
  exact (whole granted).toEvaluation_ascends _

end Policy

namespace Evaluator

variable {evaluator : Evaluator} {policy : Policy} {ownerText : String}

/-- Only an account id is accepted as the owner. -/
theorem owner_of_not_isAccountId (hid : ¬ IsAccountId ownerText) :
    owner ownerText = .error (.invalidAccountId ownerText) := by
  rw [owner, AccountId.ofString?_eq_none_iff.mpr hid]

/-- An account id is accepted as the owner. -/
theorem owner_of_isAccountId (hid : IsAccountId ownerText) :
    owner ownerText = .ok ⟨ownerText, hid⟩ := by
  have hread : AccountId.ofString? ownerText = some ⟨ownerText, hid⟩ :=
    AccountId.ofString?_eq_some_iff.mpr rfl
  rw [owner, hread]

/-- With a valid owner, evaluating a policy is evaluating it for that account. -/
theorem evaluatePolicy_of_isAccountId (hid : IsAccountId ownerText) :
    evaluator.evaluatePolicy policy ownerText =
      policy.evaluate evaluator.mode ⟨ownerText, hid⟩ := by
  rw [evaluatePolicy, owner_of_isAccountId hid]
  rfl

/-- With an invalid owner, evaluating a policy fails before any statement is looked at. -/
theorem evaluatePolicy_of_not_isAccountId (hid : ¬ IsAccountId ownerText) :
    evaluator.evaluatePolicy policy ownerText = .error (.invalidAccountId ownerText) := by
  rw [evaluatePolicy, owner_of_not_isAccountId hid]
  rfl

/-- A policy that is evaluated has a valid owner. -/
theorem isAccountId_of_evaluatePolicy {row : Evaluation}
    (hok : evaluator.evaluatePolicy policy ownerText = .ok row) : IsAccountId ownerText := by
  by_cases hid : IsAccountId ownerText
  · exact hid
  · rw [evaluatePolicy_of_not_isAccountId hid] at hok
    cases hok

/-- The row of a policy reports it, seen from the owner. -/
theorem evaluatePolicy_reported {row : Evaluation}
    (hok : evaluator.evaluatePolicy policy ownerText = .ok row) :
    row.Ascends ∧ ∃ owner : AccountId, owner.text = ownerText ∧
      policy.Reported evaluator.mode owner row := by
  have hid := isAccountId_of_evaluatePolicy hok
  rw [evaluatePolicy_of_isAccountId hid] at hok
  exact ⟨Policy.evaluate_ascends hok, ⟨ownerText, hid⟩, rfl, Policy.evaluate_reported hok⟩

end Evaluator

end ResourcePolicy
