import ResourcePolicy.Proofs.Composition
import ResourcePolicy.Proofs.RowComparison

/-!
# Rearranged policies

A policy may list its statements in any order and any number of times, and so may a statement with
the values of its principal and of its condition entries. Whether the policy is evaluated and what
it grants stay the same. Only the ids made from positions, and the error that comes first, depend on
the order.
-/

namespace ResourcePolicy

section Counterparts

variable {α β : Type} {alike : α → β → Prop} {xs : List α} {ys : List β}

/-- Every member of one list has a counterpart in the other one, and conversely. -/
structure Counterparts (alike : α → β → Prop) (xs : List α) (ys : List β) : Prop where
  forth : ∀ x ∈ xs, ∃ y ∈ ys, alike x y
  back : ∀ y ∈ ys, ∃ x ∈ xs, alike x y

/-- A property that counterparts share is one of some member of both lists or of neither. -/
theorem Counterparts.exists_iff (hlists : Counterparts alike xs ys) {P : α → Prop} {Q : β → Prop}
    (hshared : ∀ x y, alike x y → (P x ↔ Q y)) : (∃ x ∈ xs, P x) ↔ ∃ y ∈ ys, Q y := by
  constructor
  · rintro ⟨x, hx, hP⟩
    obtain ⟨y, hy, halike⟩ := hlists.forth x hx
    exact ⟨y, hy, (hshared x y halike).mp hP⟩
  · rintro ⟨y, hy, hQ⟩
    obtain ⟨x, hx, halike⟩ := hlists.back y hy
    exact ⟨x, hx, (hshared x y halike).mpr hQ⟩

/-- A property that counterparts share is one of all members of both lists or of neither. -/
theorem Counterparts.forall_iff (hlists : Counterparts alike xs ys) {P : α → Prop} {Q : β → Prop}
    (hshared : ∀ x y, alike x y → (P x ↔ Q y)) : (∀ x ∈ xs, P x) ↔ ∀ y ∈ ys, Q y := by
  constructor
  · intro hP y hy
    obtain ⟨x, hx, halike⟩ := hlists.back y hy
    exact (hshared x y halike).mp (hP x hx)
  · intro hQ x hx
    obtain ⟨y, hy, halike⟩ := hlists.forth x hx
    exact (hshared x y halike).mpr (hQ y hy)

/-- Ascending lists of what the members give are equal if counterparts give the same. -/
theorem Counterparts.names_eq (hlists : Counterparts alike xs ys) {names otherNames : List String}
    (hascending : Ascending id names) (hotherAscending : Ascending id otherNames)
    {gives : α → String → Prop} {otherGives : β → String → Prop}
    (hnames : ∀ name, name ∈ names ↔ ∃ x ∈ xs, gives x name)
    (hotherNames : ∀ name, name ∈ otherNames ↔ ∃ y ∈ ys, otherGives y name)
    (hgives : ∀ x y, alike x y → ∀ name, gives x name ↔ otherGives y name) :
    names = otherNames := by
  refine hascending.eq_of_forall_mem_iff hotherAscending hnames fun name => ?_
  rw [hotherNames, hlists.exists_iff fun x y halike => hgives x y halike name]

end Counterparts

/-- The same texts are given, in any order and any number of times. -/
def Values.Rearranged (values other : Values) : Prop :=
  ∀ text, text ∈ values.toList ↔ text ∈ other.toList

/-- The values of each type are rearranged. -/
structure PrincipalTypes.Rearranged (types other : PrincipalTypes) : Prop where
  aws : types.aws.Rearranged other.aws
  service : types.service.Rearranged other.service
  federated : types.federated.Rearranged other.federated

/-- The principals are the same up to the order and the repetition of their values. -/
inductive Principal.Rearranged : Principal → Principal → Prop where
  | any : Rearranged any any
  | named {types other : PrincipalTypes} (htypes : types.Rearranged other) :
    Rearranged (named types) (named other)

namespace Condition

/-- The entries stand under the same operator and key and have rearranged values. -/
structure Entry.Rearranged (entry other : Entry) : Prop where
  operator : entry.operator = other.operator
  key : entry.key = other.key
  values : entry.values.Rearranged other.values

/-- The conditions have the same entries up to the order and the repetition of the values. -/
def Rearranged (condition other : Condition) : Prop :=
  Counterparts Entry.Rearranged condition.entries other.entries

/-- An entry narrows whatever the order and the repetition of its values. -/
theorem Entry.Rearranged.narrows_iff {entry other : Entry} (halike : entry.Rearranged other) :
    entry.Narrows ↔ other.Narrows := by
  obtain ⟨hoperator, hkey, hvalues⟩ := halike
  have hopen : (∀ value ∈ entry.values.toList, ¬ LeavesAccountOpen value) ↔
      ∀ value ∈ other.values.toList, ¬ LeavesAccountOpen value :=
    forall_congr' fun value => imp_congr_left (hvalues value)
  constructor
  · rintro ⟨hnarrowing, htrusted, hclosed⟩
    rw [hoperator] at hnarrowing
    rw [hkey] at htrusted hclosed
    exact ⟨hnarrowing, htrusted, fun harns => hopen.mp (hclosed harns)⟩
  · rintro ⟨hnarrowing, htrusted, hclosed⟩
    rw [← hoperator] at hnarrowing
    rw [← hkey] at htrusted hclosed
    exact ⟨hnarrowing, htrusted, fun harns => hopen.mpr (hclosed harns)⟩

end Condition

namespace Statement

/-- The statements are equal except that the values of their principals and of their condition
entries may be rearranged. -/
structure Rearranged (s t : Statement) : Prop where
  sid : s.sid = t.sid
  effectText : s.effectText = t.effectText
  principal : Option.Rel Principal.Rearranged s.principal t.principal
  notPrincipal : Option.Rel Principal.Rearranged s.notPrincipal t.notPrincipal
  action : s.action = t.action
  notAction : s.notAction = t.notAction
  resource : s.resource = t.resource
  notResource : s.notResource = t.notResource
  condition : Option.Rel Condition.Rearranged s.condition t.condition

namespace Rearranged

variable {s t : Statement} {mode : Mode}

theorem namedTypes (halike : s.Rearranged t) : s.namedTypes.Rearranged t.namedTypes := by
  have hprincipal := halike.principal
  unfold Statement.namedTypes
  generalize s.principal = principal at hprincipal ⊢
  generalize t.principal = other at hprincipal ⊢
  cases hprincipal with
  | none => exact ⟨fun _ => Iff.rfl, fun _ => Iff.rfl, fun _ => Iff.rfl⟩
  | some hprincipal =>
    cases hprincipal with
    | any => exact ⟨fun _ => Iff.rfl, fun _ => Iff.rfl, fun _ => Iff.rfl⟩
    | named htypes => exact htypes

theorem conditionEntries (halike : s.Rearranged t) :
    Counterparts Condition.Entry.Rearranged s.conditionEntries t.conditionEntries := by
  have hcondition := halike.condition
  unfold Statement.conditionEntries
  generalize s.condition = condition at hcondition ⊢
  generalize t.condition = other at hcondition ⊢
  cases hcondition with
  | none => exact ⟨fun _ h => absurd h List.not_mem_nil, fun _ h => absurd h List.not_mem_nil⟩
  | some hentries => exact hentries

theorem mem_awsValues_iff (halike : s.Rearranged t) (x : String) :
    x ∈ s.awsValues ↔ x ∈ t.awsValues :=
  halike.namedTypes.aws x

theorem mem_services_iff (halike : s.Rearranged t) (x : String) :
    x ∈ s.services ↔ x ∈ t.services :=
  halike.namedTypes.service x

theorem mem_federated_iff (halike : s.Rearranged t) (x : String) :
    x ∈ s.federated ↔ x ∈ t.federated :=
  halike.namedTypes.federated x

theorem allows_iff (halike : s.Rearranged t) : s.Allows ↔ t.Allows := by
  rw [Allows, Allows, halike.effectText]

theorem denies_iff (halike : s.Rearranged t) : s.Denies ↔ t.Denies := by
  rw [Denies, Denies, halike.effectText]

theorem counts_iff (halike : s.Rearranged t) : s.Counts mode ↔ t.Counts mode := by
  rw [Counts, Counts, halike.allows_iff, halike.notAction]

theorem namesOrganization_iff (halike : s.Rearranged t) (x : String) :
    s.NamesOrganization x ↔ t.NamesOrganization x := by
  rw [namesOrganization_iff_exists, namesOrganization_iff_exists]
  refine halike.conditionEntries.exists_iff fun entry other hentry => ?_
  rw [hentry.key, hentry.values x]

theorem isNarrowed_iff (halike : s.Rearranged t) : s.IsNarrowed ↔ t.IsNarrowed := by
  rw [isNarrowed_iff_exists, isNarrowed_iff_exists]
  exact halike.conditionEntries.exists_iff fun _ _ hentry => hentry.narrows_iff

theorem namesAnyone_iff (halike : s.Rearranged t) : s.NamesAnyone ↔ t.NamesAnyone := by
  have hservices : s.services = [] ↔ t.services = [] := by
    simp only [List.eq_nil_iff_forall_not_mem, halike.mem_services_iff]
  rw [NamesAnyone, NamesAnyone, halike.mem_awsValues_iff, ne_eq, ne_eq, hservices]

/-- A statement is public whatever the order and the repetition of its values. -/
theorem isPublicUnder_iff (halike : s.Rearranged t) :
    s.IsPublicUnder mode ↔ t.IsPublicUnder mode := by
  cases mode with
  | legacy =>
    rw [IsPublicUnder, IsPublicUnder, halike.allows_iff, halike.namesAnyone_iff]
  | conditionAware =>
    rw [IsPublicUnder, IsPublicUnder, IsPublic, IsPublic, halike.allows_iff,
      halike.namesAnyone_iff, halike.isNarrowed_iff, halike.notAction]

/-- A statement has some error or none whatever the order and the repetition of its values, though
another value may be refused first. -/
theorem forall_not_hasError_iff (halike : s.Rearranged t) :
    (∀ e, ¬ s.HasError mode e) ↔ ∀ e, ¬ t.HasError mode e := by
  rw [Statement.forall_not_hasError_iff, Statement.forall_not_hasError_iff, halike.allows_iff,
    halike.denies_iff, halike.counts_iff]
  simp only [halike.mem_awsValues_iff]

end Rearranged

end Statement

namespace Policy

/-- Every statement of one policy has a counterpart in the other one, and conversely. -/
def Rearranged (policy other : Policy) : Prop :=
  Counterparts Statement.Rearranged policy.statements other.statements

variable {policy other : Policy} {mode : Mode} {owner : AccountId} {row otherRow : Evaluation}

/-- A rearranged policy is evaluated iff the policy is. -/
theorem Rearranged.exists_evaluate_iff (hrearranged : policy.Rearranged other) :
    (∃ row, policy.evaluate mode owner = .ok row) ↔
      ∃ row, other.evaluate mode owner = .ok row := by
  rw [Policy.exists_evaluate_iff, Policy.exists_evaluate_iff]
  exact hrearranged.forall_iff fun _ _ halike => halike.forall_not_hasError_iff

/-- The rows of rearranged policies report the same grants. -/
theorem Rearranged.sameGrants (hrearranged : policy.Rearranged other)
    (hrow : policy.Reported mode owner row) (hother : other.Reported mode owner otherRow)
    (hascends : row.Ascends) (hotherAscends : otherRow.Ascends) : row.SameGrants otherRow := by
  have halike : policy.NamesAlike mode other mode := by
    refine ⟨fun x => ?_, fun x => ?_, fun x => ?_⟩ <;>
      refine hrearranged.exists_iff fun s t halike => ?_
    · rw [halike.counts_iff, halike.mem_awsValues_iff]
    · rw [halike.counts_iff, halike.mem_services_iff]
    · rw [halike.counts_iff, halike.mem_federated_iff]
  refine halike.sameGrants hrow hascends hotherAscends hother (fun x => ?_) ?_
  · refine hrearranged.exists_iff fun s t halike => ?_
    rw [halike.counts_iff, halike.namesOrganization_iff]
  · exact hrearranged.exists_iff fun _ _ halike => halike.isPublicUnder_iff

/-- Where every public statement has a name of its own, the policy reports these names. -/
theorem Reported.mem_publicStatementIds_of_sids (hrow : policy.Reported .conditionAware owner row)
    (hsids : ∀ s ∈ policy.statements, s.IsPublic → ∃ sid, s.sid = some sid ∧ sid ≠ "")
    (x : String) :
    x ∈ row.publicStatementIds ↔ ∃ s ∈ policy.statements, s.IsPublic ∧ s.sid = some x := by
  rw [hrow.mem_publicStatementIds_iff_reportsFrom, reportsFrom_iff_exists_sid hsids,
    and_iff_right rfl]
  rfl

/-- The rows of rearranged policies report the same public statements if these have names of their
own. -/
theorem Rearranged.publicStatementIds_eq (hrearranged : policy.Rearranged other)
    (hrow : policy.Reported .conditionAware owner row)
    (hother : other.Reported .conditionAware owner otherRow) (hascends : row.Ascends)
    (hotherAscends : otherRow.Ascends)
    (hsids : ∀ s ∈ policy.statements, s.IsPublic → ∃ sid, s.sid = some sid ∧ sid ≠ "") :
    row.publicStatementIds = otherRow.publicStatementIds := by
  have hpublic : ∀ s t : Statement, s.Rearranged t → (s.IsPublic ↔ t.IsPublic) := by
    intro s t halike
    have hunder : s.IsPublicUnder .conditionAware ↔ t.IsPublicUnder .conditionAware :=
      halike.isPublicUnder_iff
    exact hunder
  have hotherSids : ∀ t ∈ other.statements, t.IsPublic → ∃ sid, t.sid = some sid ∧ sid ≠ "" := by
    refine (hrearranged.forall_iff fun s t halike => ?_).mp hsids
    rw [hpublic s t halike, halike.sid]
  refine hrearranged.names_eq hascends.publicStatementIds hotherAscends.publicStatementIds
    (hrow.mem_publicStatementIds_of_sids hsids)
    (hother.mem_publicStatementIds_of_sids hotherSids) fun s t halike x => ?_
  rw [hpublic s t halike, halike.sid]

end Policy

namespace Evaluator

/-- A rearranged policy is evaluated iff the policy is, and grants the same; where no id is made
from a position, it has the same row. -/
theorem evaluatePolicy_of_rearranged {policy other : Policy}
    (hrearranged : policy.Rearranged other) (evaluator : Evaluator) (ownerText : String) :
    ((∃ row, evaluator.evaluatePolicy policy ownerText = .ok row) ↔
      ∃ row, evaluator.evaluatePolicy other ownerText = .ok row) ∧
    ∀ row otherRow, evaluator.evaluatePolicy policy ownerText = .ok row →
      evaluator.evaluatePolicy other ownerText = .ok otherRow →
      row.SameGrants otherRow ∧
      ((evaluator.mode = .legacy ∨ ∀ s ∈ policy.statements, s.IsPublic →
          ∃ sid, s.sid = some sid ∧ sid ≠ "") →
        row = otherRow) := by
  obtain ⟨mode⟩ := evaluator
  constructor
  · by_cases hid : IsAccountId ownerText
    · simp only [evaluatePolicy_of_isAccountId hid]
      exact hrearranged.exists_evaluate_iff
    · simp only [evaluatePolicy_of_not_isAccountId hid, reduceCtorEq, exists_false]
  · intro row otherRow hok hother
    have hid := isAccountId_of_evaluatePolicy hok
    rw [evaluatePolicy_of_isAccountId hid] at hok hother
    have hrow := Policy.evaluate_reported hok
    have hotherRow := Policy.evaluate_reported hother
    have hascends := Policy.evaluate_ascends hok
    have hotherAscends := Policy.evaluate_ascends hother
    have hgrants := hrearranged.sameGrants hrow hotherRow hascends hotherAscends
    refine ⟨hgrants, fun hnames => ?_⟩
    have hids : row.publicStatementIds = otherRow.publicStatementIds := by
      cases mode with
      | legacy => rw [hrow.publicStatementIds_of_legacy, hotherRow.publicStatementIds_of_legacy]
      | conditionAware =>
        have hsids := hnames.resolve_left (by decide)
        exact hrearranged.publicStatementIds_eq hrow hotherRow hascends hotherAscends hsids
    exact hgrants.eq hids (Policy.evaluate_leavesReserved hok)
      (Policy.evaluate_leavesReserved hother)

/-- Two statements change places, one of them comes twice, and its values are repeated in another
order. -/
theorem evaluatePolicy_of_rearranged_of_two :
    let limited := fun aws organizations : List String => ({
      sid := some "Limited"
      effectText := some "Allow"
      principal := some (.named { aws := ⟨aws⟩ })
      condition := some (Condition.empty.withEntry "StringEquals" "aws:PrincipalOrgID"
        ⟨organizations⟩) } : Statement)
    let topic : Statement := {
      sid := some "Topic"
      effectText := some "Allow"
      principal := some (.named { service := ⟨["sns.amazonaws.com"]⟩ }) }
    let policy : Policy :=
      { statements := [limited ["*", "111122223333"] ["o-1", "o-2"], topic] }
    let other : Policy := { statements := [topic, limited ["111122223333", "*"] ["o-2", "o-1"],
      limited ["*", "*", "111122223333"] ["o-1", "o-2"]] }
    let row : Evaluation := {
      organizationIds := ["o-1", "o-2"]
      principals := ["*", "111122223333"]
      accountIds := ["*", "111122223333"]
      services := ["sns.amazonaws.com"]
      isPublic := true
      publicStatementIds := ["Topic"] }
    policy.Rearranged other ∧
      Evaluator.evaluatePolicy ⟨.conditionAware⟩ policy "012345678901" = .ok row ∧
      Evaluator.evaluatePolicy ⟨.conditionAware⟩ other "012345678901" = .ok row := by
  intro limited topic policy other row
  have hlimited : ∀ aws aws' organizations organizations' : List String,
      (∀ x, x ∈ aws ↔ x ∈ aws') → (∀ x, x ∈ organizations ↔ x ∈ organizations') →
      (limited aws organizations).Rearranged (limited aws' organizations') := by
    intro aws aws' organizations organizations' haws horganizations
    have hcondition : Condition.Rearranged
        (Condition.empty.withEntry "StringEquals" "aws:PrincipalOrgID" ⟨organizations⟩)
        (Condition.empty.withEntry "StringEquals" "aws:PrincipalOrgID" ⟨organizations'⟩) := by
      have hentry : Condition.Entry.Rearranged
          ⟨"StringEquals", "aws:PrincipalOrgID", ⟨organizations⟩⟩
          ⟨"StringEquals", "aws:PrincipalOrgID", ⟨organizations'⟩⟩ := ⟨rfl, rfl, horganizations⟩
      constructor
      · intro entry hmem
        exact ⟨_, List.mem_singleton_self _, List.mem_singleton.mp hmem ▸ hentry⟩
      · intro entry hmem
        exact ⟨_, List.mem_singleton_self _, List.mem_singleton.mp hmem ▸ hentry⟩
    have hprincipal : Principal.Rearranged (.named { aws := ⟨aws⟩ }) (.named { aws := ⟨aws'⟩ }) :=
      .named ⟨haws, fun _ => Iff.rfl, fun _ => Iff.rfl⟩
    exact ⟨rfl, rfl, .some hprincipal, .none, rfl, rfl, rfl, rfl, .some hcondition⟩
  have htopic : topic.Rearranged topic :=
    ⟨rfl, rfl, .some (.named ⟨fun _ => Iff.rfl, fun _ => Iff.rfl, fun _ => Iff.rfl⟩), .none, rfl,
      rfl, rfl, rfl, .none⟩
  have hrearranged : policy.Rearranged other := by
    have hfirst := hlimited ["*", "111122223333"] ["111122223333", "*"] ["o-1", "o-2"]
      ["o-2", "o-1"] (by simp [or_comm]) (by simp [or_comm])
    have hsecond := hlimited ["*", "111122223333"] ["*", "*", "111122223333"] ["o-1", "o-2"]
      ["o-1", "o-2"] (by simp) (by simp)
    constructor
    · simp only [policy, other, List.forall_mem_cons]
      exact ⟨⟨_, by simp, hfirst⟩, ⟨topic, by simp, htopic⟩, by simp⟩
    · simp only [policy, other, List.forall_mem_cons]
      exact ⟨⟨topic, by simp, htopic⟩, ⟨_, by simp, hfirst⟩, ⟨_, by simp, hsecond⟩, by simp⟩
  have hok : Evaluator.evaluatePolicy ⟨.conditionAware⟩ policy "012345678901" = .ok row := by
    decide +kernel
  obtain ⟨hevaluated, hrows⟩ :=
    evaluatePolicy_of_rearranged hrearranged ⟨.conditionAware⟩ "012345678901"
  obtain ⟨otherRow, hother⟩ := hevaluated.mp ⟨row, hok⟩
  obtain ⟨-, hsame⟩ := hrows row otherRow hok hother
  have hsids : ∀ s ∈ policy.statements, s.IsPublic → ∃ sid, s.sid = some sid ∧ sid ≠ "" := by
    intro s hs _
    rcases List.mem_cons.mp hs with rfl | hs
    · exact ⟨"Limited", rfl, by decide⟩
    · rw [List.mem_singleton.mp hs]
      exact ⟨"Topic", rfl, by decide⟩
  obtain rfl : row = otherRow := hsame (Or.inr hsids)
  exact ⟨hrearranged, hok, hother⟩

end Evaluator

end ResourcePolicy
