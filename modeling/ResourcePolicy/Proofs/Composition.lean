import Mathlib.Control.Monad.Basic
import ResourcePolicy.Proofs.Failures

/-!
# Evaluating two lists of statements in a row

A policy whose statements are those of a front and a back policy, one after the other, is
evaluated exactly when both are, and fails over the front before the back. Its row joins the two
rows. Only the ids made from positions differ: the statements of the back policy stand further
down.
-/

namespace ResourcePolicy

/-- The list is the union of two others: it ascends strictly and has their members only. -/
structure IsUnion (whole front back : List String) : Prop where
  ascending : Ascending id whole
  mem_iff : ∀ x, x ∈ whole ↔ x ∈ front ∨ x ∈ back

/-- A union has the members of its front part. -/
theorem IsUnion.front_subset {whole front back : List String} (hunion : IsUnion whole front back) :
    front ⊆ whole := by
  intro x hx
  have hor : x ∈ front ∨ x ∈ back := Or.inl hx
  exact (hunion.mem_iff x).mpr hor

/-- What some statement of two lists in a row gives is given by one of the first list or by one
of the second. -/
theorem isUnion_of_append {all frontPart backPart : List Statement}
    (hall : all = frontPart ++ backPart) {gives : Statement → String → Prop}
    {names frontNames backNames : List String} (hascending : Ascending id names)
    (hnames : ∀ x, x ∈ names ↔ ∃ s ∈ all, gives s x)
    (hfront : ∀ x, x ∈ frontNames ↔ ∃ s ∈ frontPart, gives s x)
    (hback : ∀ x, x ∈ backNames ↔ ∃ s ∈ backPart, gives s x) :
    IsUnion names frontNames backNames := by
  refine ⟨hascending, fun x => ?_⟩
  rw [hnames, hfront, hback, hall]
  simp only [List.mem_append, or_and_right, exists_or]

namespace Evaluation

/-- The row joins two others: each of the five lists is the union of theirs, and it is public if
one of them is. -/
structure Joins (row front back : Evaluation) : Prop where
  principals : IsUnion row.principals front.principals back.principals
  services : IsUnion row.services front.services back.services
  federated : IsUnion row.federatedIdentities front.federatedIdentities back.federatedIdentities
  accounts : IsUnion row.accountIds front.accountIds back.accountIds
  organizations : IsUnion row.organizationIds front.organizationIds back.organizationIds
  isPublic : row.isPublic = (front.isPublic || back.isPublic)

/-- The row keeps what another one lists, and stays public if that one is. -/
structure Keeps (row other : Evaluation) : Prop where
  principals : other.principals ⊆ row.principals
  services : other.services ⊆ row.services
  federated : other.federatedIdentities ⊆ row.federatedIdentities
  accounts : other.accountIds ⊆ row.accountIds
  organizations : other.organizationIds ⊆ row.organizationIds
  isPublic : other.isPublic = true → row.isPublic = true

/-- A row that joins two others keeps what the front one lists. -/
theorem Joins.keeps {row front back : Evaluation} (hjoins : row.Joins front back) :
    row.Keeps front where
  principals := hjoins.principals.front_subset
  services := hjoins.services.front_subset
  federated := hjoins.federated.front_subset
  accounts := hjoins.accounts.front_subset
  organizations := hjoins.organizations.front_subset
  isPublic := by
    intro hpublic
    rw [hjoins.isPublic, hpublic, Bool.true_or]

end Evaluation

/-- A statement with a name of its own is reported under it at any index. -/
theorem Statement.id_of_sid {s : Statement} {sid : String} (hsid : s.sid = some sid)
    (hname : sid ≠ "") (index : Nat) : s.id index = sid := by
  have hnonempty : ¬ sid.isEmpty = true := fun hempty => hname (String.isEmpty_iff.mp hempty)
  unfold Statement.id
  rw [hsid]
  exact if_neg hnonempty

/-- An index of two lists in a row belongs to the first list, or to the second one further
down. -/
theorem getElem?_append_eq_some_iff {α : Type} {xs ys : List α} {i : Nat} {x : α} :
    (xs ++ ys)[i]? = some x ↔ xs[i]? = some x ∨ ∃ j, i = xs.length + j ∧ ys[j]? = some x := by
  rw [List.getElem?_append]
  split
  · rename_i hlt
    refine (or_iff_left ?_).symm
    rintro ⟨j, hij, -⟩
    omega
  · rename_i hge
    have hnone : xs[i]? = none := List.getElem?_eq_none (by omega)
    rw [hnone]
    constructor
    · intro hx
      exact Or.inr ⟨i - xs.length, by omega, hx⟩
    · rintro (hx | ⟨j, hij, hx⟩)
      · cases hx
      · have hj : i - xs.length = j := by omega
        rwa [hj]

namespace Policy

/-- A public statement of the policy is reported under the name when its index is counted from
the given offset. -/
def ReportsFrom (policy : Policy) (mode : Mode) (offset : Nat) (name : String) : Prop :=
  mode = .conditionAware ∧ ∃ (i : Nat) (s : Statement), policy.statements[i]? = some s ∧
    s.IsPublicUnder mode ∧ name = s.id (offset + i)

section Append

variable {whole front back : Policy} {mode : Mode} {owner : AccountId}
variable {row frontRow backRow : Evaluation}

/-- The whole fails over the front, or else over the back. -/
theorem evaluate_append_eq_error_iff
    (hstatements : whole.statements = front.statements ++ back.statements) {error : PolicyError} :
    whole.evaluate mode owner = .error error ↔
      front.evaluate mode owner = .error error ∨
        (∃ row, front.evaluate mode owner = .ok row) ∧
          back.evaluate mode owner = .error error := by
  have hfront : (∃ row, front.evaluate mode owner = .ok row) ↔
      ∀ e, ¬ FirstError (Statement.HasError mode) front.statements e := by
    rw [exists_ok_iff]
    exact forall_congr' fun e => not_congr evaluate_eq_error_iff_hasError
  rw [hfront]
  simp only [evaluate_eq_error_iff_hasError]
  rw [hstatements, firstError_append]

/-- The row of the whole joins the rows of its parts. -/
theorem joins_of_append (hstatements : whole.statements = front.statements ++ back.statements)
    (hascends : row.Ascends) (hrow : whole.Reported mode owner row)
    (hfront : front.Reported mode owner frontRow) (hback : back.Reported mode owner backRow) :
    row.Joins frontRow backRow where
  principals :=
    isUnion_of_append hstatements hascends.principals hrow.principals hfront.principals
      hback.principals
  services :=
    isUnion_of_append hstatements hascends.services hrow.services hfront.services hback.services
  federated :=
    isUnion_of_append hstatements hascends.federated hrow.federated hfront.federated
      hback.federated
  accounts :=
    isUnion_of_append hstatements hascends.accounts hrow.accounts hfront.accounts hback.accounts
  organizations :=
    isUnion_of_append hstatements hascends.organizations hrow.organizations hfront.organizations
      hback.organizations
  isPublic := by
    rw [Bool.eq_iff_iff, Bool.or_eq_true, hrow.isPublic, hfront.isPublic, hback.isPublic,
      hstatements]
    simp only [List.mem_append, or_and_right, exists_or]

/-- The whole reports what the front reports, and what the back reports when its statements are
counted from the end of the front. -/
theorem reportsFrom_append
    (hstatements : whole.statements = front.statements ++ back.statements) (offset : Nat)
    (name : String) :
    whole.ReportsFrom mode offset name ↔
      front.ReportsFrom mode offset name ∨
        back.ReportsFrom mode (offset + front.statements.length) name := by
  rw [ReportsFrom, ReportsFrom, ReportsFrom, hstatements, ← and_or_left]
  refine and_congr_right fun _ => ?_
  simp only [getElem?_append_eq_some_iff]
  constructor
  · rintro ⟨i, s, hs | ⟨j, rfl, hs⟩, hpublic, hname⟩
    · exact Or.inl ⟨i, s, hs, hpublic, hname⟩
    · exact Or.inr ⟨j, s, hs, hpublic, by rwa [Nat.add_assoc]⟩
  · rintro (⟨i, s, hs, hpublic, hname⟩ | ⟨j, s, hs, hpublic, hname⟩)
    · exact ⟨i, s, Or.inl hs, hpublic, hname⟩
    · exact ⟨front.statements.length + j, s, Or.inr ⟨j, rfl, hs⟩, hpublic, by
        rwa [← Nat.add_assoc]⟩

/-- The ids of a row are reported with positions counted from the first statement. -/
theorem Reported.mem_publicStatementIds_iff_reportsFrom (hrow : whole.Reported mode owner row)
    {name : String} : name ∈ row.publicStatementIds ↔ whole.ReportsFrom mode 0 name := by
  simp only [hrow.publicStatementIds, ReportsFrom, Nat.zero_add]

/-- The ids of the whole are those of the front, and those of the back counted from its end. -/
theorem mem_publicStatementIds_append
    (hstatements : whole.statements = front.statements ++ back.statements)
    (hrow : whole.Reported mode owner row) (hfront : front.Reported mode owner frontRow)
    (name : String) :
    name ∈ row.publicStatementIds ↔
      name ∈ frontRow.publicStatementIds ∨
        back.ReportsFrom mode front.statements.length name := by
  rw [hrow.mem_publicStatementIds_iff_reportsFrom, hfront.mem_publicStatementIds_iff_reportsFrom,
    reportsFrom_append hstatements, Nat.zero_add]

/-- Where every public statement has a name of its own, these names are reported from any offset. -/
theorem reportsFrom_iff_exists_sid {policy : Policy}
    (hsids : ∀ s ∈ policy.statements, s.IsPublicUnder mode → ∃ sid, s.sid = some sid ∧ sid ≠ "")
    {offset : Nat} {name : String} :
    policy.ReportsFrom mode offset name ↔ mode = .conditionAware ∧
      ∃ s ∈ policy.statements, s.IsPublicUnder mode ∧ s.sid = some name := by
  refine and_congr_right fun _ => ?_
  constructor
  · rintro ⟨i, s, hs, hpublic, rfl⟩
    have hmem := List.mem_of_getElem? hs
    obtain ⟨sid, hsid, hname⟩ := hsids s hmem hpublic
    exact ⟨s, hmem, hpublic, by rw [Statement.id_of_sid hsid hname, hsid]⟩
  · rintro ⟨s, hmem, hpublic, hsid⟩
    obtain ⟨i, hs⟩ := List.mem_iff_getElem?.mp hmem
    obtain ⟨sid, hown, hname⟩ := hsids s hmem hpublic
    obtain rfl : sid = name := Option.some.inj (hown.symm.trans hsid)
    exact ⟨i, s, hs, hpublic, (Statement.id_of_sid hsid hname _).symm⟩

/-- Where every public statement has a name of its own, the ids do not depend on the offset. -/
theorem reportsFrom_iff_of_sids (hback : back.Reported mode owner backRow)
    (hsids : ∀ s ∈ back.statements, s.IsPublicUnder mode → ∃ sid, s.sid = some sid ∧ sid ≠ "")
    (offset : Nat) (name : String) :
    back.ReportsFrom mode offset name ↔ name ∈ backRow.publicStatementIds := by
  rw [hback.mem_publicStatementIds_iff_reportsFrom, reportsFrom_iff_exists_sid hsids,
    reportsFrom_iff_exists_sid hsids]

end Append

end Policy

namespace Evaluator

variable {evaluator : Evaluator} {whole front back : Policy} {ownerText : String}

/-- The whole fails over the front, or else over the back, whoever is given as the owner. -/
theorem evaluatePolicy_append_eq_error_iff
    (hstatements : whole.statements = front.statements ++ back.statements) {error : PolicyError} :
    evaluator.evaluatePolicy whole ownerText = .error error ↔
      evaluator.evaluatePolicy front ownerText = .error error ∨
        (∃ row, evaluator.evaluatePolicy front ownerText = .ok row) ∧
          evaluator.evaluatePolicy back ownerText = .error error := by
  by_cases hid : IsAccountId ownerText
  · simp only [evaluatePolicy_of_isAccountId hid]
    exact Policy.evaluate_append_eq_error_iff hstatements
  · simp only [evaluatePolicy_of_not_isAccountId hid, reduceCtorEq, exists_false, false_and,
      or_false]

/-- The whole is evaluated iff both parts are. -/
theorem exists_evaluatePolicy_append_iff
    (hstatements : whole.statements = front.statements ++ back.statements) :
    (∃ row, evaluator.evaluatePolicy whole ownerText = .ok row) ↔
      (∃ row, evaluator.evaluatePolicy front ownerText = .ok row) ∧
        ∃ row, evaluator.evaluatePolicy back ownerText = .ok row := by
  have herror := @evaluatePolicy_append_eq_error_iff evaluator _ _ _ ownerText hstatements
  constructor
  · intro hwhole
    have hnone := exists_ok_iff.mp hwhole
    have hfront : ∃ row, evaluator.evaluatePolicy front ownerText = .ok row :=
      exists_ok_iff.mpr fun e he => hnone e (herror.mpr (Or.inl he))
    exact ⟨hfront, exists_ok_iff.mpr fun e he => hnone e (herror.mpr (Or.inr ⟨hfront, he⟩))⟩
  · rintro ⟨hfront, hback⟩
    refine exists_ok_iff.mpr fun e he => ?_
    rcases herror.mp he with hfails | ⟨-, hfails⟩
    · exact exists_ok_iff.mp hfront e hfails
    · exact exists_ok_iff.mp hback e hfails

/-- Evaluating two lists of statements in a row, from the evaluations of both. -/
theorem evaluatePolicy_append
    (hstatements : whole.statements = front.statements ++ back.statements) :
    -- Both parts have to succeed.
    ((∃ row, evaluator.evaluatePolicy whole ownerText = .ok row) ↔
      (∃ row, evaluator.evaluatePolicy front ownerText = .ok row) ∧
        ∃ row, evaluator.evaluatePolicy back ownerText = .ok row) ∧
    -- The error of the front comes before that of the back.
    (∀ error, evaluator.evaluatePolicy front ownerText = .error error →
      evaluator.evaluatePolicy whole ownerText = .error error) ∧
    (∀ row error, evaluator.evaluatePolicy front ownerText = .ok row →
      evaluator.evaluatePolicy back ownerText = .error error →
      evaluator.evaluatePolicy whole ownerText = .error error) ∧
    ∀ row frontRow backRow, evaluator.evaluatePolicy whole ownerText = .ok row →
      evaluator.evaluatePolicy front ownerText = .ok frontRow →
      evaluator.evaluatePolicy back ownerText = .ok backRow →
      -- The lists are united, and nothing of the front is lost.
      row.Joins frontRow backRow ∧ row.Keeps frontRow ∧
      -- The ids of the back are counted from the end of the front.
      Ascending id row.publicStatementIds ∧
      (∀ name, name ∈ row.publicStatementIds ↔ name ∈ frontRow.publicStatementIds ∨
        back.ReportsFrom evaluator.mode front.statements.length name) ∧
      ((∀ s ∈ back.statements, s.IsPublicUnder evaluator.mode →
          ∃ sid, s.sid = some sid ∧ sid ≠ "") →
        IsUnion row.publicStatementIds frontRow.publicStatementIds
          backRow.publicStatementIds) := by
  refine ⟨exists_evaluatePolicy_append_iff hstatements, ?_, ?_, ?_⟩
  · intro error hfront
    exact (evaluatePolicy_append_eq_error_iff hstatements).mpr (Or.inl hfront)
  · intro row error hfront hback
    exact (evaluatePolicy_append_eq_error_iff hstatements).mpr (Or.inr ⟨⟨row, hfront⟩, hback⟩)
  · intro row frontRow backRow hwhole hfront hback
    have hid := isAccountId_of_evaluatePolicy hwhole
    rw [evaluatePolicy_of_isAccountId hid] at hwhole hfront hback
    have hascends := Policy.evaluate_ascends hwhole
    have hrow := Policy.evaluate_reported hwhole
    have hfrontRow := Policy.evaluate_reported hfront
    have hbackRow := Policy.evaluate_reported hback
    have hjoins := Policy.joins_of_append hstatements hascends hrow hfrontRow hbackRow
    have hids := Policy.mem_publicStatementIds_append hstatements hrow hfrontRow
    refine ⟨hjoins, hjoins.keeps, hascends.publicStatementIds, hids, fun hsids => ?_⟩
    refine ⟨hascends.publicStatementIds, fun name => ?_⟩
    rw [hids, Policy.reportsFrom_iff_of_sids hbackRow hsids]

/-- A statement without a name is reported under its place in the whole; where the second
statement has a name, the ids are just united. -/
theorem evaluatePolicy_append_of_two_public :
    let unnamed : Statement := { effectText := some "Allow", principal := some .any }
    let named : Statement := {
      sid := some "Topic"
      effectText := some "Allow"
      principal := some (.named { aws := ⟨["*"]⟩, service := ⟨["sns.amazonaws.com"]⟩ }) }
    let unnamedRow : Evaluation := {
      principals := ["*"]
      accountIds := ["*"]
      isPublic := true
      publicStatementIds := ["Statement[1]"] }
    let namedRow : Evaluation := {
      principals := ["*"]
      accountIds := ["*"]
      services := ["sns.amazonaws.com"]
      isPublic := true
      publicStatementIds := ["Topic"] }
    let evaluate := fun statements : List Statement =>
      Evaluator.evaluatePolicy ⟨.conditionAware⟩ { statements } "012345678901"
    evaluate [unnamed] = .ok unnamedRow ∧ evaluate [named] = .ok namedRow ∧
      (∃ row, evaluate [named, unnamed] = .ok row ∧ row.Joins namedRow unnamedRow ∧
        "Statement[2]" ∈ row.publicStatementIds) ∧
      ∃ row, evaluate [unnamed, named] = .ok row ∧
        IsUnion row.publicStatementIds ["Statement[1]"] ["Topic"] := by
  intro unnamed named unnamedRow namedRow evaluate
  have hunnamed : evaluate [unnamed] = .ok unnamedRow := by decide +kernel
  have hnamed : evaluate [named] = .ok namedRow := by decide +kernel
  refine ⟨hunnamed, hnamed, ?_, ?_⟩
  · obtain ⟨hsuccess, -, -, hrows⟩ := @evaluatePolicy_append ⟨.conditionAware⟩
      { statements := [named, unnamed] } { statements := [named] } { statements := [unnamed] }
      "012345678901" rfl
    obtain ⟨row, hrow⟩ := hsuccess.mpr ⟨⟨namedRow, hnamed⟩, unnamedRow, hunnamed⟩
    obtain ⟨hjoins, -, -, hids, -⟩ := hrows row namedRow unnamedRow hrow hnamed hunnamed
    have hpublic : unnamed.IsPublic := by decide
    have hid : "Statement[2]" = unnamed.id 1 := by decide
    exact ⟨row, hrow, hjoins, (hids _).mpr (Or.inr ⟨rfl, 0, unnamed, rfl, hpublic, hid⟩)⟩
  · obtain ⟨hsuccess, -, -, hrows⟩ := @evaluatePolicy_append ⟨.conditionAware⟩
      { statements := [unnamed, named] } { statements := [unnamed] } { statements := [named] }
      "012345678901" rfl
    obtain ⟨row, hrow⟩ := hsuccess.mpr ⟨⟨unnamedRow, hunnamed⟩, namedRow, hnamed⟩
    obtain ⟨-, -, -, -, hunion⟩ := hrows row unnamedRow namedRow hrow hunnamed hnamed
    refine ⟨row, hrow, hunion fun s hs _ => ?_⟩
    rw [List.mem_singleton.mp hs]
    exact ⟨"Topic", rfl, by decide⟩

end Evaluator

end ResourcePolicy
