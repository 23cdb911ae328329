import Mathlib.Control.Monad.Basic
import ResourcePolicy.Proofs.PolicyRow

/-!
# When an evaluation fails

The owner is checked before anything else, then the text is read, and then the statements are
gone through in order. A statement fails over its effect, or, if it counts, over the first of its
AWS values that is refused. The first of these errors is the answer, and without any there is a
row.
-/

namespace ResourcePolicy

/-- The text is accepted as an AWS value. -/
def AwsPrincipal.IsAccepted (text : String) : Prop := ∃ principal, classify text = .ok principal

/-- The error that a statement has under the rules of a mode, if any. -/
inductive Statement.HasError (mode : Mode) (s : Statement) : PolicyError → Prop where
  /-- The effect is neither `Allow` nor `Deny`; an absent one counts as empty. -/
  | effect (hallows : ¬ s.Allows) (hdenies : ¬ s.Denies) :
    HasError mode s (.invalidEffect (s.effectText.getD ""))
  /-- The statement counts and this is the first of its AWS values that is refused. -/
  | value (front : List String) (value : String) (back : List String) (hcounts : s.Counts mode)
    (hvalues : s.awsValues = front ++ value :: back)
    (hfront : ∀ text ∈ front, AwsPrincipal.IsAccepted text)
    (hvalue : ¬ AwsPrincipal.IsAccepted value) : HasError mode s (.unparseableArn value)

/-- The first error over some AWS values shows the first value that is refused. -/
theorem AwsPrincipal.firstError_iff {values : List String} {error : PolicyError} :
    FirstError (fun value e => classify value = .error e) values error ↔
      ∃ front value back, values = front ++ value :: back ∧ (∀ text ∈ front, IsAccepted text) ∧
        ¬ IsAccepted value ∧ error = .unparseableArn value := by
  have hrefused : ∀ value e, classify value = .error e ↔
      ¬ IsAccepted value ∧ e = .unparseableArn value := by
    intro value e
    rw [IsAccepted, exists_ok_iff]
    constructor
    · intro h
      exact ⟨fun hnone => hnone e h, error_of_classify h⟩
    · rintro ⟨hsome, rfl⟩
      obtain ⟨e, he⟩ := Classical.not_forall.mp hsome
      have he := Classical.not_not.mp he
      rw [he, error_of_classify he]
  have hfront : ∀ text, (∀ e, ¬ classify text = .error e) ↔ IsAccepted text :=
    fun text => exists_ok_iff.symm
  simp only [FirstError, hfront]
  simp only [hrefused]

namespace Statement

variable {s : Statement} {mode : Mode} {owner : AccountId} {error : PolicyError}

/-- A statement fails exactly with the error it has. -/
theorem grantees_eq_error_iff : s.grantees mode owner = .error error ↔ s.HasError mode error := by
  constructor
  · intro h
    rcases s.cases mode with
      ⟨hallows, hdenies⟩ | hdenies | ⟨rfl, hallows, hnot⟩ | hcounts
    · rw [grantees_of_neither hallows hdenies] at h
      cases h
      exact .effect hallows hdenies
    · rw [grantees_of_denies hdenies] at h
      cases h
    · rw [grantees_of_notAction hallows hnot] at h
      cases h
    · rw [grantees_of_counts hcounts, map_eq_error_iff, principalGrantees_eq_error_iff,
        AwsPrincipal.firstError_iff] at h
      obtain ⟨front, value, back, hvalues, hfront, hvalue, rfl⟩ := h
      exact .value front value back hcounts hvalues hfront hvalue
  · rintro (⟨hallows, hdenies⟩ | ⟨front, value, back, hcounts, hvalues, hfront, hvalue⟩)
    · exact grantees_of_neither hallows hdenies
    · rw [grantees_of_counts hcounts, map_eq_error_iff, principalGrantees_eq_error_iff,
        AwsPrincipal.firstError_iff]
      exact ⟨front, value, back, hvalues, hfront, hvalue, rfl⟩

/-- A statement that counts has the first error over its AWS values. -/
theorem hasError_iff_of_counts (hcounts : s.Counts mode) :
    s.HasError mode error ↔
      FirstError (fun value e => AwsPrincipal.classify value = .error e) s.awsValues error := by
  rw [AwsPrincipal.firstError_iff]
  constructor
  · rintro (⟨hallows, -⟩ | ⟨front, value, back, -, hvalues, hfront, hvalue⟩)
    · exact absurd hcounts.1 hallows
    · exact ⟨front, value, back, hvalues, hfront, hvalue, rfl⟩
  · rintro ⟨front, value, back, hvalues, hfront, hvalue, rfl⟩
    exact .value front value back hcounts hvalues hfront hvalue

/-- A statement that does not count can have an error over its effect only. -/
theorem hasError_iff_of_not_counts (hcounts : ¬ s.Counts mode) :
    s.HasError mode error ↔
      ¬ s.Allows ∧ ¬ s.Denies ∧ error = .invalidEffect (s.effectText.getD "") := by
  constructor
  · rintro (⟨hallows, hdenies⟩ | ⟨_, _, _, h, -⟩)
    · exact ⟨hallows, hdenies, rfl⟩
    · exact absurd h hcounts
  · rintro ⟨hallows, hdenies, rfl⟩
    exact .effect hallows hdenies

/-- A statement has no error iff its effect is valid and, if it counts, all its AWS values are
accepted. -/
theorem forall_not_hasError_iff :
    (∀ e, ¬ s.HasError mode e) ↔
      (s.Allows ∨ s.Denies) ∧ (s.Counts mode → ∀ v ∈ s.awsValues, AwsPrincipal.IsAccepted v) := by
  constructor
  · intro hnone
    have heffect : s.Allows ∨ s.Denies := by
      by_contra hneither
      obtain ⟨hallows, hdenies⟩ := not_or.mp hneither
      exact hnone _ (.effect hallows hdenies)
    have hfirst : s.Counts mode → ∀ e,
        ¬ FirstError (fun v e => AwsPrincipal.classify v = .error e) s.awsValues e := by
      intro hcounts e he
      obtain ⟨front, value, back, hvalues, hfront, hvalue, rfl⟩ :=
        AwsPrincipal.firstError_iff.mp he
      exact hnone _ (.value front value back hcounts hvalues hfront hvalue)
    refine ⟨heffect, fun hcounts v hv => ?_⟩
    exact exists_ok_iff.mpr (forall_not_firstError_iff.mp (hfirst hcounts) v hv)
  · rintro ⟨heffect, hvalues⟩ e herror
    rcases herror with ⟨hallows, hdenies⟩ | ⟨front, value, back, hcounts, hsplit, -, hvalue⟩
    · exact heffect.elim hallows hdenies
    · have hmem : value ∈ s.awsValues := by
        rw [hsplit]
        exact List.mem_append_cons_self
      exact hvalue (hvalues hcounts value hmem)

end Statement

/-- A text that is not read as a policy is malformed. -/
theorem Policy.error_of_ofText {text : String} {error : PolicyError}
    (hrefused : ofText text = .error error) : ∃ cause, error = .malformedPolicy cause := by
  unfold ofText at hrefused
  split at hrefused
  · cases hrefused
  · split at hrefused
    · exact ⟨_, (Except.error.inj hrefused).symm⟩
    · split at hrefused
      · cases hrefused
      · exact ⟨_, (Except.error.inj hrefused).symm⟩

/-- A policy fails with the error of its first statement that has one. -/
theorem Policy.evaluate_eq_error_iff_hasError {policy : Policy} {mode : Mode} {owner : AccountId}
    {error : PolicyError} :
    policy.evaluate mode owner = .error error ↔
      FirstError (Statement.HasError mode) policy.statements error := by
  rw [evaluate_eq_error_iff]
  exact firstError_congr fun s _ e => Statement.grantees_eq_error_iff

/-- A policy is evaluated iff none of its statements has an error. -/
theorem Policy.exists_evaluate_iff {policy : Policy} {mode : Mode} {owner : AccountId} :
    (∃ row, policy.evaluate mode owner = .ok row) ↔
      ∀ s ∈ policy.statements, ∀ e, ¬ s.HasError mode e := by
  rw [exists_ok_iff, ← forall_not_firstError_iff]
  exact forall_congr' fun e => not_congr evaluate_eq_error_iff_hasError

namespace Evaluator

variable {evaluator : Evaluator} {policyText ownerText : String}

/-- The owner is checked before the text is read. -/
theorem evaluate_of_not_isAccountId (hid : ¬ IsAccountId ownerText) :
    evaluator.evaluate policyText ownerText = .error (.invalidAccountId ownerText) := by
  rw [evaluate, owner_of_not_isAccountId hid]
  rfl

/-- A text that is not read as a policy fails as it was refused. -/
theorem evaluate_of_ofText_error (hid : IsAccountId ownerText) {error : PolicyError}
    (hrefused : Policy.ofText policyText = .error error) :
    evaluator.evaluate policyText ownerText = .error error := by
  rw [evaluate, owner_of_isAccountId hid, hrefused]
  rfl

/-- Evaluating a text is evaluating the policy that it is read as. -/
theorem evaluate_eq_evaluatePolicy {policy : Policy}
    (hread : Policy.ofText policyText = .ok policy) :
    evaluator.evaluate policyText ownerText = evaluator.evaluatePolicy policy ownerText := by
  rw [evaluate, evaluatePolicy, hread]
  rfl

/-- With a valid owner and a text that is read, the first error of a statement is the answer. -/
theorem evaluate_eq_error_iff {policy : Policy} (hid : IsAccountId ownerText)
    (hread : Policy.ofText policyText = .ok policy) {error : PolicyError} :
    evaluator.evaluate policyText ownerText = .error error ↔
      FirstError (Statement.HasError evaluator.mode) policy.statements error := by
  rw [evaluate_eq_evaluatePolicy hread, evaluatePolicy_of_isAccountId hid,
    Policy.evaluate_eq_error_iff_hasError]

/-- The owner is named in the error exactly when it is not an account id. -/
theorem evaluate_eq_invalidAccountId_iff :
    evaluator.evaluate policyText ownerText = .error (.invalidAccountId ownerText) ↔
      ¬ IsAccountId ownerText := by
  refine ⟨fun h hid => ?_, evaluate_of_not_isAccountId⟩
  cases hread : Policy.ofText policyText with
  | error error =>
    obtain ⟨cause, rfl⟩ := Policy.error_of_ofText hread
    rw [evaluate_of_ofText_error hid hread] at h
    cases h
  | ok policy =>
    obtain ⟨_, _, _, _, _, herror⟩ := (evaluate_eq_error_iff hid hread).mp h
    cases herror

/-- With a valid owner the evaluation fails over the text exactly when the text is not read. -/
theorem exists_malformedPolicy_iff (hid : IsAccountId ownerText) :
    (∃ cause, evaluator.evaluate policyText ownerText = .error (.malformedPolicy cause)) ↔
      ∃ error, Policy.ofText policyText = .error error := by
  constructor
  · rintro ⟨cause, h⟩
    cases hread : Policy.ofText policyText with
    | error error => exact ⟨error, rfl⟩
    | ok policy =>
      obtain ⟨_, _, _, _, _, herror⟩ := (evaluate_eq_error_iff hid hread).mp h
      cases herror
  · rintro ⟨error, hrefused⟩
    obtain ⟨cause, rfl⟩ := Policy.error_of_ofText hrefused
    exact ⟨cause, evaluate_of_ofText_error hid hrefused⟩

/-- The errors of an evaluation in the order in which they are looked for. -/
theorem evaluate_fails_in_order (evaluator : Evaluator) (policyText ownerText : String) :
    -- The owner decides first, whatever the text.
    (evaluator.evaluate policyText ownerText = .error (.invalidAccountId ownerText) ↔
      ¬ IsAccountId ownerText) ∧
    -- Then the text does.
    (IsAccountId ownerText →
      ((∃ cause, evaluator.evaluate policyText ownerText = .error (.malformedPolicy cause)) ↔
        ∃ error, Policy.ofText policyText = .error error) ∧
      ∀ error, Policy.ofText policyText = .error error →
        evaluator.evaluate policyText ownerText = .error error) ∧
    -- Then the statements do, the first one with an error.
    (∀ policy, IsAccountId ownerText → Policy.ofText policyText = .ok policy →
      (∀ error, evaluator.evaluate policyText ownerText = .error error ↔
        FirstError (Statement.HasError evaluator.mode) policy.statements error) ∧
      ((∃ row, evaluator.evaluate policyText ownerText = .ok row) ↔
        ∀ s ∈ policy.statements, ∀ error, ¬ s.HasError evaluator.mode error)) ∧
    -- A policy that has been read before gives the same answer.
    (∀ policy, Policy.ofText policyText = .ok policy →
      evaluator.evaluatePolicy policy ownerText = evaluator.evaluate policyText ownerText) ∧
    -- A principal that is not looked at is never an error.
    (∀ (s : Statement) (owner : AccountId),
      s.Denies ∨ (evaluator.mode = .conditionAware ∧ s.Allows ∧ s.notAction ≠ none) →
      ∃ g, s.grantees evaluator.mode owner = .ok g) ∧
    ∀ (s : Statement) (owner : AccountId) (notPrincipal : Option Principal),
      { s with notPrincipal }.grantees evaluator.mode owner = s.grantees evaluator.mode owner := by
  refine ⟨evaluate_eq_invalidAccountId_iff, fun hid => ⟨exists_malformedPolicy_iff hid,
    fun _ hrefused => evaluate_of_ofText_error hid hrefused⟩, fun policy hid hread => ?_,
    fun policy hread => (evaluate_eq_evaluatePolicy hread).symm, fun s owner hunread => ?_,
    fun _ _ _ => rfl⟩
  · have herror : ∀ error, evaluator.evaluate policyText ownerText = .error error ↔
        FirstError (Statement.HasError evaluator.mode) policy.statements error :=
      fun _ => evaluate_eq_error_iff hid hread
    refine ⟨herror, ?_⟩
    rw [exists_ok_iff, ← forall_not_firstError_iff]
    exact forall_congr' fun error => not_congr (herror error)
  · rcases hunread with hdenies | ⟨hmode, hallows, hnot⟩
    · exact ⟨_, Statement.grantees_of_denies hdenies⟩
    · rw [hmode]
      exact ⟨_, Statement.grantees_of_notAction hallows hnot⟩

/-- The bad value of the statement that denies is passed over, and the second value of the next
statement is the answer. -/
theorem evaluate_fails_over_second_value :
    let text := "\x7b\"Statement\":[\x7b\"Effect\":\"Deny\",\"Principal\":\"x\"\x7d," ++
      "\x7b\"Effect\":\"Allow\",\"Principal\":\x7b\"AWS\":[\"*\",\"y\"]\x7d\x7d]\x7d"
    let denying : Statement :=
      { effectText := some "Deny", principal := some (.named { aws := ⟨["x"]⟩ }) }
    let allowing : Statement :=
      { effectText := some "Allow", principal := some (.named { aws := ⟨["*", "y"]⟩ }) }
    IsAccountId "012345678901" ∧
      Policy.ofText text = .ok { statements := [denying, allowing] } ∧
      Evaluator.evaluate ⟨.legacy⟩ text "012345678901" = .error (.unparseableArn "y") := by
  intro text denying allowing
  have hid : IsAccountId "012345678901" := by decide
  have hread : Policy.ofText text = .ok { statements := [denying, allowing] } := by decide +kernel
  refine ⟨hid, hread, ?_⟩
  obtain ⟨-, -, hstatements, -⟩ := evaluate_fails_in_order ⟨.legacy⟩ text "012345678901"
  rw [(hstatements _ hid hread).1]
  have hdenying : ∀ e, ¬ denying.HasError .legacy e := by
    rintro e (⟨-, hdenies⟩ | ⟨_, _, _, hcounts, -⟩)
    · exact hdenies rfl
    · exact absurd hcounts.1 (by decide)
  have hfirst : ∀ value ∈ ["*"], AwsPrincipal.IsAccepted value := by
    intro value hvalue
    rw [List.mem_singleton.mp hvalue]
    exact ⟨.wildcard, AwsPrincipal.classify_wildcard⟩
  have hsecond : ¬ AwsPrincipal.IsAccepted "y" := by
    rintro ⟨principal, hprincipal⟩
    have hrefused : AwsPrincipal.classify "y" = .error (.unparseableArn "y") := by decide
    cases hrefused.symm.trans hprincipal
  exact ⟨[denying], allowing, [], rfl, by simpa using hdenying,
    .value ["*"] "y" [] ⟨rfl, Or.inl rfl⟩ rfl hfirst hsecond⟩

end Evaluator

end ResourcePolicy
