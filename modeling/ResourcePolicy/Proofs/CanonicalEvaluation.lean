import Mathlib.Control.Monad.Basic
import ResourcePolicy.Proofs.CanonicalForm
import ResourcePolicy.Proofs.Failures

/-!
# Evaluating the canonical document

Bringing a policy into canonical form spells out its bare wildcards. What a principal grants
depends on its values only, and the wildcard is spelled out as the value it stands for, so no
statement grants more or less and none is reported under another id. A policy text and its
canonical document therefore have the same answer, row or error.
-/

namespace ResourcePolicy

/-- A principal grants the same when it is spelled out. -/
theorem Principal.grantees_spelledOut (principal : Principal) (owner : AccountId) :
    principal.spelledOut.grantees owner = principal.grantees owner := by
  cases principal <;> rfl

namespace Statement

/-- The principal of a statement grants the same when it is spelled out. -/
theorem principalGrantees_spelledOut (s : Statement) (owner : AccountId) :
    s.spelledOut.principalGrantees owner = s.principalGrantees owner := by
  unfold principalGrantees spelledOut
  cases s.principal with
  | none => rfl
  | some principal => exact principal.grantees_spelledOut owner

/-- A statement grants the same, or fails alike, when it is spelled out. -/
theorem grantees_spelledOut (s : Statement) (mode : Mode) (owner : AccountId) :
    s.spelledOut.grantees mode owner = s.grantees mode owner := by
  have heffect : s.spelledOut.effect = s.effect := rfl
  have hprincipal := s.principalGrantees_spelledOut owner
  unfold grantees
  rw [heffect, hprincipal]
  rfl

end Statement

namespace Policy

/-- Statements are reported under the same ids when they are spelled out. -/
theorem publicIds_spelledOut (granted : List (Statement × Grantees)) :
    publicIds (granted.map fun entry => (entry.1.spelledOut, entry.2)) = publicIds granted := by
  unfold publicIds
  rw [List.zipIdx_map, List.filter_map, List.map_map]
  rfl

/-- The row is the same when the statements are spelled out. -/
theorem row_spelledOut (mode : Mode) (granted : List (Statement × Grantees)) :
    row mode (granted.map fun entry => (entry.1.spelledOut, entry.2)) = row mode granted := by
  have hgrants : (granted.map fun entry => (entry.1.spelledOut, entry.2)).map Prod.snd =
      granted.map Prod.snd := by
    rw [List.map_map]
    rfl
  have hids := publicIds_spelledOut granted
  unfold row whole
  rw [hgrants, hids]

/-- A policy has the same answer when it is spelled out. -/
theorem evaluate_spelledOut (p : Policy) (mode : Mode) (owner : AccountId) :
    p.spelledOut.evaluate mode owner = p.evaluate mode owner := by
  have hgranted : p.spelledOut.granted mode owner =
      List.map (fun entry => (entry.1.spelledOut, entry.2)) <$> p.granted mode owner := by
    refine mapM_map_eq (fun s => ?_) p.statements
    rw [s.grantees_spelledOut mode owner]
    cases s.grantees mode owner <;> rfl
  rw [evaluate_eq_map, evaluate_eq_map, hgranted]
  cases p.granted mode owner with
  | error error => rfl
  | ok granted => exact congrArg Except.ok (row_spelledOut mode granted)

/-- A text of the canonical document of a policy is read as that policy spelled out. -/
theorem ofText_of_toJson {text : String} {p : Policy}
    (hcanonical : Json.ofText? text = some p.toJson) : ofText text = .ok p.spelledOut := by
  -- The empty text stands for a policy too, but it is the text of no document.
  have hnotJson : Json.ofText? "" = none := by decide
  have hnonempty : ¬ text.isEmpty = true := by
    intro hempty
    have htext : text = "" := String.isEmpty_iff.mp hempty
    rw [htext, hnotJson] at hcanonical
    cases hcanonical
  have hread := p.ofDocument_toJson
  unfold ofText
  rw [if_neg hnonempty, hcanonical]
  simp only [hread]

end Policy

namespace Evaluator

/-- A spelled out policy has the same answer for every owner, valid or not. -/
theorem evaluatePolicy_spelledOut (evaluator : Evaluator) (p : Policy) (ownerText : String) :
    evaluator.evaluatePolicy p.spelledOut ownerText = evaluator.evaluatePolicy p ownerText := by
  by_cases hid : IsAccountId ownerText
  · rw [evaluatePolicy_of_isAccountId hid, evaluatePolicy_of_isAccountId hid,
      p.evaluate_spelledOut evaluator.mode]
  · rw [evaluatePolicy_of_not_isAccountId hid, evaluatePolicy_of_not_isAccountId hid]

/-- A policy text, any text of its canonical document and the policy itself have one answer. -/
theorem evaluate_canonicalText {policyText canonicalText : String} {policy : Policy}
    (hread : Policy.ofText policyText = .ok policy)
    (hcanonical : Json.ofText? canonicalText = some policy.toJson) (evaluator : Evaluator)
    (ownerText : String) :
    evaluator.evaluate canonicalText ownerText = evaluator.evaluate policyText ownerText ∧
      evaluator.evaluatePolicy policy ownerText = evaluator.evaluate policyText ownerText := by
  have hagain : Policy.ofText canonicalText = .ok policy.spelledOut :=
    Policy.ofText_of_toJson hcanonical
  have hpolicy : evaluator.evaluate policyText ownerText =
      evaluator.evaluatePolicy policy ownerText := evaluate_eq_evaluatePolicy hread
  have hspelledOut : evaluator.evaluate canonicalText ownerText =
      evaluator.evaluatePolicy policy.spelledOut ownerText := evaluate_eq_evaluatePolicy hagain
  refine ⟨?_, hpolicy.symm⟩
  rw [hspelledOut, hpolicy, evaluator.evaluatePolicy_spelledOut policy ownerText]

/-- The canonical document spells out the wildcard, puts the statement into a list and the number
into an array of strings. -/
theorem evaluate_canonicalText_of_wildcard :
    let policyText :=
      "\x7b\"Statement\":\x7b\"Effect\":\"Allow\",\"Principal\":\"*\",\"Resource\":7\x7d\x7d"
    let canonicalText := "\x7b\"Version\":\"\",\"Statement\":[\x7b\"Effect\":\"Allow\"," ++
      "\"Principal\":\x7b\"AWS\":[\"*\"]\x7d,\"Resource\":[\"7\"]\x7d]\x7d"
    let s : Statement :=
      { effectText := some "Allow", principal := some .any, resource := some ⟨["7"]⟩ }
    let row : Evaluation := {
      principals := ["*"]
      accountIds := ["*"]
      isPublic := true
      publicStatementIds := ["Statement[1]"] }
    Policy.ofText policyText = .ok { statements := [s] } ∧
      Json.ofText? canonicalText = some (Policy.toJson { statements := [s] }) ∧
      Evaluator.evaluate ⟨.conditionAware⟩ canonicalText "012345678901" =
        Evaluator.evaluate ⟨.conditionAware⟩ policyText "012345678901" ∧
      Evaluator.evaluate ⟨.conditionAware⟩ policyText "012345678901" = .ok row := by
  intro policyText canonicalText s row
  have hread : Policy.ofText policyText = .ok { statements := [s] } := by decide +kernel
  have hcanonical : Json.ofText? canonicalText = some (Policy.toJson { statements := [s] }) := by
    decide +kernel
  have hrow : Evaluator.evaluatePolicy ⟨.conditionAware⟩ { statements := [s] } "012345678901" =
      .ok row := by decide +kernel
  obtain ⟨hsame, hpolicy⟩ :=
    evaluate_canonicalText hread hcanonical ⟨.conditionAware⟩ "012345678901"
  exact ⟨hread, hcanonical, hsame, hpolicy.symm.trans hrow⟩

end Evaluator

end ResourcePolicy
