import ResourcePolicy.Evaluation
import ResourcePolicy.Policy

/-!
# Evaluating policies

A policy grants what its statements grant together, and it is public if one of them is. Under
the condition-aware rules the public statements are reported by their ids. The first statement
with an error, in document order, decides the outcome.
-/

namespace ResourcePolicy

namespace Policy

/-- The ids of those statements whose grants are public. -/
def publicIds (granted : List (Statement × Grantees)) : List String :=
  (granted.zipIdx.filter fun ((_, g), _) => g.isPublic).map
    fun ((statement, _), index) => statement.id index

/-- What the policy grants, seen from the account that owns the resource. -/
def evaluate (policy : Policy) (mode : Mode) (owner : AccountId) :
    Except PolicyError Evaluation := do
  let granted ← policy.statements.mapM fun statement =>
    return (statement, ← statement.grantees mode owner)
  let grants := granted.map Prod.snd
  let whole := grants.foldl Grantees.absorb { isPublic := grants.any (·.isPublic) }
  return whole.toEvaluation
    (match mode with
    | .legacy => []
    | .conditionAware => publicIds granted)

end Policy

/-- The settings of an evaluation. -/
structure Evaluator where
  mode : Mode := .conditionAware
deriving DecidableEq

namespace Evaluator

/-- How settings are read. -/
def record : Record Evaluator where
  name := "EvaluatorConfig"
  initial := {}
  complete := false
  fields := [.of "mode" Mode.ofJson fun mode _ => { mode }]

/-- Reads settings from an object or, field by field, from an array. -/
def ofJson : Json → Except ShapeError Evaluator := record.ofJson

/-- The settings as an object. -/
def toJson (evaluator : Evaluator) : Json := Json.object [("mode", evaluator.mode.toJson)]

/-- The account that a text names as the owner of the resource. -/
def owner (text : String) : Except PolicyError AccountId :=
  match AccountId.ofString? text with
  | some id => .ok id
  | none => .error (.invalidAccountId text)

/-- Evaluates a policy for an owner given as text. -/
def evaluatePolicy (evaluator : Evaluator) (policy : Policy) (ownerText : String) :
    Except PolicyError Evaluation := do
  policy.evaluate evaluator.mode (← owner ownerText)

/-- Evaluates a policy text for an owner given as text. The owner is checked first. -/
def evaluate (evaluator : Evaluator) (policyText ownerText : String) :
    Except PolicyError Evaluation := do
  let owner ← owner ownerText
  let policy ← Policy.ofText policyText
  policy.evaluate evaluator.mode owner

end Evaluator

end ResourcePolicy
