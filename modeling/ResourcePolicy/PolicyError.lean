import ResourcePolicy.ShapeError

/-!
# Policy errors

Evaluating a policy is all or nothing: the first error ends it, and no partial result is given.
-/

namespace ResourcePolicy

/-- Why a text is not a policy document. -/
inductive DocumentError where
  /-- The text is not JSON. -/
  | notJson
  /-- The JSON value has the wrong shape. -/
  | shape (error : ShapeError)
deriving DecidableEq

/-- The text of a document error; there is none for a text that is not JSON. -/
def DocumentError.message? : DocumentError → Option String
  | notJson => none
  | shape error => some error.message

/-- Why a policy cannot be evaluated. -/
inductive PolicyError where
  /-- The owner is not an account id. -/
  | invalidAccountId (text : String)
  /-- The text is not a policy document. -/
  | malformedPolicy (cause : DocumentError)
  /-- The effect of a statement is neither of the two. -/
  | invalidEffect (text : String)
  /-- An AWS principal is neither the wildcard nor an account id nor an ARN with an account. -/
  | unparseableArn (text : String)
  /-- The evaluation mode is neither of the two. -/
  | invalidMode (description : String)
  /-- The result cannot be handed back. -/
  | unserializableEvaluation (cause : String)
deriving DecidableEq

/-- The text of a policy error; there is none for a text that is not JSON. -/
def PolicyError.message? : PolicyError → Option String
  | invalidAccountId text => some ("source account id is invalid: " ++ text)
  | malformedPolicy cause => cause.message?
  | invalidEffect _ =>
    some "element Effect is invalid - valid choices are 'Allow' or 'Deny'"
  | unparseableArn text => some ("unabled to parse arn: " ++ text)
  | invalidMode description => some ("invalid evaluation mode: " ++ description)
  | unserializableEvaluation cause => some ("failed to serialize evaluation: " ++ cause)

end ResourcePolicy
