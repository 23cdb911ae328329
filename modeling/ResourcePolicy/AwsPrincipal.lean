import ResourcePolicy.AccountId
import ResourcePolicy.Arn
import ResourcePolicy.PolicyError
import ResourcePolicy.Principal

/-!
# AWS principals

An AWS value of a principal is the wildcard, an account id, or an ARN that carries an account
id. Such an ARN has only lower-case ASCII letters in its partition, service and region, and no
line feed in its resource. Any other value is refused.
-/

namespace ResourcePolicy

/-- The partition, service and region of the ARN are lower-case ASCII letters only, and its
resource has no line feed. -/
def Arn.isPlain (arn : Arn) : Bool :=
  arn.partition.chars.all Char.isLower && arn.service.chars.all Char.isLower &&
    arn.region.chars.all Char.isLower && arn.resource.all (· != '\n')

/-- An AWS value of a principal. -/
inductive AwsPrincipal where
  /-- Anyone. -/
  | wildcard
  /-- The whole account. -/
  | account (id : AccountId)
  /-- An identity of the account. -/
  | arn (arn : Arn) (account : AccountId)
deriving DecidableEq

namespace AwsPrincipal

/-- The ARN principal of a text. -/
def arnOfString? (text : String) : Option AwsPrincipal := do
  let found ← Arn.ofString? text
  let account ← AccountId.ofString? found.account.text
  if found.isPlain then some (arn found account) else none

/-- The AWS principal that a text names. -/
def classify (text : String) : Except PolicyError AwsPrincipal :=
  if text = ResourcePolicy.wildcard then .ok wildcard
  else
    match AccountId.ofString? text with
    | some id => .ok (account id)
    | none =>
      match arnOfString? text with
      | some principal => .ok principal
      | none => .error (.unparseableArn text)

/-- The account that the principal belongs to; the wildcard belongs to none. -/
def account? : AwsPrincipal → Option AccountId
  | wildcard => none
  | account id => some id
  | arn _ id => some id

/-- What is reported as an account that has access: the account unless it is the owner, and
the wildcard as itself. -/
def reportedAccount? (owner : AccountId) (principal : AwsPrincipal) : Option String :=
  match principal.account? with
  | none => some ResourcePolicy.wildcard
  | some id => if id = owner then none else some id.text

/-- Whether the principal is anyone. -/
def isWildcard (principal : AwsPrincipal) : Bool := principal.account?.isNone

end AwsPrincipal

end ResourcePolicy
