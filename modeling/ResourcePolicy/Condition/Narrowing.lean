import ResourcePolicy.Arn
import ResourcePolicy.Condition
import ResourcePolicy.Principal

/-!
# Conditions that narrow a public grant

A public grant is narrowed by a single condition entry that pins the caller down: its operator
compares for equality or likeness and does not pass when the key is missing, and its key, up to
ASCII case, is one that the caller cannot choose. A key that holds ARNs counts only if none of
its values leaves the account open. The values of organization keys are collected whatever the
operator.
-/

namespace ResourcePolicy

/-- The operators that can narrow, unless they pass when the key is missing. -/
def narrowingOperators : List String :=
  ["ArnEquals", "ArnEqualsIfExists", "ArnLike", "ArnLikeIfExists", "StringEquals",
    "StringEqualsIfExists", "StringEqualsIgnoreCase", "StringEqualsIgnoreCaseIfExists",
    "StringLike", "StringLikeIfExists"]

/-- The ending of the operators that pass when the key is missing. -/
def ifExistsSuffix : String := "IfExists"

/-- Whether an operator passes when the key is missing. -/
def passesIfMissing (operator : String) : Bool :=
  ifExistsSuffix.toList.isSuffixOf operator.toList

/-- The keys that say who an AWS principal is, in lower case. -/
def awsPrincipalKeys : List String :=
  ["aws:principalaccount", "aws:principalarn", "aws:principalorgid", "aws:principalorgpaths"]

/-- The keys that say on whose behalf a service calls, in lower case. -/
def servicePrincipalKeys : List String := ["aws:sourcearn", "aws:sourceaccount", "aws:sourceowner"]

/-- The keys that say which organization a caller belongs to, in lower case. -/
def organizationKeys : List String := ["aws:principalorgid", "aws:principalorgpaths"]

/-- The keys that hold the ARN of a caller, in lower case. -/
def arnKeys : List String := ["aws:principalarn", "aws:sourcearn"]

/-- Whether a key in lower case is one that the caller cannot choose. -/
def isTrustedKey (key : String) : Bool :=
  awsPrincipalKeys.contains key || servicePrincipalKeys.contains key

/-- A text with its ASCII capitals in lower case. -/
def lowerCase (text : String) : String := String.ofList (text.toList.map Char.toLower)

namespace Condition

/-- Whether a value is shaped like an ARN whose account is the wildcard. -/
def hasOpenAccount (value : String) : Bool := Arn.accountSegment value == some wildcard

/-- Whether the entry by itself narrows a public grant. -/
def Entry.narrows (entry : Entry) : Bool :=
  let key := lowerCase entry.key
  if !narrowingOperators.contains entry.operator || passesIfMissing entry.operator then false
  else if !isTrustedKey key then false
  else if arnKeys.contains key then !entry.values.toList.any hasOpenAccount
  else true

/-- Whether some entry of the condition narrows a public grant. -/
def narrows (condition : Condition) : Bool := condition.entries.any Entry.narrows

/-- Whether the condition narrows the grant: only a public grant can be narrowed. -/
def narrowsGrant (condition : Condition) (isPublic : Bool) : Bool := isPublic && condition.narrows

/-- The values of the organization keys, in entry order and with repetitions. -/
def organizationIds (condition : Condition) : List String :=
  (condition.entries.filter fun entry => organizationKeys.contains (lowerCase entry.key)).flatMap
    fun entry => entry.values.toList

end Condition

end ResourcePolicy
