import ResourcePolicy.AwsPrincipal
import ResourcePolicy.Condition.Narrowing
import ResourcePolicy.Ordered.StringSet
import ResourcePolicy.Statement

/-!
# Grantees

Those who are granted access by a statement, or by several: whom it names, sorted by kind, and
whether anyone at all is among them.

The AWS values of a principal are reported as written, together with their accounts other than the
owner's; the wildcard makes the grant public. So does any service, since every caller can reach
the resource through it. Federated identities are reported and never public. One AWS value that
cannot be classified fails the whole principal.

A statement that denies grants nothing. Under the legacy rules one that allows grants to its
principal. Under the condition-aware rules one that excludes actions is public and its principal
is not looked at; otherwise the condition, if there is one, may narrow a public grant, and the
organizations that it names are added.
-/

namespace ResourcePolicy

/-! ## Evaluation modes -/

/-- The rules by which a policy is evaluated. -/
inductive Mode where
  | legacy
  | conditionAware
deriving DecidableEq

namespace Mode

/-- The name of a mode. -/
def name : Mode → String
  | legacy => "legacy"
  | conditionAware => "condition_aware"

/-- The mode with a given name. -/
def ofName (text : String) : Except PolicyError Mode :=
  if text = legacy.name then .ok legacy
  else if text = conditionAware.name then .ok conditionAware
  else
    .error (.invalidMode
      (text ++ " (expected one of: " ++ legacy.name ++ ", " ++ conditionAware.name ++ ")"))

/-- Reads the name of a mode. -/
def ofJson : Json → Except ShapeError Mode :=
  Json.asVariant (legacy.name, legacy) (conditionAware.name, conditionAware)

/-- The mode as its name. -/
def toJson (mode : Mode) : Json := .str mode.name

end Mode

/-! ## Grants -/

/-- Whom a grant reaches. -/
structure Grantees where
  /-- The accounts other than the owner, and the wildcard for anyone. -/
  accounts : StringSet := ∅
  /-- The AWS principals as written. -/
  principals : StringSet := ∅
  /-- The federated identities. -/
  federated : StringSet := ∅
  /-- The services. -/
  services : StringSet := ∅
  /-- The organizations that conditions name. -/
  organizations : StringSet := ∅
  /-- Whether the grant is open to the public. -/
  isPublic : Bool := false
deriving DecidableEq

namespace Grantees

/-- A public grant that names nobody. -/
def anyone : Grantees := { isPublic := true }

/-- Adds those whom another grant names. Whether the whole is public is left as it is. -/
def absorb (whole part : Grantees) : Grantees where
  accounts := whole.accounts ∪ part.accounts
  principals := whole.principals ∪ part.principals
  federated := whole.federated ∪ part.federated
  services := whole.services ∪ part.services
  organizations := whole.organizations ∪ part.organizations
  isPublic := whole.isPublic

/-- Whether nobody is named. -/
def isEmpty (g : Grantees) : Bool :=
  g.accounts.isEmpty && g.principals.isEmpty && g.federated.isEmpty && g.services.isEmpty &&
    g.organizations.isEmpty

end Grantees

/-- Those whom a principal names, seen from the account that owns the resource. -/
def Principal.grantees (principal : Principal) (owner : AccountId) :
    Except PolicyError Grantees := do
  let classified ← principal.aws.mapM AwsPrincipal.classify
  return {
    accounts := .ofList (classified.filterMap (AwsPrincipal.reportedAccount? owner))
    principals := .ofList principal.aws
    federated := .ofList principal.federated
    services := .ofList principal.services
    isPublic := classified.any AwsPrincipal.isWildcard || !principal.services.isEmpty }

/-- The grant under a condition. -/
def Grantees.under (g : Grantees) (condition : Condition) : Grantees :=
  { g with
    isPublic := g.isPublic && !condition.narrowsGrant g.isPublic
    organizations := g.organizations ∪ .ofList condition.organizationIds }

namespace Statement

/-- Those whom the principal of the statement names; without one there are none. -/
def principalGrantees (statement : Statement) (owner : AccountId) :
    Except PolicyError Grantees :=
  match statement.principal with
  | some principal => principal.grantees owner
  | none => .ok {}

/-- Those to whom the statement grants access. -/
def grantees (mode : Mode) (owner : AccountId) (statement : Statement) :
    Except PolicyError Grantees := do
  match ← statement.effect, mode with
  | .deny, _ => return {}
  | .allow, .legacy => statement.principalGrantees owner
  | .allow, .conditionAware =>
    if statement.hasNotAction then return .anyone
    let granted ← statement.principalGrantees owner
    return statement.condition.elim granted granted.under

end Statement

end ResourcePolicy
