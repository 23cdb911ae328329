import ResourcePolicy.Grantees
import ResourcePolicy.Json.Decode

/-!
# Evaluations

The result of evaluating a policy is one row of twelve fields. Its lists are ascending and free
of repetitions when they come from grantees. The access levels and the shared statements belong
to the row but are never filled. A row is read back only if no field is missing.
-/

namespace ResourcePolicy

/-- The result of evaluating a policy. -/
structure Evaluation where
  accessLevel : String := ""
  organizationIds : List String := []
  principals : List String := []
  accountIds : List String := []
  federatedIdentities : List String := []
  services : List String := []
  isPublic : Bool := false
  publicAccessLevels : List String := []
  sharedAccessLevels : List String := []
  privateAccessLevels : List String := []
  publicStatementIds : List String := []
  sharedStatementIds : List String := []
deriving DecidableEq

/-- The row for the grantees of a policy and the ids of its public statements. -/
def Grantees.toEvaluation (g : Grantees) (publicStatementIds : List String) : Evaluation where
  organizationIds := g.organizations.toList
  principals := g.principals.toList
  accountIds := g.accounts.toList
  federatedIdentities := g.federated.toList
  services := g.services.toList
  isPublic := g.isPublic
  publicStatementIds := (StringSet.ofList publicStatementIds).toList

namespace Evaluation

/-- How a row is read. -/
def record : Record Evaluation where
  name := "PolicyEvaluation"
  initial := {}
  complete := true
  fields := [
    .of "access_level" Json.asString fun accessLevel e => { e with accessLevel },
    .of "allowed_organization_ids" Json.asStrings
      fun organizationIds e => { e with organizationIds },
    .of "allowed_principals" Json.asStrings fun principals e => { e with principals },
    .of "allowed_principal_account_ids" Json.asStrings fun accountIds e => { e with accountIds },
    .of "allowed_principal_federated_identities" Json.asStrings
      fun federatedIdentities e => { e with federatedIdentities },
    .of "allowed_principal_services" Json.asStrings fun services e => { e with services },
    .of "is_public" Json.asBool fun isPublic e => { e with isPublic },
    .of "public_access_levels" Json.asStrings
      fun publicAccessLevels e => { e with publicAccessLevels },
    .of "shared_access_levels" Json.asStrings
      fun sharedAccessLevels e => { e with sharedAccessLevels },
    .of "private_access_levels" Json.asStrings
      fun privateAccessLevels e => { e with privateAccessLevels },
    .of "public_statement_ids" Json.asStrings
      fun publicStatementIds e => { e with publicStatementIds },
    .of "shared_statement_ids" Json.asStrings
      fun sharedStatementIds e => { e with sharedStatementIds }]

/-- Reads a row from an object or, field by field, from an array. -/
def ofJson : Json → Except ShapeError Evaluation := record.ofJson

/-- The fields of a row as they are written, by name. -/
def members (e : Evaluation) : List (String × Json) := [
  ("access_level", .str e.accessLevel),
  ("allowed_organization_ids", Json.strings e.organizationIds),
  ("allowed_principals", Json.strings e.principals),
  ("allowed_principal_account_ids", Json.strings e.accountIds),
  ("allowed_principal_federated_identities", Json.strings e.federatedIdentities),
  ("allowed_principal_services", Json.strings e.services),
  ("is_public", .bool e.isPublic),
  ("public_access_levels", Json.strings e.publicAccessLevels),
  ("shared_access_levels", Json.strings e.sharedAccessLevels),
  ("private_access_levels", Json.strings e.privateAccessLevels),
  ("public_statement_ids", Json.strings e.publicStatementIds),
  ("shared_statement_ids", Json.strings e.sharedStatementIds)]

/-- The row as an object. -/
def toJson (e : Evaluation) : Json := Json.object e.members

end Evaluation

end ResourcePolicy
