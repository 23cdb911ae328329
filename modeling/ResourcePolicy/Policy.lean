import ResourcePolicy.Json.Reader
import ResourcePolicy.Statement

/-!
# Policies

A policy is a version, an optional id and a list of statements. In a document a single statement
may stand without the list around it, and an empty text is a policy without statements. Written
out, a policy is in canonical form: statements in a list and values in arrays.
-/

namespace ResourcePolicy

/-- A policy. -/
structure Policy where
  version : String := ""
  id : Option String := none
  statements : List Statement := []
deriving DecidableEq

namespace Policy

/-- Whether the policy has no statements. -/
def isEmpty (policy : Policy) : Bool := policy.statements.isEmpty

/-- Reads the statements of a policy: null for none, an array of objects, or one object. -/
def statementsOfJson : Json → Except ShapeError (List Statement)
  | .null => .ok []
  | .arr items => items.mapM Statement.ofElement
  | other => return [← Statement.ofElement other]

/-- How a policy is read. -/
def record : Record Policy where
  name := "Policy"
  initial := {}
  complete := false
  fields := [
    .of "Version" Json.asString fun version p => { p with version },
    .of "Id" (Json.optional Json.asString) fun id p => { p with id },
    .of "Statement" statementsOfJson fun statements p => { p with statements }]

/-- Reads a policy from an object or, field by field, from an array. -/
def ofJson : Json → Except ShapeError Policy := record.ofJson

/-- Reads a policy from an object only, as a document must be. -/
def ofDocument : Json → Except ShapeError Policy
  | .obj members => record.ofMembers (KeyMap.ofList members)
  | other => .error (.notADocument other.head)

/-- Reads the text of a policy document. -/
def ofText (text : String) : Except PolicyError Policy :=
  if text.isEmpty then .ok {}
  else
    match Json.ofText? text with
    | none => .error (.malformedPolicy .notJson)
    | some document =>
      match ofDocument document with
      | .ok policy => .ok policy
      | .error error => .error (.malformedPolicy (.shape error))

/-- The elements of a policy as they are written, by name. -/
def members (policy : Policy) : List (String × Option Json) := [
  ("Version", some (.str policy.version)),
  ("Id", policy.id.map Json.str),
  ("Statement", some (.arr (policy.statements.map Statement.toJson)))]

/-- The canonical document of the policy. -/
def toJson (policy : Policy) : Json := Json.objectOf policy.members

end Policy

end ResourcePolicy
