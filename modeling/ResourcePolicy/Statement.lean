import ResourcePolicy.Condition
import ResourcePolicy.Json.Decode
import ResourcePolicy.PolicyError
import ResourcePolicy.Principal

/-!
# Statements

A statement allows or denies; the two names are exact and case-sensitive. It is kept as written:
every element may be absent, and an element that is present but empty stays present. The effect is
kept as text, so that a bad one is an error of evaluation and not of reading.
-/

namespace ResourcePolicy

/-- What a statement does for those it applies to. -/
inductive Effect where
  | allow
  | deny
deriving DecidableEq

namespace Effect

/-- The name of an effect. -/
def name : Effect → String
  | allow => "Allow"
  | deny => "Deny"

/-- The effect with a given name. -/
def ofName? (text : String) : Option Effect :=
  if text = allow.name then some allow else if text = deny.name then some deny else none

/-- Reads the name of an effect. -/
def ofJson : Json → Except ShapeError Effect :=
  Json.asVariant (allow.name, allow) (deny.name, deny)

/-- The effect as its name. -/
def toJson (effect : Effect) : Json := .str effect.name

end Effect

/-- A statement of a policy. -/
structure Statement where
  sid : Option String := none
  effectText : Option String := none
  principal : Option Principal := none
  notPrincipal : Option Principal := none
  action : Option Values := none
  notAction : Option Values := none
  resource : Option Values := none
  notResource : Option Values := none
  condition : Option Condition := none
deriving DecidableEq

namespace Statement

/-- What the statement does. -/
def effect (statement : Statement) : Except PolicyError Effect :=
  let text := statement.effectText.getD ""
  match Effect.ofName? text with
  | some effect => .ok effect
  | none => .error (.invalidEffect text)

/-- The name made from the index of a statement: its position counted from one. -/
def positionId (index : Nat) : String := "Statement[" ++ toString (index + 1) ++ "]"

/-- The name under which the statement at an index is reported: its own unless that is absent
or empty, else its position. -/
def id (statement : Statement) (index : Nat) : String :=
  match statement.sid with
  | some sid => if sid.isEmpty then positionId index else sid
  | none => positionId index

/-- Whether the statement grants by excluding actions, be it none. -/
def hasNotAction (statement : Statement) : Bool := statement.notAction.isSome

/-- How a statement is read. -/
def record : Record Statement where
  name := "Statement"
  initial := {}
  complete := false
  fields := [
    .of "Sid" (Json.optional Json.asString) fun sid s => { s with sid },
    .of "Effect" (Json.optional Json.asString) fun effectText s => { s with effectText },
    .of "Principal" (Json.optional Principal.ofJson) fun principal s => { s with principal },
    .of "NotPrincipal" (Json.optional Principal.ofJson)
      fun notPrincipal s => { s with notPrincipal },
    .of "Action" (Json.optional Values.ofJson) fun action s => { s with action },
    .of "NotAction" (Json.optional Values.ofJson) fun notAction s => { s with notAction },
    .of "Resource" (Json.optional Values.ofJson) fun resource s => { s with resource },
    .of "NotResource" (Json.optional Values.ofJson) fun notResource s => { s with notResource },
    .of "Condition" (Json.optional Condition.ofJson) fun condition s => { s with condition }]

/-- Reads a statement from an object or, field by field, from an array. -/
def ofJson : Json → Except ShapeError Statement := record.ofJson

/-- Reads a statement from an object only, as it must stand in a policy. -/
def ofElement : Json → Except ShapeError Statement
  | .obj members => record.ofMembers (KeyMap.ofList members)
  | other => .error (.notAStatement other.head)

/-- The elements of a statement as they are written, by name. -/
def members (s : Statement) : List (String × Option Json) := [
  ("Sid", s.sid.map Json.str),
  ("Effect", s.effectText.map Json.str),
  ("Principal", s.principal.map Principal.toJson),
  ("NotPrincipal", s.notPrincipal.map Principal.toJson),
  ("Action", s.action.map Values.toJson),
  ("NotAction", s.notAction.map Values.toJson),
  ("Resource", s.resource.map Values.toJson),
  ("NotResource", s.notResource.map Values.toJson),
  ("Condition", s.condition.map Condition.toJson)]

/-- The statement as an object without the absent elements. -/
def toJson (s : Statement) : Json := Json.objectOf s.members

end Statement

end ResourcePolicy
