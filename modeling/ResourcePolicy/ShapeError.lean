import ResourcePolicy.Json.Basic
import ResourcePolicy.Text.Quoted

/-!
# Shape errors

A JSON value may have the wrong shape for what it is read as. Each cause is a constructor with
just the facts that its message tells.
-/

namespace ResourcePolicy

/-- What a value was read as when its type turned out wrong. -/
inductive Expected where
  | string
  | boolean
  | map
  | sequence
  | nothing
  | nameOrMap
  | record (name : String)
deriving DecidableEq

/-- What was expected, as a phrase. -/
def Expected.phrase : Expected → String
  | .string => "a string"
  | .boolean => "a boolean"
  | .map => "a map"
  | .sequence => "a sequence"
  | .nothing => "unit"
  | .nameOrMap => "string or map"
  | .record name => "struct " ++ name

namespace Json.Head

/-- The kind of a value, as a phrase. -/
def kind : Head → String
  | .null => "null"
  | .bool _ => "a boolean"
  | .num _ => "a number"
  | .str _ => "a string"
  | .arr => "an array"
  | .obj => "an object"

/-- What was found, as a phrase that shows a scalar whole. -/
def phrase : Head → String
  | .null => "null"
  | .bool value => "boolean `" ++ toString value ++ "`"
  | .num (.int value) => "integer `" ++ (Number.int value).text ++ "`"
  | .num (.float value) => "floating point `" ++ (Number.float value).text ++ "`"
  | .str text => "string " ++ quoted text
  | .arr => "sequence"
  | .obj => "map"

end Json.Head

/-- Why a JSON value cannot be read. -/
inductive ShapeError where
  /-- A policy document is not an object. -/
  | notADocument (found : Json.Head)
  /-- A statement is not an object. -/
  | notAStatement (found : Json.Head)
  /-- The values of an element are neither a scalar nor an array of scalars. -/
  | notValues
  /-- A principal is neither a string nor a map from types to values. -/
  | notAPrincipal
  /-- A value has another type than the one expected. -/
  | wrongType (found : Json.Head) (expected : Expected)
  /-- A name is none of the two that were possible. -/
  | unknownVariant (found first second : String)
  /-- A map stands for a name but does not have exactly one key. -/
  | notSingleKey
  /-- A field that must be present is not. -/
  | missingField (name : String)
  /-- An array stands for a record but has more elements than the record has fields. -/
  | tooManyElements (count : Nat)
  /-- An array stands for a record but has fewer elements than the record has fields. -/
  | tooFewElements (count : Nat) (record : String) (fields : Nat)
deriving DecidableEq

/-- The text of a shape error. -/
def ShapeError.message : ShapeError → String
  | notADocument found => "invalid policy document: expected an object, found " ++ found.kind
  | notAStatement found =>
    "invalid Statement element: expected an object or an array of objects, found " ++ found.kind
  | notValues => "data did not match any variant of untagged enum OneOrMany"
  | notAPrincipal => "data did not match any variant of untagged enum RawPrincipal"
  | wrongType found expected =>
    "invalid type: " ++ found.phrase ++ ", expected " ++ expected.phrase
  | unknownVariant found first second =>
    "unknown variant `" ++ found ++ "`, expected `" ++ first ++ "` or `" ++ second ++ "`"
  | notSingleKey => "invalid value: map, expected map with a single key"
  | missingField name => "missing field `" ++ name ++ "`"
  | tooManyElements count =>
    "invalid length " ++ toString count ++ ", expected fewer elements in array"
  | tooFewElements count record fields =>
    "invalid length " ++ toString count ++ ", expected struct " ++ record ++ " with "
      ++ toString fields ++ " elements"

end ResourcePolicy
