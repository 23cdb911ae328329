import ResourcePolicy.Values

/-!
# Conditions

A condition maps operators to maps from condition keys to values. Operators and keys are kept
as written and listed in code point order. An operator may have no keys.
-/

namespace ResourcePolicy

/-- Values by operator and condition key. -/
structure Condition where
  operators : KeyMap (KeyMap Values)
deriving DecidableEq

namespace Condition

/-- The condition without operators. -/
def empty : Condition := ⟨∅⟩

instance : EmptyCollection Condition := ⟨empty⟩
instance : Inhabited Condition := ⟨empty⟩

/-- Whether the condition has no operator. -/
def isEmpty (condition : Condition) : Bool := condition.operators.isEmpty

/-- The condition with the given values at an operator and key, in the place of any values
that stood there. -/
def withEntry (condition : Condition) (operator key : String) (values : Values) : Condition :=
  let keys := (condition.operators.get? operator).getD ∅
  ⟨condition.operators.insert operator (keys.insert key values)⟩

/-- One operator with one of its keys and the values there. -/
structure Entry where
  operator : String
  key : String
  values : Values
deriving DecidableEq

/-- Every entry, in ascending order of operators and, within an operator, of keys. -/
def entries (condition : Condition) : List Entry :=
  condition.operators.toList.flatMap fun (operator, keys) =>
    keys.toList.map fun (key, values) => ⟨operator, key, values⟩

/-- Reads the keys of one operator with their values. -/
def keysOfJson : Json → Except ShapeError (KeyMap Values)
  | .obj members => (KeyMap.ofList members).mapM Values.ofJson
  | other => .error (.wrongType other.head .map)

/-- Reads a map of operators, each a map of keys to values. -/
def ofJson : Json → Except ShapeError Condition
  | .obj members => return ⟨← (KeyMap.ofList members).mapM keysOfJson⟩
  | other => .error (.wrongType other.head .map)

/-- The condition as a map of maps, each value list an array. -/
def toJson (condition : Condition) : Json :=
  Json.object (condition.operators.toList.map fun (operator, keys) =>
    (operator, Json.object (keys.toList.map fun (key, values) => (key, values.toJson))))

end Condition

end ResourcePolicy
