import ResourcePolicy.Decimal
import ResourcePolicy.Ordered.KeyMap

/-!
# JSON values

A number is a whole number or a float, as it was written. An object denotes a finite map from
names to values: `Json.object` builds the one representative whose members ascend by name, and
`KeyMap.ofList` reads the map of any object back, the last of several equal names counting.
-/

namespace ResourcePolicy

/-- A JSON number: whole when it was written without fraction and exponent and fits sixty-four
bits, else a float. -/
inductive Number where
  | int (value : Int)
  | float (value : Float)
deriving DecidableEq

/-- The text of a number: decimal digits, or the shortest decimal of a float. -/
def Number.text : Number → String
  | .int value => toString value
  | .float value => floatText value

/-- A JSON value. -/
inductive Json where
  | null
  | bool (value : Bool)
  | num (value : Number)
  | str (text : String)
  | arr (items : List Json)
  | obj (members : List (String × Json))

namespace Json

/-- The object with the given members, in ascending order of their names; of members with one
name the last is kept. -/
def object (members : List (String × Json)) : Json := obj (KeyMap.ofList members).toList

/-- The object with those of the given members that are present. -/
def objectOf (members : List (String × Option Json)) : Json :=
  object (members.filterMap fun (name, value?) => value?.map (name, ·))

/-- The array of some texts. -/
def strings (texts : List String) : Json := arr (texts.map str)

mutual

/-- Whether two values are the same. -/
def same : Json → Json → Bool
  | null, null => true
  | bool x, bool y => x == y
  | num x, num y => x == y
  | str x, str y => x == y
  | arr xs, arr ys => sameItems xs ys
  | obj xs, obj ys => sameMembers xs ys
  | _, _ => false

/-- Whether two lists of values are the same. -/
def sameItems : List Json → List Json → Bool
  | [], [] => true
  | x :: xs, y :: ys => same x y && sameItems xs ys
  | _, _ => false

/-- Whether two lists of members are the same. -/
def sameMembers : List (String × Json) → List (String × Json) → Bool
  | [], [] => true
  | (name, x) :: xs, (name', y) :: ys => name == name' && same x y && sameMembers xs ys
  | _, _ => false

end

mutual

theorem same_iff : ∀ x y : Json, same x y = true ↔ x = y
  | null, y => by cases y <;> simp [same]
  | bool _, y => by cases y <;> simp [same]
  | num _, y => by cases y <;> simp [same]
  | str _, y => by cases y <;> simp [same]
  | arr xs, y => by cases y <;> simp [same, sameItems_iff xs]
  | obj xs, y => by cases y <;> simp [same, sameMembers_iff xs]

theorem sameItems_iff : ∀ xs ys : List Json, sameItems xs ys = true ↔ xs = ys
  | [], ys => by cases ys <;> simp [sameItems]
  | x :: xs, ys => by cases ys <;> simp [sameItems, same_iff x, sameItems_iff xs]

theorem sameMembers_iff : ∀ xs ys : List (String × Json), sameMembers xs ys = true ↔ xs = ys
  | [], ys => by cases ys <;> simp [sameMembers]
  | (name, x) :: xs, ys => by
    cases ys <;> simp [sameMembers, same_iff x, sameMembers_iff xs, Prod.ext_iff]

end

instance : DecidableEq Json := fun x y => decidable_of_iff _ (same_iff x y)

/-- The outermost level of a value, which is all that a message about it tells. -/
inductive Head where
  | null
  | bool (value : Bool)
  | num (value : Number)
  | str (text : String)
  | arr
  | obj
deriving DecidableEq

/-- The outermost level of a value. -/
def head : Json → Head
  | .null => .null
  | .bool value => .bool value
  | .num value => .num value
  | .str text => .str text
  | .arr _ => .arr
  | .obj _ => .obj

end Json

end ResourcePolicy
