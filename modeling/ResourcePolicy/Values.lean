import ResourcePolicy.ShapeError

/-!
# Values

Most elements of a policy hold one or many texts. A single scalar and an array of scalars are
both accepted; booleans and numbers are kept as their JSON text. Written out, values are always
an array of strings.
-/

namespace ResourcePolicy

/-- A list of texts in written order, repetitions kept. -/
structure Values where
  toList : List String
deriving DecidableEq

namespace Values

/-- No values. -/
def empty : Values := ⟨[]⟩

instance : EmptyCollection Values := ⟨empty⟩
instance : Inhabited Values := ⟨empty⟩

/-- A single value. -/
def single (text : String) : Values := ⟨[text]⟩

/-- Whether there are no values. -/
def isEmpty (values : Values) : Bool := values.toList.isEmpty

/-- How many values there are, repetitions counted. -/
def length (values : Values) : Nat := values.toList.length

/-- Whether a text is among the values. -/
def contains (values : Values) (text : String) : Bool := values.toList.contains text

/-- The text of a scalar: a string as it is, a boolean or number as JSON text. -/
def scalarText? : Json → Option String
  | .str text => some text
  | .bool value => some (toString value)
  | .num number => some number.text
  | _ => none

/-- Reads one scalar or an array of scalars. -/
def ofJson : Json → Except ShapeError Values
  | .arr items =>
    match items.mapM scalarText? with
    | some texts => .ok ⟨texts⟩
    | none => .error .notValues
  | item =>
    match scalarText? item with
    | some text => .ok (single text)
    | none => .error .notValues

/-- The values as an array of strings. -/
def toJson (values : Values) : Json := Json.strings values.toList

/-- The values as an array of strings, unless there are none. -/
def toJson? (values : Values) : Option Json :=
  if values.isEmpty then none else some values.toJson

end Values

end ResourcePolicy
