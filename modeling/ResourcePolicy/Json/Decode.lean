import ResourcePolicy.ShapeError

/-!
# Reading records from JSON

A record is described by its fields in order of declaration, each with its name and the way its
value is read. A record is read from an object, by ascending names, where members with unknown
names are passed over; or from an array, whose items are the fields in order of declaration. In
both forms the first value that cannot be read decides the error.
-/

namespace ResourcePolicy

namespace Json

/-- Reads a string. -/
def asString : Json → Except ShapeError String
  | str text => .ok text
  | other => .error (.wrongType other.head .string)

/-- Reads a boolean. -/
def asBool : Json → Except ShapeError Bool
  | bool value => .ok value
  | other => .error (.wrongType other.head .boolean)

/-- Reads an array of strings. -/
def asStrings : Json → Except ShapeError (List String)
  | arr items => items.mapM asString
  | other => .error (.wrongType other.head .sequence)

/-- Reads a value that may be absent, which null says too. -/
def optional {α : Type} (read : Json → Except ShapeError α) :
    Json → Except ShapeError (Option α)
  | null => .ok none
  | present => some <$> read present

/-- The one of two values that a name stands for. -/
def chooseVariant {α : Type} (first second : String × α) (name : String) :
    Except ShapeError α :=
  if name = first.1 then .ok first.2
  else if name = second.1 then .ok second.2
  else .error (.unknownVariant name first.1 second.1)

/-- Reads one of two names, given as a string or as the only key of an object that holds null
there. -/
def asVariant {α : Type} (first second : String × α) : Json → Except ShapeError α
  | str name => chooseVariant first second name
  | obj members =>
    match (KeyMap.ofList members).toList with
    | [(name, null)] => chooseVariant first second name
    | [(name, content)] => do
      let _ ← chooseVariant first second name
      throw (.wrongType content.head .nothing)
    | _ => .error .notSingleKey
  | other => .error (.wrongType other.head .nameOrMap)

end Json

/-- A field of a record: its name and how its value changes the record. -/
structure Field (σ : Type) where
  name : String
  read : Json → Except ShapeError (σ → σ)

/-- The field with the given name whose value is read and then stored. -/
def Field.of {σ α : Type} (name : String) (read : Json → Except ShapeError α)
    (store : α → σ → σ) : Field σ :=
  ⟨name, fun value => store <$> read value⟩

/-- A record type: its name, its fields in order of declaration, the record before any field is
read, and whether every field must be present. -/
structure Record (σ : Type) where
  name : String
  fields : List (Field σ)
  initial : σ
  complete : Bool

namespace Record

variable {σ : Type}

/-- The fields in ascending order of their names. -/
def fieldsByName (record : Record σ) : List (Field σ) :=
  record.fields.foldl (fun sorted field => insertAscending Field.name field sorted) []

/-- Reads some fields in turn, each from the value that is given under its name, if there is
one. -/
def readFields (fields : List (Field σ)) (value? : String → Option Json) (initial : σ) :
    Except ShapeError σ :=
  fields.foldlM (fun state field =>
    match value? field.name with
    | some value => return (← field.read value) state
    | none => return state) initial

/-- The first field that must be present and is not. -/
def missing? (record : Record σ) (members : KeyMap Json) : Option (Field σ) :=
  if record.complete then record.fields.find? fun field => (members.get? field.name).isNone
  else none

/-- Reads a record from the members of an object. -/
def ofMembers (record : Record σ) (members : KeyMap Json) : Except ShapeError σ := do
  let result ← readFields record.fieldsByName members.get? record.initial
  match record.missing? members with
  | some field => throw (.missingField field.name)
  | none => return result

/-- Reads a record from its fields in order of declaration; the last ones may be left out
unless all are needed. -/
def ofItems (record : Record σ) (items : List Json) : Except ShapeError σ := do
  let named := (record.fields.map Field.name).zip items
  let result ← readFields record.fields (fun name => named.lookup name) record.initial
  if record.fields.length < items.length then throw (.tooManyElements items.length)
  if record.complete ∧ items.length < record.fields.length then
    throw (.tooFewElements items.length record.name record.fields.length)
  return result

/-- Reads a record from an object or from an array. -/
def ofJson (record : Record σ) : Json → Except ShapeError σ
  | .obj members => record.ofMembers (KeyMap.ofList members)
  | .arr items => record.ofItems items
  | other => .error (.wrongType other.head (.record record.name))

end Record

end ResourcePolicy
