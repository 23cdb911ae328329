import ResourcePolicy.Proofs.DocumentGrammar
import ResourcePolicy.Proofs.RecordReading

/-!
# The first fault of a document

A value that is not of the grammar may have many faults at different depths, and the reader tells
one. Which one is written down here form by form: the members of an object are gone through in a
fixed order, the items of an array one after the other, and the first fault is told. So what comes
after it does not matter, nor do members that are not looked at.
-/

namespace ResourcePolicy

/-- A form of values, given by the fault that is told of a value. Values that are alike as far as
their first fault have the same fault. -/
structure Form where
  /-- The error is the fault that is told of the value. -/
  Fault : Json → ShapeError → Prop
  /-- The values are the same as far as the first fault, save for what is not looked at. -/
  Alike : Json → Json → Prop
  alike_refl : ∀ value, Alike value value
  fault_iff : ∀ {value other}, Alike value other → ∀ error, Fault value error ↔ Fault other error

namespace Form

variable {α β σ : Type} {form : Form} {value : Json} {error : ShapeError}

/-- A form whose values have only one thing that may be wrong with them. -/
def simple (valid : Json → Prop) (fault : Json.Head → ShapeError) : Form where
  Fault value error := ¬ valid value ∧ error = fault value.head
  Alike := Eq
  alike_refl _ := rfl
  fault_iff := by
    rintro value _ rfl error
    rfl

/-- A string. -/
def text : Form := simple Json.IsText fun found => .wrongType found .string

/-- One scalar, or an array of scalars. -/
def values : Form := simple Json.IsValues fun _ => .notValues

/-- A string, or a map from principal types to values. -/
def principal : Form := simple Json.IsPrincipal fun _ => .notAPrincipal

section Optional

/-- Null has no fault, and other values have those of the form. -/
inductive OptionalFault (form : Form) : Json → ShapeError → Prop where
  | given {value : Json} {error : ShapeError} (hvalue : value ≠ .null)
    (hfault : form.Fault value error) : OptionalFault form value error

/-- Both values are null, or neither is and they are alike. -/
inductive OptionalAlike (form : Form) : Json → Json → Prop where
  | null : OptionalAlike form .null .null
  | given {value other : Json} (hvalue : value ≠ .null) (hother : other ≠ .null)
    (halike : form.Alike value other) : OptionalAlike form value other

/-- A value other than null has the faults of the form. -/
theorem optionalFault_iff (hvalue : value ≠ .null) :
    OptionalFault form value error ↔ form.Fault value error :=
  ⟨fun ⟨_, hfault⟩ => hfault, .given hvalue⟩

/-- Null, or a value of the form. -/
def optional (form : Form) : Form where
  Fault := OptionalFault form
  Alike := OptionalAlike form
  alike_refl value := by
    by_cases hvalue : value = .null
    · exact hvalue ▸ .null
    · exact .given hvalue hvalue (form.alike_refl value)
  fault_iff := by
    rintro value other (_ | ⟨hvalue, hother, halike⟩) error
    · rfl
    · rw [optionalFault_iff hvalue, optionalFault_iff hother, form.fault_iff halike]

end Optional

section OneOrMany

/-- The fault of an array is the first among its items, that of another value is its own. -/
inductive OneOrManyFault (form : Form) : Json → ShapeError → Prop where
  | one {value : Json} {error : ShapeError} (hvalue : ∀ items, value ≠ .arr items)
    (hfault : form.Fault value error) : OneOrManyFault form value error
  | many {items : List Json} {error : ShapeError} (hfirst : FirstError form.Fault items error) :
    OneOrManyFault form (.arr items) error

/-- The values are arrays whose items are alike as far as the first fault, or neither is an array
and they are alike. -/
inductive OneOrManyAlike (form : Form) : Json → Json → Prop where
  | one {value other : Json} (hvalue : ∀ items, value ≠ .arr items)
    (hother : ∀ items, other ≠ .arr items) (halike : form.Alike value other) :
    OneOrManyAlike form value other
  | many {items others : List Json} (hitems : AlikeToError form.Fault form.Alike items others) :
    OneOrManyAlike form (.arr items) (.arr others)

/-- A value that is not an array stands for itself. -/
theorem oneOrManyFault_iff (hvalue : ∀ items, value ≠ .arr items) :
    OneOrManyFault form value error ↔ form.Fault value error := by
  constructor
  · rintro (⟨-, hfault⟩ | ⟨-⟩)
    · exact hfault
    · exact absurd rfl (hvalue _)
  · exact .one hvalue

/-- The fault of an array is that of the first item that has one. -/
theorem oneOrManyFault_arr_iff {items : List Json} :
    OneOrManyFault form (.arr items) error ↔ FirstError form.Fault items error := by
  constructor
  · rintro (⟨hvalue, -⟩ | ⟨hfirst⟩)
    · exact absurd rfl (hvalue items)
    · exact hfirst
  · exact .many

/-- A value of the form, or an array of them. -/
def oneOrMany (form : Form) : Form where
  Fault := OneOrManyFault form
  Alike := OneOrManyAlike form
  alike_refl value := by
    cases value with
    | arr items => exact .many (.refl form.alike_refl items)
    | _ => exact .one nofun nofun (form.alike_refl _)
  fault_iff := by
    rintro value other (⟨hvalue, hother, halike⟩ | ⟨hitems⟩) error
    · rw [oneOrManyFault_iff hvalue, oneOrManyFault_iff hother, form.fault_iff halike]
    · rw [oneOrManyFault_arr_iff, oneOrManyFault_arr_iff]
      exact hitems.firstError_iff fun _ _ halike error => form.fault_iff halike error

end OneOrMany

/-- A name, the form of the members of that name, and the member of an object, if it has one. -/
structure Slot where
  name : String
  form : Form
  value? : Option Json

namespace Slot

/-- The member is there and has a fault. -/
inductive Fault : Slot → ShapeError → Prop where
  | given {name : String} {form : Form} {value : Json} {error : ShapeError}
    (hfault : form.Fault value error) : Fault ⟨name, form, some value⟩ error

/-- Both members are absent, or both are there and alike. -/
inductive Alike : Slot → Slot → Prop where
  | absent {name : String} {form : Form} : Alike ⟨name, form, none⟩ ⟨name, form, none⟩
  | given {name : String} {form : Form} {value other : Json} (halike : form.Alike value other) :
    Alike ⟨name, form, some value⟩ ⟨name, form, some other⟩

/-- The faults of a member that is there are those of its value. -/
theorem fault_some_iff {name : String} :
    Fault ⟨name, form, some value⟩ error ↔ form.Fault value error :=
  ⟨fun ⟨hfault⟩ => hfault, .given⟩

/-- A member that is absent has no fault. -/
theorem fault_iff {slot : Slot} :
    slot.Fault error ↔ ∃ value, slot.value? = some value ∧ slot.form.Fault value error := by
  obtain ⟨name, form, _ | value⟩ := slot
  · exact iff_of_false nofun nofun
  · simp only [fault_some_iff, Option.some.injEq, exists_eq_left']

/-- A member is like itself. -/
theorem alike_refl (slot : Slot) : slot.Alike slot := by
  obtain ⟨name, form, _ | value⟩ := slot
  · exact .absent
  · exact .given (form.alike_refl value)

/-- Members that are alike have the same faults. -/
theorem Alike.fault_iff {slot other : Slot} (halike : slot.Alike other) (error : ShapeError) :
    slot.Fault error ↔ other.Fault error := by
  cases halike with
  | absent => rfl
  | given halike => rw [fault_some_iff, fault_some_iff, Form.fault_iff _ halike]

end Slot

section Object

-- The members of an object in the order in which they are gone through, and the fault of a value
-- that is no object.
variable (slots : KeyMap Json → List Slot) (notObject : Json.Head → ShapeError)

/-- The fault of an object is the first among its members. -/
inductive ObjectFault : Json → ShapeError → Prop where
  | notObject {value : Json} (hvalue : ∀ members, value ≠ .obj members) :
    ObjectFault value (notObject value.head)
  | member {members : List (String × Json)} {error : ShapeError}
    (hfirst : FirstError Slot.Fault (slots (KeyMap.ofList members)) error) :
    ObjectFault (.obj members) error

/-- The values are the same, or objects whose members are alike as far as the first fault. -/
inductive ObjectAlike : Json → Json → Prop where
  | same (value : Json) : ObjectAlike value value
  | members {members others : List (String × Json)}
    (hmembers : AlikeToError Slot.Fault Slot.Alike (slots (KeyMap.ofList members))
      (slots (KeyMap.ofList others))) : ObjectAlike (.obj members) (.obj others)

variable {slots notObject}

/-- A value that is not an object is told by its kind. -/
theorem objectFault_iff (hvalue : ∀ members, value ≠ .obj members) :
    ObjectFault slots notObject value error ↔ error = notObject value.head := by
  constructor
  · rintro (⟨-⟩ | ⟨-⟩)
    · rfl
    · exact absurd rfl (hvalue _)
  · rintro rfl
    exact .notObject hvalue

/-- The fault of an object is that of the first member that has one. -/
theorem objectFault_obj_iff {members : List (String × Json)} :
    ObjectFault slots notObject (.obj members) error ↔
      FirstError Slot.Fault (slots (KeyMap.ofList members)) error := by
  constructor
  · rintro (⟨hvalue⟩ | ⟨hfirst⟩)
    · exact absurd rfl (hvalue members)
    · exact hfirst
  · exact .member

/-- An object with members of some forms. -/
def object (slots : KeyMap Json → List Slot) (notObject : Json.Head → ShapeError) : Form where
  Fault := ObjectFault slots notObject
  Alike := ObjectAlike slots
  alike_refl := .same
  fault_iff := by
    rintro value other (_ | ⟨hmembers⟩) error
    · rfl
    · rw [objectFault_obj_iff, objectFault_obj_iff]
      exact hmembers.firstError_iff fun _ _ halike error => halike.fault_iff error

end Object

/-- An object whose members, whatever their names, are of the form. They are gone through in
ascending order of their names. -/
def mapOf (form : Form) : Form :=
  object (fun members => members.toList.map fun member => ⟨member.1, form, some member.2⟩)
    fun found => .wrongType found .map

/-- The fault of a map is that of the first member that has one. -/
theorem mapOf_fault_obj_iff {members : List (String × Json)} :
    form.mapOf.Fault (.obj members) error ↔
      FirstError (fun member => form.Fault member.2) (KeyMap.ofList members).toList error := by
  refine objectFault_obj_iff.trans (firstError_map fun member _ e => ?_).symm
  exact Slot.fault_some_iff.symm

/-- An object whose members with the given names are of the given forms. They are gone through in
the given order, and members with other names are not looked at. -/
def record (forms : List (String × Form)) (notObject : Json.Head → ShapeError) : Form :=
  object (fun members => forms.map fun x => ⟨x.1, x.2, members.get? x.1⟩) notObject

/-- A map from condition keys to values. -/
def conditionKeys : Form := values.mapOf

/-- A map from operators to maps from condition keys to values. -/
def condition : Form := conditionKeys.mapOf

/-- A statement object. -/
def statement : Form :=
  record [("Action", values.optional), ("Condition", condition.optional),
    ("Effect", text.optional), ("NotAction", values.optional),
    ("NotPrincipal", principal.optional), ("NotResource", values.optional),
    ("Principal", principal.optional), ("Resource", values.optional), ("Sid", text.optional)]
    .notAStatement

/-- A policy document. -/
def policy : Form :=
  record [("Id", text.optional), ("Statement", statement.oneOrMany.optional), ("Version", text)]
    .notADocument

/-- The errors of a reader are the faults of the form. -/
def Reads (form : Form) (read : Json → Except ShapeError α) : Prop :=
  ∀ value error, read value = .error error ↔ form.Fault value error

/-- A reader that accepts the valid values and has only one error for others. -/
theorem simple_reads {valid : Json → Prop} {fault : Json.Head → ShapeError}
    {read : Json → Except ShapeError α} (hvalid : ∀ value, (∃ x, read value = .ok x) ↔ valid value)
    (herror : ∀ value error, read value = .error error → error = fault value.head) :
    (simple valid fault).Reads read := by
  intro value error
  constructor
  · intro hread
    refine ⟨fun h => ?_, herror value error hread⟩
    obtain ⟨x, hx⟩ := (hvalid value).mpr h
    cases hread.symm.trans hx
  · rintro ⟨hinvalid, rfl⟩
    cases hread : read value with
    | ok x => exact absurd ((hvalid value).mp ⟨x, hread⟩) hinvalid
    | error error => rw [herror value error hread]

/-- What is not a string is refused by its type. -/
theorem text_reads : text.Reads Json.asString := by
  refine simple_reads Json.exists_asString_iff fun value error hread => ?_
  cases value <;> cases hread <;> rfl

/-- What is not values is refused as such. -/
theorem values_reads : values.Reads Values.ofJson := by
  refine simple_reads Values.exists_ofJson_iff fun value error hread => ?_
  unfold Values.ofJson at hread
  split at hread <;> split at hread <;> cases hread <;> rfl

/-- What is not a principal is refused as such, whatever the reason. -/
theorem principal_reads : principal.Reads Principal.ofJson := by
  refine simple_reads Principal.exists_ofJson_iff fun value error hread => ?_
  unfold Principal.ofJson at hread
  split at hread
  · cases hread
  · split at hread <;> cases hread
    rfl
  · cases hread
    rfl

/-- Null is read as nothing, and other values are read. -/
theorem Reads.optional {read : Json → Except ShapeError α} (hread : form.Reads read) :
    form.optional.Reads (Json.optional read) := by
  intro value error
  unfold Json.optional
  split
  · exact iff_of_false nofun fun ⟨hvalue, _⟩ => hvalue rfl
  · rename_i hvalue
    rw [map_eq_error_iff, hread]
    exact (optionalFault_iff hvalue).symm

/-- A reader of objects that fails for the first member with a fault. -/
theorem object_reads {slots : KeyMap Json → List Slot} {notObject : Json.Head → ShapeError}
    {read : Json → Except ShapeError α}
    (hobject : ∀ members error, read (.obj members) = .error error ↔
      FirstError Slot.Fault (slots (KeyMap.ofList members)) error)
    (hother : ∀ value, (∀ members, value ≠ .obj members) →
      read value = .error (notObject value.head)) : (object slots notObject).Reads read := by
  intro value error
  by_cases hvalue : ∃ members, value = .obj members
  · obtain ⟨members, rfl⟩ := hvalue
    exact (hobject members error).trans objectFault_obj_iff.symm
  · have hvalue := not_exists.mp hvalue
    rw [hother value hvalue, Except.error.injEq, eq_comm]
    exact (objectFault_iff hvalue).symm

/-- A map is read value by value in ascending order of the names. -/
theorem Reads.mapOf {read : Json → Except ShapeError α} {readMap : Json → Except ShapeError β}
    (hread : form.Reads read)
    (hobject : ∀ members error, readMap (.obj members) = .error error ↔
      (KeyMap.ofList members).mapM read = .error error)
    (hother : ∀ value, (∀ members, value ≠ .obj members) →
      readMap value = .error (.wrongType value.head .map)) : form.mapOf.Reads readMap := by
  refine object_reads (fun members error => ?_) hother
  rw [hobject, KeyMap.mapM_eq_error_iff]
  exact firstError_map fun member _ e => (hread member.2 e).trans Slot.fault_some_iff.symm

/-- The field has the name, and its errors are the faults of the form. -/
def IsReadBy (named : String × Form) (field : Field σ) : Prop :=
  field.name = named.1 ∧ named.2.Reads field.read

/-- Storing what is read adds no errors. -/
theorem Reads.isReadBy {read : Json → Except ShapeError α} (hread : form.Reads read)
    (name : String) (store : α → σ → σ) : IsReadBy (name, form) (.of name read store) :=
  ⟨rfl, fun value error => map_eq_error_iff.trans (hread value error)⟩

/-- A record whose fields may be missing is read field by field in ascending order of the names. -/
theorem record_reads {forms : List (String × Form)} {notObject : Json.Head → ShapeError}
    {read : Json → Except ShapeError σ} (reading : Record σ)
    (hincomplete : reading.complete = false)
    (hobject : ∀ members, read (.obj members) = reading.ofMembers (KeyMap.ofList members))
    (hother : ∀ value, (∀ members, value ≠ .obj members) →
      read value = .error (notObject value.head))
    (hfields : List.Forall₂ IsReadBy forms reading.fieldsByName) :
    (record forms notObject).Reads read := by
  refine object_reads (fun members error => ?_) hother
  rw [hobject, Record.ofMembers_eq_readFields hincomplete, Record.readFields_eq_error_iff]
  refine (firstError_of_forall₂ (List.forall₂_map_left_iff.mpr (hfields.imp ?_))).symm
  rintro ⟨name, form⟩ field ⟨rfl, hread⟩ e
  rw [Slot.fault_iff]
  exact exists_congr fun value => and_congr_right fun _ => (hread value e).symm

/-- The keys of an operator are read in ascending order. -/
theorem conditionKeys_reads : conditionKeys.Reads Condition.keysOfJson := by
  refine values_reads.mapOf (fun _ _ => Iff.rfl) fun value hvalue => ?_
  cases value with
  | obj members => exact absurd rfl (hvalue members)
  | _ => rfl

/-- The operators of a condition are read in ascending order. -/
theorem condition_reads : condition.Reads Condition.ofJson := by
  refine conditionKeys_reads.mapOf (fun _ _ => map_eq_error_iff) fun value hvalue => ?_
  cases value with
  | obj members => exact absurd rfl (hvalue members)
  | _ => rfl

/-- The elements of a statement are read in ascending order of their names. -/
theorem statement_reads : statement.Reads Statement.ofElement := by
  refine record_reads Statement.record rfl (fun _ => rfl) (fun value hvalue => ?_) ?_
  · cases value with
    | obj members => exact absurd rfl (hvalue members)
    | _ => rfl
  · rw [Statement.fieldsByName_eq]
    exact .cons (values_reads.optional.isReadBy _ _) <|
      .cons (condition_reads.optional.isReadBy _ _) <|
      .cons (text_reads.optional.isReadBy _ _) <|
      .cons (values_reads.optional.isReadBy _ _) <|
      .cons (principal_reads.optional.isReadBy _ _) <|
      .cons (values_reads.optional.isReadBy _ _) <|
      .cons (principal_reads.optional.isReadBy _ _) <|
      .cons (values_reads.optional.isReadBy _ _) <|
      .cons (text_reads.optional.isReadBy _ _) .nil

/-- One statement is read, or the items of an array one after the other. -/
theorem statements_reads : statement.oneOrMany.optional.Reads Policy.statementsOfJson := by
  intro value error
  unfold Policy.statementsOfJson
  split
  · exact iff_of_false nofun fun ⟨hvalue, _⟩ => hvalue rfl
  · rename_i items
    have hnull : Json.arr items ≠ .null := nofun
    refine Iff.trans ?_ (optionalFault_iff hnull).symm
    refine Iff.trans ?_ oneOrManyFault_arr_iff.symm
    exact mapM_eq_error_iff.trans (firstError_congr fun item _ => statement_reads item)
  · rename_i hnull harray
    refine Iff.trans ?_ (optionalFault_iff hnull).symm
    refine Iff.trans ?_ (oneOrManyFault_iff harray).symm
    exact map_eq_error_iff.trans (statement_reads value error)

/-- The elements of a policy are read in ascending order of their names. -/
theorem policy_reads : policy.Reads Policy.ofDocument := by
  refine record_reads Policy.record rfl (fun _ => rfl) (fun value hvalue => ?_) ?_
  · cases value with
    | obj members => exact absurd rfl (hvalue members)
    | _ => rfl
  · rw [Policy.fieldsByName_eq]
    exact .cons (text_reads.optional.isReadBy _ _) <| .cons (statements_reads.isReadBy _ _) <|
      .cons (text_reads.isReadBy _ _) .nil

end Form

open Form

namespace Policy

/-- The only fault of the element, as a statement of a policy, is told to be its kind. -/
def RefusedByKind (element : Json) (kind : String) : Prop :=
  ∃ error, (∀ e, statement.Fault element e ↔ e = error) ∧ error.message =
    "invalid Statement element: expected an object or an array of objects, found " ++ kind

/-- An element that is not an object has one fault. -/
theorem refusedByKind_of_message {element : Json} {kind : String}
    (helement : ∀ members, element ≠ .obj members)
    (hmessage : (ShapeError.notAStatement element.head).message =
      "invalid Statement element: expected an object or an array of objects, found " ++ kind) :
    RefusedByKind element kind :=
  ⟨.notAStatement element.head, fun _ => objectFault_iff helement, hmessage⟩

/-- A document is refused for the first fault on the way through it, and neither what comes after
that fault nor what is not looked at matters. -/
theorem ofDocument_fails_with_first_fault :
    -- The members of a policy are gone through in this order.
    (∀ members error, ofDocument (.obj members) = .error error ↔
      let value? := (KeyMap.ofList members).get?
      FirstError Slot.Fault [
        ⟨"Id", text.optional, value? "Id"⟩,
        ⟨"Statement", statement.oneOrMany.optional, value? "Statement"⟩,
        ⟨"Version", text, value? "Version"⟩] error) ∧
    -- A statement may stand alone. In an array the first one that has a fault counts.
    (∀ element, (∀ items, element ≠ .arr items) → ∀ error,
      statement.oneOrMany.Fault element error ↔ statement.Fault element error) ∧
    (∀ items error, statement.oneOrMany.Fault (.arr items) error ↔
      FirstError statement.Fault items error) ∧
    -- A statement that is not an object is told by its own kind.
    (RefusedByKind .null "null" ∧ (∀ value, RefusedByKind (.bool value) "a boolean") ∧
      (∀ number, RefusedByKind (.num number) "a number") ∧
      (∀ text, RefusedByKind (.str text) "a string") ∧
      ∀ items, RefusedByKind (.arr items) "an array") ∧
    -- The members of a statement are gone through in this order.
    (∀ members error, statement.Fault (.obj members) error ↔
      let value? := (KeyMap.ofList members).get?
      FirstError Slot.Fault [
        ⟨"Action", values.optional, value? "Action"⟩,
        ⟨"Condition", condition.optional, value? "Condition"⟩,
        ⟨"Effect", text.optional, value? "Effect"⟩,
        ⟨"NotAction", values.optional, value? "NotAction"⟩,
        ⟨"NotPrincipal", principal.optional, value? "NotPrincipal"⟩,
        ⟨"NotResource", values.optional, value? "NotResource"⟩,
        ⟨"Principal", principal.optional, value? "Principal"⟩,
        ⟨"Resource", values.optional, value? "Resource"⟩,
        ⟨"Sid", text.optional, value? "Sid"⟩] error) ∧
    -- The operators of a condition are gone through in ascending order, and so are the keys of
    -- each of them.
    (∀ members error, condition.Fault (.obj members) error ↔
      FirstError (fun operator => conditionKeys.Fault operator.2)
        (KeyMap.ofList members).toList error) ∧
    (∀ members error, conditionKeys.Fault (.obj members) error ↔
      FirstError (fun key => values.Fault key.2) (KeyMap.ofList members).toList error) ∧
    -- Documents that are alike as far as the first fault are refused with the same error.
    ∀ document other, policy.Alike document other → ∀ error,
      ofDocument document = .error error ↔ ofDocument other = .error error := by
  refine ⟨fun members error => (policy_reads _ error).trans objectFault_obj_iff,
    fun _ helement _ => oneOrManyFault_iff helement, fun _ _ => oneOrManyFault_arr_iff,
    ⟨refusedByKind_of_message nofun rfl, fun _ => refusedByKind_of_message nofun rfl,
      fun _ => refusedByKind_of_message nofun rfl, fun _ => refusedByKind_of_message nofun rfl,
      fun _ => refusedByKind_of_message nofun rfl⟩,
    fun _ _ => objectFault_obj_iff, fun _ _ => mapOf_fault_obj_iff, fun _ _ => mapOf_fault_obj_iff,
    fun document other halike error => ?_⟩
  rw [policy_reads, policy_reads, policy.fault_iff halike]

/-- A condition key of the second statement has no values. Later parts have faults too, and a
document that has something else there is refused for the same reason. Elements that are not objects
are refused by their kinds. -/
theorem ofDocument_fails_with_first_fault_of_key :
    let keys : List (String × Json) := [("a", .str "x"), ("b", .obj [])]
    let faulty : Json := .obj [("Sid", .bool true), ("Condition",
      .obj [("StringLike", .null), ("StringEquals", .obj (("c", .null) :: keys))])]
    let otherFaulty : Json := .obj [("Condition", .obj [("StringEquals", .obj keys)])]
    let document : Json := .obj [("Version", .num (.int 1)), ("Statement",
      .arr [.obj [("Note", .null), ("Effect", .str "Allow")], faulty, .str "Deny"])]
    let other : Json := .obj [("Comment", .bool true), ("Statement",
      .arr [.obj [("Effect", .str "Allow")], otherFaulty])]
    (policy.Alike document other ∧ ofDocument document = .error .notValues ∧
      ofDocument other = .error .notValues) ∧
    ((∀ items, Json.bool true ≠ .arr items) ∧
      ∃ error, statement.oneOrMany.Fault (.bool true) error ∧ error.message =
        "invalid Statement element: expected an object or an array of objects, found a boolean") ∧
    RefusedByKind .null "null" ∧ RefusedByKind (.num (.int 1)) "a number" ∧
      RefusedByKind (.arr []) "an array" ∧
    (ofDocument (.obj [("Statement", .arr [.null])])).mapError ShapeError.message = .error
      "invalid Statement element: expected an object or an array of objects, found null" ∧
    (ofDocument (.obj [("Statement", .num (.int 1))])).mapError ShapeError.message = .error
      "invalid Statement element: expected an object or an array of objects, found a number" ∧
    (ofDocument (.obj [("Statement", .arr [.arr []])])).mapError ShapeError.message = .error
      "invalid Statement element: expected an object or an array of objects, found an array" := by
  intro keys faulty otherFaulty document other
  obtain ⟨-, hone, -, ⟨hnull, hbool, hnumber, -, harr⟩, -, -, -, hsame⟩ :=
    ofDocument_fails_with_first_fault
  have hkeys : conditionKeys.Alike (.obj (("c", .null) :: keys)) (.obj keys) := by
    have hsorted : (KeyMap.ofList (("c", Json.null) :: keys)).toList = keys ++ [("c", .null)] := by
      decide +kernel
    have hown : (KeyMap.ofList keys).toList = keys := by decide +kernel
    refine ObjectAlike.members ?_
    rw [hsorted, hown]
    refine .cons (Slot.alike_refl _) fun _ => .stop (Slot.alike_refl _) ⟨.notValues, ?_⟩ _ _
    exact .given ⟨nofun, rfl⟩
  have hcondition : condition.Alike
      (.obj [("StringLike", .null), ("StringEquals", .obj (("c", .null) :: keys))])
      (.obj [("StringEquals", .obj keys)]) := by
    have hsorted : (KeyMap.ofList
        [("StringLike", Json.null), ("StringEquals", .obj (("c", .null) :: keys))]).toList =
        [("StringEquals", .obj (("c", .null) :: keys)), ("StringLike", .null)] := by
      decide +kernel
    refine ObjectAlike.members ?_
    rw [hsorted]
    refine .stop (.given hkeys) ⟨.notValues, .given ?_⟩ _ _
    exact (conditionKeys_reads _ _).mp (by decide +kernel)
  have hfaulty : statement.Alike faulty otherFaulty := by
    refine ObjectAlike.members ?_
    simp only [List.map_cons, List.map_nil, KeyMap.get?_ofList, List.reverse_cons, List.reverse_nil,
      List.nil_append, List.cons_append, List.lookup_cons, List.lookup_nil, String.reduceBEq]
    refine .cons .absent fun _ => .stop (.given (OptionalAlike.given nofun nofun hcondition))
      ⟨.notValues, .given ?_⟩ _ _
    exact (condition_reads.optional _ _).mp (by decide +kernel)
  have halike : policy.Alike document other := by
    refine ObjectAlike.members ?_
    simp only [List.map_cons, List.map_nil, KeyMap.get?_ofList, List.reverse_cons, List.reverse_nil,
      List.nil_append, List.cons_append, List.lookup_cons, List.lookup_nil, String.reduceBEq]
    refine .cons .absent fun _ => .stop (.given (OptionalAlike.given nofun nofun (.many ?_)))
      ⟨.notValues, .given ?_⟩ _ _
    · refine .cons (.members (.refl Slot.alike_refl _)) fun _ => .stop hfaulty ⟨.notValues, ?_⟩ _ _
      exact (statement_reads _ _).mp (by decide +kernel)
    · exact (statements_reads _ _).mp (by decide +kernel)
  have hrefused : ofDocument document = .error .notValues := by decide +kernel
  have hsingle : ∀ items, Json.bool true ≠ .arr items := nofun
  obtain ⟨error, herror, hmessage⟩ := hbool true
  refine ⟨⟨halike, hrefused, (hsame _ _ halike _).mp hrefused⟩, ⟨hsingle, error, ?_, hmessage⟩,
    hnull, hnumber _, harr _, by decide +kernel, by decide +kernel, by decide +kernel⟩
  exact (hone _ hsingle error).mpr ((herror error).mpr rfl)

end Policy

end ResourcePolicy
