import Mathlib.Control.Monad.Basic
import ResourcePolicy.Proofs.Failures
import ResourcePolicy.Proofs.FirstFault
import ResourcePolicy.Proofs.QuotedText

/-!
# The texts of errors

The errors that can end an evaluation are written down here with their texts. A document is refused
for one of six reasons, the text of which tells what was found in the place of what was expected; an
owner and an AWS value are shown as they were given, an effect is not. Only a text that is not JSON
leaves the text of its error open.
-/

namespace ResourcePolicy

namespace Json.Head

/-- What kind of value was found. -/
inductive IsKind : Head → String → Prop where
  | null : IsKind .null "null"
  | bool (value : Bool) : IsKind (.bool value) "a boolean"
  | num (value : Number) : IsKind (.num value) "a number"
  | str (text : String) : IsKind (.str text) "a string"
  | arr : IsKind .arr "an array"
  | obj : IsKind .obj "an object"

/-- Which value was found, if it is a scalar, and else of which kind. -/
inductive IsPhrase : Head → String → Prop where
  | null : IsPhrase .null "null"
  | true : IsPhrase (.bool true) "boolean `true`"
  | false : IsPhrase (.bool false) "boolean `false`"
  | int (value : Int) : IsPhrase (.num (.int value)) ("integer `" ++ toString value ++ "`")
  | float (value : Float) :
    IsPhrase (.num (.float value)) ("floating point `" ++ floatText value ++ "`")
  | str {text shown : String} (hshown : IsQuoted text shown) :
    IsPhrase (.str text) ("string " ++ shown)
  | arr : IsPhrase .arr "sequence"
  | obj : IsPhrase .obj "map"

/-- A value is told by its kind. -/
theorem isKind_kind (found : Head) : found.IsKind found.kind := by
  cases found <;> constructor

/-- A value is told by the phrase for it. -/
theorem isPhrase_phrase (found : Head) : found.IsPhrase found.phrase := by
  cases found with
  | bool value => cases value <;> constructor
  | num value => cases value <;> constructor
  | str text => exact .str (isQuoted_iff.mpr rfl)
  | _ => constructor

end Json.Head

/-- The reasons for which a policy document is refused, with their texts. -/
inductive ShapeError.IsToldAs : ShapeError → String → Prop where
  | notADocument {found : Json.Head} {kind : String} (hkind : found.IsKind kind) :
    IsToldAs (.notADocument found)
      ("invalid policy document: expected an object, found " ++ kind)
  | notAStatement {found : Json.Head} {kind : String} (hkind : found.IsKind kind) :
    IsToldAs (.notAStatement found)
      ("invalid Statement element: expected an object or an array of objects, found " ++ kind)
  | notValues :
    IsToldAs .notValues "data did not match any variant of untagged enum OneOrMany"
  | notAPrincipal :
    IsToldAs .notAPrincipal "data did not match any variant of untagged enum RawPrincipal"
  | notAString {found : Json.Head} {phrase : String} (hfound : found.IsPhrase phrase) :
    IsToldAs (.wrongType found .string)
      ("invalid type: " ++ phrase ++ ", expected " ++ "a string")
  | notAMap {found : Json.Head} {phrase : String} (hfound : found.IsPhrase phrase) :
    IsToldAs (.wrongType found .map) ("invalid type: " ++ phrase ++ ", expected " ++ "a map")

/-- The errors that end an evaluation, with their texts; there is none for a text that is not
JSON. -/
inductive PolicyError.IsToldAs : PolicyError → Option String → Prop where
  | invalidAccountId (text : String) :
    IsToldAs (.invalidAccountId text) (some ("source account id is invalid: " ++ text))
  | notJson : IsToldAs (.malformedPolicy .notJson) none
  | shape {error : ShapeError} {text : String} (htext : error.IsToldAs text) :
    IsToldAs (.malformedPolicy (.shape error)) (some text)
  | invalidEffect (text : String) :
    IsToldAs (.invalidEffect text)
      (some "element Effect is invalid - valid choices are 'Allow' or 'Deny'")
  | unparseableArn (text : String) :
    IsToldAs (.unparseableArn text) (some ("unabled to parse arn: " ++ text))

namespace Form

/-- Every fault of the form is one of some errors. -/
def TellsOnly (form : Form) (told : ShapeError → Prop) : Prop :=
  ∀ value error, form.Fault value error → told error

variable {told : ShapeError → Prop} {form : Form}

theorem simple_tellsOnly {valid : Json → Prop} {fault : Json.Head → ShapeError}
    (hfault : ∀ found, told (fault found)) : (simple valid fault).TellsOnly told := by
  rintro value _ ⟨-, rfl⟩
  exact hfault value.head

/-- The first fault of some values is a fault of one of them. -/
theorem told_of_firstError {α : Type} {hasFault : α → ShapeError → Prop} {xs : List α}
    {error : ShapeError} (hall : ∀ x ∈ xs, ∀ e, hasFault x e → told e)
    (hfirst : FirstError hasFault xs error) : told error := by
  obtain ⟨front, x, back, rfl, -, herror⟩ := hfirst
  exact hall x (List.mem_append_right _ List.mem_cons_self) error herror

theorem TellsOnly.optional (hform : form.TellsOnly told) : form.optional.TellsOnly told := by
  rintro value error ⟨-, hfault⟩
  exact hform value error hfault

theorem TellsOnly.oneOrMany (hform : form.TellsOnly told) : form.oneOrMany.TellsOnly told := by
  rintro value error (⟨-, hfault⟩ | ⟨hfirst⟩)
  · exact hform value error hfault
  · exact told_of_firstError (fun item _ => hform item) hfirst

theorem object_tellsOnly {slots : KeyMap Json → List Slot} {notObject : Json.Head → ShapeError}
    (hnotObject : ∀ found, told (notObject found))
    (hslots : ∀ members, ∀ slot ∈ slots members, slot.form.TellsOnly told) :
    (object slots notObject).TellsOnly told := by
  rintro value error (⟨-⟩ | ⟨hfirst⟩)
  · exact hnotObject value.head
  · refine told_of_firstError (fun slot hslot e hfault => ?_) hfirst
    obtain ⟨member, -, hmember⟩ := Slot.fault_iff.mp hfault
    exact hslots _ slot hslot member e hmember

theorem TellsOnly.mapOf (hform : form.TellsOnly told)
    (hnotMap : ∀ found, told (.wrongType found .map)) : form.mapOf.TellsOnly told := by
  refine object_tellsOnly hnotMap fun members slot hslot => ?_
  obtain ⟨_, -, rfl⟩ := List.mem_map.mp hslot
  exact hform

theorem record_tellsOnly {forms : List (String × Form)} {notObject : Json.Head → ShapeError}
    (hnotObject : ∀ found, told (notObject found)) (hforms : ∀ x ∈ forms, x.2.TellsOnly told) :
    (record forms notObject).TellsOnly told := by
  refine object_tellsOnly hnotObject fun members slot hslot => ?_
  obtain ⟨x, hx, rfl⟩ := List.mem_map.mp hslot
  exact hforms x hx

/-- The faults of a policy document are told by their texts. -/
theorem policy_tellsOnly : policy.TellsOnly fun error => error.IsToldAs error.message := by
  have htext : text.TellsOnly fun error => error.IsToldAs error.message :=
    simple_tellsOnly fun found => .notAString found.isPhrase_phrase
  have hvalues : values.TellsOnly fun error => error.IsToldAs error.message :=
    simple_tellsOnly fun _ => .notValues
  have hprincipal : principal.TellsOnly fun error => error.IsToldAs error.message :=
    simple_tellsOnly fun _ => .notAPrincipal
  have hcondition : condition.TellsOnly fun error => error.IsToldAs error.message :=
    have hnotMap := fun found : Json.Head => ShapeError.IsToldAs.notAMap found.isPhrase_phrase
    (hvalues.mapOf hnotMap).mapOf hnotMap
  have hstatement : statement.TellsOnly fun error => error.IsToldAs error.message := by
    refine record_tellsOnly (fun found => .notAStatement found.isKind_kind) ?_
    simp only [List.forall_mem_cons, List.not_mem_nil, false_imp_iff, implies_true, and_true]
    exact ⟨hvalues.optional, hcondition.optional, htext.optional, hvalues.optional,
      hprincipal.optional, hvalues.optional, hprincipal.optional, hvalues.optional, htext.optional⟩
  refine record_tellsOnly (fun found => .notADocument found.isKind_kind) ?_
  simp only [List.forall_mem_cons, List.not_mem_nil, false_imp_iff, implies_true, and_true]
  exact ⟨htext.optional, hstatement.oneOrMany.optional, htext⟩

end Form

/-- A text that is refused is refused with the text of the reason. -/
theorem Policy.isToldAs_of_ofText {text : String} {error : PolicyError}
    (hrefused : ofText text = .error error) : error.IsToldAs error.message? := by
  unfold ofText at hrefused
  split at hrefused
  · cases hrefused
  split at hrefused
  · cases hrefused
    exact .notJson
  split at hrefused
  · cases hrefused
  · rename_i hshape
    cases hrefused
    exact .shape (Form.policy_tellsOnly _ _ ((Form.policy_reads _ _).mp hshape))

/-- An evaluation that fails does so with one of the errors above, and with its text. -/
theorem Evaluator.isToldAs_of_evaluate {evaluator : Evaluator} {policyText ownerText : String}
    {error : PolicyError} (herror : evaluator.evaluate policyText ownerText = .error error) :
    error.IsToldAs error.message? := by
  by_cases hid : IsAccountId ownerText
  · cases hread : Policy.ofText policyText with
    | error cause =>
      rw [evaluate_of_ofText_error hid hread] at herror
      cases herror
      exact Policy.isToldAs_of_ofText hread
    | ok policy =>
      obtain ⟨_, _, _, _, _, hfirst⟩ := (evaluate_eq_error_iff hid hread).mp herror
      cases hfirst with
      | effect => exact .invalidEffect _
      | value => exact .unparseableArn _
  · rw [evaluate_of_not_isAccountId hid] at herror
    cases herror
    exact .invalidAccountId ownerText

end ResourcePolicy
