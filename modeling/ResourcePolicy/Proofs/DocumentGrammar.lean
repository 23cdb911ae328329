import ResourcePolicy.Proofs.Decoding

/-!
# The grammar of policy documents

Which JSON values are policy documents is written down here as a grammar, form by form: an element
is absent, null or of its form, and members with other names may hold anything. The reader accepts
exactly the values of the grammar. An array stands only where the grammar has one, for values or
for the list of statements.
-/

namespace ResourcePolicy

namespace Json

/-- A string. -/
inductive IsText : Json → Prop where
  | str (text : String) : IsText (.str text)

/-- A string, a boolean or a number. -/
inductive IsScalar : Json → Prop where
  | str (text : String) : IsScalar (.str text)
  | bool (value : Bool) : IsScalar (.bool value)
  | num (number : Number) : IsScalar (.num number)

/-- One scalar, or an array of any number of scalars. -/
inductive IsValues : Json → Prop where
  | one {item : Json} (hitem : IsScalar item) : IsValues item
  | many {items : List Json} (hitems : ∀ item ∈ items, IsScalar item) : IsValues (.arr items)

/-- An object whose every member is of the form. -/
inductive IsMapOf (form : Json → Prop) : Json → Prop where
  | obj {members : List (String × Json)}
    (hmembers : ∀ name value, (KeyMap.ofList members).get? name = some value → form value) :
    IsMapOf form (.obj members)

/-- A string, or a map from principal types, known or not, to values. -/
inductive IsPrincipal : Json → Prop where
  | bare (text : String) : IsPrincipal (.str text)
  | typed {types : Json} (htypes : IsMapOf IsValues types) : IsPrincipal types

/-- A map from operators to maps from condition keys to values. -/
def IsCondition : Json → Prop := IsMapOf (IsMapOf IsValues)

/-- A member that is absent, null or of the form. -/
inductive IsOptional (form : Json → Prop) : Option Json → Prop where
  | absent : IsOptional form none
  | null : IsOptional form (some .null)
  | given {value : Json} (hvalue : form value) : IsOptional form (some value)

/-- The members of a statement object. Those with other names are not looked at. -/
structure IsStatementMembers (value? : String → Option Json) : Prop where
  sid : IsOptional IsText (value? "Sid")
  effect : IsOptional IsText (value? "Effect")
  principal : IsOptional IsPrincipal (value? "Principal")
  notPrincipal : IsOptional IsPrincipal (value? "NotPrincipal")
  action : IsOptional IsValues (value? "Action")
  notAction : IsOptional IsValues (value? "NotAction")
  resource : IsOptional IsValues (value? "Resource")
  notResource : IsOptional IsValues (value? "NotResource")
  condition : IsOptional IsCondition (value? "Condition")

/-- A statement object. -/
inductive IsStatement : Json → Prop where
  | obj {members : List (String × Json)}
    (hmembers : IsStatementMembers (KeyMap.ofList members).get?) : IsStatement (.obj members)

/-- One statement object, or an array of any number of them. -/
inductive IsStatements : Json → Prop where
  | one {element : Json} (helement : IsStatement element) : IsStatements element
  | many {elements : List Json} (helements : ∀ element ∈ elements, IsStatement element) :
    IsStatements (.arr elements)

/-- The members of a policy object. Those with other names are not looked at, and the version,
unlike the id, is not null. -/
structure IsPolicyMembers (value? : String → Option Json) : Prop where
  version : ∀ value, value? "Version" = some value → IsText value
  id : IsOptional IsText (value? "Id")
  statements : IsOptional IsStatements (value? "Statement")

/-- A policy document. -/
inductive IsPolicy : Json → Prop where
  | obj {members : List (String × Json)}
    (hmembers : IsPolicyMembers (KeyMap.ofList members).get?) : IsPolicy (.obj members)

/-- A string is what is read as a string. -/
theorem exists_asString_iff (value : Json) :
    (∃ text, asString value = .ok text) ↔ IsText value := by
  constructor
  · rintro ⟨text, hread⟩
    cases value with
    | str text => exact .str text
    | _ => cases hread
  · rintro ⟨text⟩
    exact ⟨text, rfl⟩

/-- An optional member is read iff it is absent, null or of the form that is read. -/
theorem exists_memberOr_optional_iff {α : Type} {read : Json → Except ShapeError α}
    {form : Json → Prop} (hform : ∀ value, (∃ x, read value = .ok x) ↔ form value)
    (value? : Option Json) :
    (∃ x, memberOr none (optional read) value? = .ok x) ↔ IsOptional form value? := by
  constructor
  · rintro ⟨x, hread⟩
    cases value? with
    | none => exact .absent
    | some value =>
      rw [memberOr_some] at hread
      unfold optional at hread
      split at hread
      · exact .null
      · obtain ⟨found, hfound, -⟩ := map_eq_ok_iff.mp hread
        exact .given ((hform value).mp ⟨found, hfound⟩)
  · rintro (_ | _ | ⟨hvalue⟩)
    · exact ⟨none, rfl⟩
    · exact ⟨none, rfl⟩
    · rename_i value
      obtain ⟨found, hfound⟩ := (hform value).mpr hvalue
      rw [memberOr_some]
      unfold optional
      split
      · exact ⟨none, rfl⟩
      · exact ⟨some found, map_eq_ok_iff.mpr ⟨found, hfound, rfl⟩⟩

/-- A member of an object that is read value by value. -/
theorem isMapOf_obj_iff {form : Json → Prop} {members : List (String × Json)} :
    IsMapOf form (.obj members) ↔
      ∀ name value, (KeyMap.ofList members).get? name = some value → form value :=
  ⟨fun ⟨hmembers⟩ => hmembers, .obj⟩

/-- An array is no policy, no statement, no principal and no condition. -/
theorem not_isPolicy_arr (items : List Json) :
    ¬ IsPolicy (.arr items) ∧ ¬ IsStatement (.arr items) ∧ ¬ IsPrincipal (.arr items) ∧
      ¬ IsCondition (.arr items) := by
  refine ⟨nofun, nofun, ?_, nofun⟩
  rintro (_ | ⟨⟨⟩⟩)

end Json

open Json

namespace Values

/-- A scalar is what has the text of a scalar. -/
theorem exists_scalarText?_iff {item : Json} :
    (∃ text, scalarText? item = some text) ↔ IsScalar item := by
  constructor
  · rintro ⟨text, htext⟩
    cases item with
    | str text => exact .str text
    | bool value => exact .bool value
    | num number => exact .num number
    | _ => cases htext
  · rintro (text | value | number)
    · exact ⟨text, rfl⟩
    · exact ⟨toString value, rfl⟩
    · exact ⟨number.text, rfl⟩

/-- The items of an array have texts iff they are scalars. -/
theorem exists_mapM_scalarText?_iff {items : List Json} :
    (∃ texts, items.mapM scalarText? = some texts) ↔ ∀ item ∈ items, IsScalar item := by
  induction items with
  | nil => exact iff_of_true ⟨[], rfl⟩ fun _ hitem => absurd hitem List.not_mem_nil
  | cons item items ih =>
    rw [List.forall_mem_cons, ← ih, ← exists_scalarText?_iff]
    simp only [List.mapM_cons, Option.bind_eq_bind, Option.bind_eq_some_iff, Option.pure_def,
      Option.some.injEq]
    constructor
    · rintro ⟨_, text, htext, texts, htexts, -⟩
      exact ⟨⟨text, htext⟩, texts, htexts⟩
    · rintro ⟨⟨text, htext⟩, texts, htexts⟩
      exact ⟨text :: texts, text, htext, texts, htexts, rfl⟩

/-- Values are what is read as values. -/
theorem exists_ofJson_iff (value : Json) :
    (∃ values, ofJson value = .ok values) ↔ IsValues value := by
  constructor
  · rintro ⟨values, hread⟩
    unfold ofJson at hread
    split at hread
    · split at hread
      · rename_i items texts htexts
        exact .many (exists_mapM_scalarText?_iff.mp ⟨texts, htexts⟩)
      · cases hread
    · split at hread
      · rename_i text htext
        exact .one (exists_scalarText?_iff.mp ⟨text, htext⟩)
      · cases hread
  · rintro (⟨hitem⟩ | ⟨hitems⟩)
    · obtain text | value | number := hitem
      · exact ⟨_, rfl⟩
      · exact ⟨_, rfl⟩
      · exact ⟨_, rfl⟩
    · obtain ⟨texts, htexts⟩ := exists_mapM_scalarText?_iff.mpr hitems
      exact ⟨⟨texts⟩, by rw [ofJson, htexts]⟩

end Values

namespace Principal

/-- A principal is what is read as a principal. -/
theorem exists_ofJson_iff (value : Json) :
    (∃ principal, ofJson value = .ok principal) ↔ IsPrincipal value := by
  constructor
  · rintro ⟨principal, hread⟩
    cases value with
    | str text => exact .bare text
    | obj members =>
      obtain ⟨types, -, htypes⟩ := ofJson_obj_eq_ok_iff.mp hread
      refine .typed (.obj fun name value hvalue => ?_)
      exact (Values.exists_ofJson_iff value).mp (htypes.readable name value hvalue)
    | _ => cases hread
  · rintro (text | ⟨⟨hmembers⟩⟩)
    · exact ⟨_, rfl⟩
    · rename_i members
      have hreadable : ∀ name value, (KeyMap.ofList members).get? name = some value →
          ∃ values, Values.ofJson value = .ok values :=
        fun name value hvalue => (Values.exists_ofJson_iff value).mpr (hmembers name value hvalue)
      obtain ⟨map, hmap⟩ := KeyMap.exists_mapM_iff.mpr hreadable
      exact ⟨_, ofJson_obj_eq_ok_iff.mpr ⟨_, rfl, readFrom_of_mapM hmap⟩⟩

end Principal

namespace Condition

/-- The keys of an operator with their values are what is read as such. -/
theorem exists_keysOfJson_iff (value : Json) :
    (∃ keys, keysOfJson value = .ok keys) ↔ IsMapOf IsValues value := by
  cases value with
  | obj members =>
    have hkeys : (∃ keys, keysOfJson (.obj members) = .ok keys) ↔ _ :=
      KeyMap.exists_mapM_iff
    simp only [hkeys, isMapOf_obj_iff, Values.exists_ofJson_iff]
  | _ => exact iff_of_false nofun nofun

/-- A condition is what is read as a condition. -/
theorem exists_ofJson_iff (value : Json) :
    (∃ condition, ofJson value = .ok condition) ↔ IsCondition value := by
  cases value with
  | obj members =>
    have hoperators : (∃ condition, ofJson (.obj members) = .ok condition) ↔
        ∃ operators, (KeyMap.ofList members).mapM keysOfJson = .ok operators := by
      simp only [ofJson_obj_eq_ok_iff]
      exact ⟨fun ⟨condition, h⟩ => ⟨condition.operators, h⟩, fun ⟨operators, h⟩ => ⟨⟨operators⟩, h⟩⟩
    rw [hoperators, KeyMap.exists_mapM_iff, IsCondition, isMapOf_obj_iff]
    simp only [exists_keysOfJson_iff]
  | _ => exact iff_of_false nofun nofun

end Condition

namespace Statement

/-- A statement object is what is read as a statement. -/
theorem exists_ofElement_iff (value : Json) :
    (∃ s, ofElement value = .ok s) ↔ IsStatement value := by
  have hasText := exists_memberOr_optional_iff exists_asString_iff
  have hasPrincipal := exists_memberOr_optional_iff Principal.exists_ofJson_iff
  have hasValues := exists_memberOr_optional_iff Values.exists_ofJson_iff
  have hasCondition := exists_memberOr_optional_iff Condition.exists_ofJson_iff
  constructor
  · rintro ⟨s, hread⟩
    cases value with
    | obj members =>
      have h := ofElement_obj_eq_ok_iff.mp hread
      exact .obj {
        sid := (hasText _).mp ⟨_, h.sid⟩
        effect := (hasText _).mp ⟨_, h.effect⟩
        principal := (hasPrincipal _).mp ⟨_, h.principal⟩
        notPrincipal := (hasPrincipal _).mp ⟨_, h.notPrincipal⟩
        action := (hasValues _).mp ⟨_, h.action⟩
        notAction := (hasValues _).mp ⟨_, h.notAction⟩
        resource := (hasValues _).mp ⟨_, h.resource⟩
        notResource := (hasValues _).mp ⟨_, h.notResource⟩
        condition := (hasCondition _).mp ⟨_, h.condition⟩ }
    | _ => cases hread
  · rintro ⟨h⟩
    obtain ⟨sid, hsid⟩ := (hasText _).mpr h.sid
    obtain ⟨effectText, heffect⟩ := (hasText _).mpr h.effect
    obtain ⟨principal, hprincipal⟩ := (hasPrincipal _).mpr h.principal
    obtain ⟨notPrincipal, hnotPrincipal⟩ := (hasPrincipal _).mpr h.notPrincipal
    obtain ⟨action, haction⟩ := (hasValues _).mpr h.action
    obtain ⟨notAction, hnotAction⟩ := (hasValues _).mpr h.notAction
    obtain ⟨resource, hresource⟩ := (hasValues _).mpr h.resource
    obtain ⟨notResource, hnotResource⟩ := (hasValues _).mpr h.notResource
    obtain ⟨condition, hcondition⟩ := (hasCondition _).mpr h.condition
    refine ⟨⟨sid, effectText, principal, notPrincipal, action, notAction, resource, notResource,
      condition⟩, ofElement_obj_eq_ok_iff.mpr ?_⟩
    exact ⟨hsid, heffect, hprincipal, hnotPrincipal, haction, hnotAction, hresource, hnotResource,
      hcondition⟩

end Statement

namespace Policy

/-- Null and what is written as statements is what is read as a list of statements. -/
theorem exists_memberOr_statementsOfJson_iff (value? : Option Json) :
    (∃ statements, memberOr [] statementsOfJson value? = .ok statements) ↔
      IsOptional IsStatements value? := by
  constructor
  · rintro ⟨statements, hread⟩
    cases value? with
    | none => exact .absent
    | some value =>
      rw [memberOr_some] at hread
      unfold statementsOfJson at hread
      split at hread
      · exact .null
      · rename_i elements
        refine .given (.many fun element helement => ?_)
        have hread' := exists_mapM_eq_ok_iff.mp ⟨statements, hread⟩ element helement
        exact (Statement.exists_ofElement_iff element).mp hread'
      · obtain ⟨s, hs, -⟩ := bind_eq_ok_iff.mp hread
        exact .given (.one ((Statement.exists_ofElement_iff _).mp ⟨s, hs⟩))
  · rintro (_ | _ | ⟨⟨helement⟩ | ⟨helements⟩⟩)
    · exact ⟨[], rfl⟩
    · exact ⟨[], rfl⟩
    · obtain ⟨s, hs⟩ := (Statement.exists_ofElement_iff _).mpr helement
      obtain ⟨hmembers⟩ := helement
      exact ⟨[s], bind_eq_ok_iff.mpr ⟨s, hs, rfl⟩⟩
    · refine exists_mapM_eq_ok_iff.mpr fun element helement => ?_
      exact (Statement.exists_ofElement_iff element).mpr (helements element helement)

/-- A version is read iff it is absent or a string. -/
theorem exists_memberOr_version_iff (value? : Option Json) :
    (∃ version, memberOr "" asString value? = .ok version) ↔
      ∀ value, value? = some value → IsText value := by
  cases value? with
  | none => exact iff_of_true ⟨"", rfl⟩ nofun
  | some value =>
    rw [memberOr_some, exists_asString_iff]
    exact ⟨fun htext _ hvalue => Option.some.inj hvalue ▸ htext, fun htext => htext value rfl⟩

/-- The reader accepts exactly the policy documents of the grammar, and the grammar has no array
in the place of a policy, a statement, a principal or a condition. -/
theorem exists_ofDocument_iff_isPolicy :
    (∀ document : Json, (∃ policy, ofDocument document = .ok policy) ↔ IsPolicy document) ∧
      ∀ items : List Json, ¬ IsPolicy (.arr items) ∧ ¬ IsStatement (.arr items) ∧
        ¬ IsPrincipal (.arr items) ∧ ¬ IsCondition (.arr items) := by
  refine ⟨fun document => ?_, not_isPolicy_arr⟩
  have hasText := exists_memberOr_optional_iff exists_asString_iff
  constructor
  · rintro ⟨policy, hread⟩
    cases document with
    | obj members =>
      have h := ofDocument_obj_eq_ok_iff.mp hread
      exact .obj {
        version := (exists_memberOr_version_iff _).mp ⟨_, h.version⟩
        id := (hasText _).mp ⟨_, h.id⟩
        statements := (exists_memberOr_statementsOfJson_iff _).mp ⟨_, h.statements⟩ }
    | _ => cases hread
  · rintro ⟨h⟩
    obtain ⟨version, hversion⟩ := (exists_memberOr_version_iff _).mpr h.version
    obtain ⟨id, hid⟩ := (hasText _).mpr h.id
    obtain ⟨statements, hstatements⟩ := (exists_memberOr_statementsOfJson_iff _).mpr h.statements
    exact ⟨⟨version, id, statements⟩,
      ofDocument_obj_eq_ok_iff.mpr ⟨hversion, hid, hstatements⟩⟩

end Policy

end ResourcePolicy
