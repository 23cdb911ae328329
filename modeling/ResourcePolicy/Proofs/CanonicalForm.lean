import Mathlib.Control.Monad.Basic
import ResourcePolicy.Proofs.Decoding

/-!
# Canonical documents

A policy written out as a document is read back as it was, except that a bare wildcard principal
returns as the AWS value it stands for. Elements that are present but empty stay present. Since
the wildcard is written alike in both forms, a canonical document is a fixed point of reading and
writing again.
-/

namespace ResourcePolicy

namespace Json

/-- An object written from a map of values has the written values as its members. -/
theorem object_map {β : Type} (write : β → Json) (m : KeyMap β) :
    object (m.toList.map fun (key, value) => (key, write value)) = obj (m.map write).toList :=
  object_toList (m.map write)

/-- A text is not null. -/
theorem str_ne_null (text : String) : str text ≠ null := nofun

/-- An object of optional members has those that are present. -/
theorem objectOf_eq (members : List (String × Option Json)) :
    objectOf members = obj (KeyMap.ofPresent members).toList :=
  rfl

/-- An optional member that is written only where it is present is read back from there. -/
theorem memberOr_map {α β : Type} {read : Json → Except ShapeError β} {write : α → Json}
    {back : α → β} (hread : ∀ x, read (write x) = .ok (back x)) (hpresent : ∀ x, write x ≠ null)
    (x? : Option α) : memberOr none (optional read) (x?.map write) = .ok (x?.map back) := by
  cases x? with
  | none => rfl
  | some x =>
    change optional read (write x) = .ok (some (back x))
    have hoptional : optional read (write x) = some <$> read (write x) := by
      unfold optional
      split
      · rename_i hnull
        exact absurd hnull (hpresent x)
      · rfl
    rw [hoptional, hread]
    rfl

/-- An optional member whose value is read back as it was is read back as it was. -/
theorem memberOr_map_self {α : Type} {read : Json → Except ShapeError α} {write : α → Json}
    (hread : ∀ x, read (write x) = .ok x) (hpresent : ∀ x, write x ≠ null) (x? : Option α) :
    memberOr none (optional read) (x?.map write) = .ok x? := by
  rw [memberOr_map hread hpresent x?, Option.map_id']

/-- An optional text is read back as it was. -/
theorem memberOr_map_str (text? : Option String) :
    memberOr none (optional asString) (text?.map str) = .ok text? := by
  have hread : ∀ text, asString (str text) = .ok text := fun _ => rfl
  exact memberOr_map_self hread str_ne_null text?

end Json

namespace Values

/-- Texts are the scalars they are written as. -/
theorem mapM_scalarText?_str (texts : List String) :
    (texts.map Json.str).mapM scalarText? = some texts := by
  induction texts with
  | nil => rfl
  | cons text rest ih =>
    rw [List.map_cons, List.mapM_cons, ih]
    rfl

/-- Values are read back as they were. -/
theorem ofJson_toJson (values : Values) : ofJson values.toJson = .ok values := by
  rw [toJson, Json.strings, ofJson, mapM_scalarText?_str]

/-- The values, unless there are none. -/
def nonempty? (values : Values) : Option Values := if values.isEmpty then none else some values

/-- Values are written, if at all, as their array. -/
theorem toJson?_eq (values : Values) : values.toJson? = values.nonempty?.map toJson := by
  unfold toJson? nonempty?
  split <;> rfl

/-- Leaving out empty values loses nothing, since missing values are empty too. -/
theorem getD_nonempty? (values : Values) : values.nonempty?.getD ∅ = values := by
  unfold nonempty?
  split
  · rename_i hempty
    have hnil : values.toList = [] := List.isEmpty_iff.mp hempty
    cases values
    cases hnil
    rfl
  · rfl

end Values

namespace Condition

/-- The keys of an operator with their values, as an object. -/
def keysToJson (keys : KeyMap Values) : Json := .obj (keys.map Values.toJson).toList

/-- A condition is written operator by operator. -/
theorem toJson_eq (condition : Condition) :
    condition.toJson = .obj (condition.operators.map keysToJson).toList := by
  rw [← Json.object_map]
  unfold toJson keysToJson
  simp only [Json.object_map]

/-- The keys of an operator are read back with their values. -/
theorem keysOfJson_keysToJson (keys : KeyMap Values) :
    keysOfJson (keysToJson keys) = .ok keys := by
  change (KeyMap.ofList (keys.map Values.toJson).toList).mapM Values.ofJson = _
  rw [KeyMap.ofList_toList]
  exact KeyMap.mapM_map Values.ofJson_toJson keys

/-- A condition is read back as it was, operators without keys included. -/
theorem ofJson_toJson (condition : Condition) : ofJson condition.toJson = .ok condition := by
  have hoperators : (condition.operators.map keysToJson).mapM keysOfJson =
      .ok condition.operators :=
    KeyMap.mapM_map keysOfJson_keysToJson condition.operators
  rw [toJson_eq, ofJson, KeyMap.ofList_toList, hoperators]
  rfl

end Condition

namespace Principal

/-- The principal with the bare wildcard spelled out as the AWS value it stands for. -/
def spelledOut : Principal → Principal
  | any => named { aws := ⟨["*"]⟩, service := ⟨[]⟩, federated := ⟨[]⟩ }
  | named types => named types

/-- Spelled out, a principal is given by its values alone. -/
theorem spelledOut_eq (principal : Principal) : principal.spelledOut = named principal.types := by
  cases principal <;> rfl

/-- A principal and its spelled out form are written alike. -/
theorem toJson_spelledOut (principal : Principal) :
    principal.spelledOut.toJson = principal.toJson := by
  cases principal <;> rfl

/-- The types of a principal that have values, by name. -/
def givenTypes (types : PrincipalTypes) : List (String × Option Values) :=
  [("AWS", types.aws.nonempty?), ("Service", types.service.nonempty?),
    ("Federated", types.federated.nonempty?)]

/-- The names of the types are distinct. -/
theorem nodup_givenTypes (types : PrincipalTypes) : ((givenTypes types).map Prod.fst).Nodup := by
  change ["AWS", "Service", "Federated"].Nodup
  decide

/-- A principal is written as the types that have values. -/
theorem toJson_eq (principal : Principal) :
    principal.toJson =
      .obj ((KeyMap.ofPresent (givenTypes principal.types)).map Values.toJson).toList := by
  unfold toJson
  rw [Json.objectOf_eq, ← KeyMap.ofPresent_map (nodup_givenTypes principal.types)]
  simp only [Values.toJson?_eq]
  rfl

/-- A principal is read back spelled out: types without values are left out and read as empty. -/
theorem ofJson_toJson (principal : Principal) :
    ofJson principal.toJson = .ok principal.spelledOut := by
  have hread : ((KeyMap.ofPresent (givenTypes principal.types)).map Values.toJson).mapM
      Values.ofJson = .ok (KeyMap.ofPresent (givenTypes principal.types)) :=
    KeyMap.mapM_map Values.ofJson_toJson _
  have hget := KeyMap.get?_ofPresent (nodup_givenTypes principal.types)
  have haws : (KeyMap.ofPresent (givenTypes principal.types)).get? "AWS" =
      principal.types.aws.nonempty? := hget "AWS"
  have hservice : (KeyMap.ofPresent (givenTypes principal.types)).get? "Service" =
      principal.types.service.nonempty? := hget "Service"
  have hfederated : (KeyMap.ofPresent (givenTypes principal.types)).get? "Federated" =
      principal.types.federated.nonempty? := hget "Federated"
  rw [toJson_eq, ofJson, KeyMap.ofList_toList, hread, spelledOut_eq]
  simp only [haws, hservice, hfederated, Values.getD_nonempty?]

end Principal

namespace Statement

/-- The statement with the bare wildcard spelled out in both of its principals. -/
def spelledOut (s : Statement) : Statement :=
  { s with
    principal := s.principal.map Principal.spelledOut
    notPrincipal := s.notPrincipal.map Principal.spelledOut }

/-- A statement and its spelled out form are written alike. -/
theorem toJson_spelledOut (s : Statement) : s.spelledOut.toJson = s.toJson := by
  have hprincipal : ∀ principal? : Option Principal,
      (principal?.map Principal.spelledOut).map Principal.toJson =
        principal?.map Principal.toJson := by
    intro principal?
    rw [Option.map_map]
    exact congrArg (principal?.map ·) (funext Principal.toJson_spelledOut)
  unfold toJson members spelledOut
  simp only [hprincipal]

/-- A statement is written as the elements that are present. -/
theorem toJson_eq (s : Statement) : s.toJson = .obj (KeyMap.ofPresent s.members).toList := rfl

/-- Every element of a statement stands under its own name. -/
theorem get?_members (s : Statement) (name : String) :
    (KeyMap.ofPresent s.members).get? name = (s.members.lookup name).join := by
  refine KeyMap.get?_ofPresent ?_ name
  change ["Sid", "Effect", "Principal", "NotPrincipal", "Action", "NotAction", "Resource",
    "NotResource", "Condition"].Nodup
  decide

/-- A statement is read back spelled out and otherwise unchanged. -/
theorem ofElement_toJson (s : Statement) : ofElement s.toJson = .ok s.spelledOut := by
  have haction : (KeyMap.ofPresent s.members).get? "Action" = s.action.map Values.toJson :=
    s.get?_members "Action"
  have hcondition : (KeyMap.ofPresent s.members).get? "Condition" =
      s.condition.map Condition.toJson := s.get?_members "Condition"
  have heffect : (KeyMap.ofPresent s.members).get? "Effect" = s.effectText.map Json.str :=
    s.get?_members "Effect"
  have hnotAction : (KeyMap.ofPresent s.members).get? "NotAction" =
      s.notAction.map Values.toJson := s.get?_members "NotAction"
  have hnotPrincipal : (KeyMap.ofPresent s.members).get? "NotPrincipal" =
      s.notPrincipal.map Principal.toJson := s.get?_members "NotPrincipal"
  have hnotResource : (KeyMap.ofPresent s.members).get? "NotResource" =
      s.notResource.map Values.toJson := s.get?_members "NotResource"
  have hprincipal : (KeyMap.ofPresent s.members).get? "Principal" =
      s.principal.map Principal.toJson := s.get?_members "Principal"
  have hresource : (KeyMap.ofPresent s.members).get? "Resource" =
      s.resource.map Values.toJson := s.get?_members "Resource"
  have hsid : (KeyMap.ofPresent s.members).get? "Sid" = s.sid.map Json.str :=
    s.get?_members "Sid"
  have hvalues := Json.memberOr_map_self Values.ofJson_toJson nofun
  have hprincipals := Json.memberOr_map Principal.ofJson_toJson nofun
  have hconditions := Json.memberOr_map_self Condition.ofJson_toJson nofun
  rw [toJson_eq, ofElement_obj, KeyMap.ofList_toList]
  simp only [haction, hcondition, heffect, hnotAction, hnotPrincipal, hnotResource, hprincipal,
    hresource, hsid, Json.memberOr_map_str, hvalues, hprincipals, hconditions]
  rfl

end Statement

namespace Policy

/-- The policy with the bare wildcard spelled out in the principals of its statements. -/
def spelledOut (p : Policy) : Policy :=
  { p with statements := p.statements.map Statement.spelledOut }

/-- A policy and its spelled out form have the same canonical document. -/
theorem toJson_spelledOut (p : Policy) : p.spelledOut.toJson = p.toJson := by
  have hstatements : p.spelledOut.statements.map Statement.toJson =
      p.statements.map Statement.toJson := by
    change (p.statements.map Statement.spelledOut).map Statement.toJson = _
    rw [List.map_map]
    exact List.map_congr_left fun s _ => s.toJson_spelledOut
  unfold toJson members
  rw [hstatements]
  rfl

/-- A policy is written as the elements that are present. -/
theorem toJson_eq (p : Policy) : p.toJson = .obj (KeyMap.ofPresent p.members).toList := rfl

/-- Every element of a policy stands under its own name. -/
theorem get?_members (p : Policy) (name : String) :
    (KeyMap.ofPresent p.members).get? name = (p.members.lookup name).join := by
  refine KeyMap.get?_ofPresent ?_ name
  change ["Version", "Id", "Statement"].Nodup
  decide

/-- The canonical document of a policy is read back spelled out and otherwise unchanged. -/
theorem ofDocument_toJson (p : Policy) : ofDocument p.toJson = .ok p.spelledOut := by
  have hid : (KeyMap.ofPresent p.members).get? "Id" = p.id.map Json.str := p.get?_members "Id"
  have hstatements : (KeyMap.ofPresent p.members).get? "Statement" =
      some (.arr (p.statements.map Statement.toJson)) := p.get?_members "Statement"
  have hversion : (KeyMap.ofPresent p.members).get? "Version" = some (.str p.version) :=
    p.get?_members "Version"
  have hread : statementsOfJson (.arr (p.statements.map Statement.toJson)) =
      .ok (p.statements.map Statement.spelledOut) := by
    change (p.statements.map Statement.toJson).mapM Statement.ofElement = _
    rw [mapM_eq_ok_iff, List.map_map, List.map_map]
    exact List.map_congr_left fun s _ => s.ofElement_toJson
  rw [toJson_eq, ofDocument_obj, KeyMap.ofList_toList]
  simp only [hid, hstatements, hversion, Json.memberOr_map_str, Json.memberOr_some, hread]
  rfl

/-- Reading the canonical document of a policy gives the policy with the bare wildcard spelled
out, and writing what was read from the canonical document of any accepted document gives that
canonical document again. -/
theorem canonical_roundtrip :
    (∀ p : Policy, ofDocument p.toJson = .ok p.spelledOut) ∧
      ∀ (document : Json) (p : Policy), ofDocument document = .ok p →
        ∃ again, ofDocument p.toJson = .ok again ∧ again.toJson = p.toJson := by
  refine ⟨ofDocument_toJson, fun document p _ => ⟨p.spelledOut, p.ofDocument_toJson, ?_⟩⟩
  exact p.toJson_spelledOut

/-- A document with a bare wildcard, a scalar in the place of an array and elements that are
present but empty. -/
theorem canonical_roundtrip_of_present_but_empty :
    let document := Json.obj [
      ("Statement", .obj [
        ("Sid", .str ""), ("Effect", .str "Allow"), ("Principal", .str "*"),
        ("NotPrincipal", .obj []), ("Action", .arr []), ("Resource", .bool true),
        ("Condition", .obj [("StringEquals", .obj [])])]),
      ("Id", .null)]
    let s : Statement := {
      sid := some ""
      effectText := some "Allow"
      principal := some .any
      notPrincipal := some (.named {})
      action := some ∅
      resource := some ⟨["true"]⟩
      condition := some ⟨KeyMap.ofList [("StringEquals", ∅)]⟩ }
    ofDocument document = .ok { statements := [s] } ∧
      ∃ again, ofDocument (toJson { statements := [s] }) = .ok again ∧
        again.toJson = toJson { statements := [s] } := by
  intro document s
  have hread : ofDocument document = .ok { statements := [s] } := by decide +kernel
  exact ⟨hread, canonical_roundtrip.2 document _ hread⟩

end Policy

end ResourcePolicy
