import ResourcePolicy.Policy
import ResourcePolicy.Proofs.KeyMaps

/-!
# Reading records member by member

A record is read from an object by looking up one member after the other, in ascending order of
their names, and the first that cannot be read decides the error. A member that is missing stands
for a fixed value. For statements and policies the order is written out here, so that nothing
later depends on how the fields are sorted. What is read, if anything, does not depend on the
order at all: every part is what its own member says.
-/

namespace ResourcePolicy

namespace Json

/-- Making an object from the members of a map lists these. -/
theorem object_toList (m : KeyMap Json) : object m.toList = obj m.toList := by
  rw [object, KeyMap.ofList_toList]

/-- What the value of a member says, or, where there is no such member, a fixed value. -/
def memberOr {α : Type} (absent : α) (read : Json → Except ShapeError α) :
    Option Json → Except ShapeError α
  | none => .ok absent
  | some value => read value

/-- A member that is there is read. -/
theorem memberOr_some {α : Type} (absent : α) (read : Json → Except ShapeError α) (value : Json) :
    memberOr absent read (some value) = read value :=
  rfl

end Json

namespace Record

variable {σ α : Type}

/-- The first field is read from its value, if there is one, and then the others are. -/
theorem readFields_cons_eq_bind {fields : List (Field σ)} {value? : String → Option Json}
    {state : σ} (field : Field σ) :
    readFields (field :: fields) value? state =
      Json.memberOr id field.read (value? field.name) >>= fun store =>
        readFields fields value? (store state) := by
  unfold readFields
  rw [List.foldlM_cons]
  cases value? field.name with
  | none => rfl
  | some value =>
    change ((field.read value >>= fun store => pure (store state)) >>= _) = field.read value >>= _
    cases field.read value <;> rfl

/-- A field is read from its member, and then the others are, as long as the record so far holds
what a missing member stands for. -/
theorem readFields_cons {name : String} {read : Json → Except ShapeError α} {store : α → σ → σ}
    {fields : List (Field σ)} {value? : String → Option Json} {state : σ} {absent : α}
    (habsent : store absent state = state) :
    readFields (.of name read store :: fields) value? state =
      Json.memberOr absent read (value? name) >>= fun found =>
        readFields fields value? (store found state) := by
  rw [readFields_cons_eq_bind]
  change Json.memberOr id (fun value => store <$> read value) (value? name) >>= _ = _
  cases value? name with
  | none =>
    change readFields fields value? state = readFields fields value? (store absent state)
    rw [habsent]
  | some value =>
    rw [Json.memberOr_some, Json.memberOr_some]
    cases read value <;> rfl

/-- Where every field may be missing, a record is read from its fields alone. -/
theorem ofMembers_eq_readFields {record : Record σ} {members : KeyMap Json}
    (hincomplete : record.complete = false) :
    record.ofMembers members = readFields record.fieldsByName members.get? record.initial := by
  have hmissing : record.missing? members = none := by
    rw [missing?, hincomplete]
    rfl
  unfold ofMembers
  rw [hmissing]
  cases readFields record.fieldsByName members.get? record.initial <;> rfl

end Record

/-- The values of each type are what its member says, and the other members are values too. -/
structure PrincipalTypes.ReadFrom (types : PrincipalTypes) (value? : String → Option Json) :
    Prop where
  aws : Json.memberOr ∅ Values.ofJson (value? "AWS") = .ok types.aws
  service : Json.memberOr ∅ Values.ofJson (value? "Service") = .ok types.service
  federated : Json.memberOr ∅ Values.ofJson (value? "Federated") = .ok types.federated
  readable : ∀ name value, value? name = some value → ∃ values, Values.ofJson value = .ok values

/-- The members say what the values of each type are. -/
theorem PrincipalTypes.ReadFrom.unique {types other : PrincipalTypes}
    {value? : String → Option Json} (htypes : types.ReadFrom value?)
    (hother : other.ReadFrom value?) : types = other := by
  have haws : types.aws = other.aws := Except.ok.inj (htypes.aws.symm.trans hother.aws)
  have hservice : types.service = other.service :=
    Except.ok.inj (htypes.service.symm.trans hother.service)
  have hfederated : types.federated = other.federated :=
    Except.ok.inj (htypes.federated.symm.trans hother.federated)
  cases types
  cases other
  cases haws
  cases hservice
  cases hfederated
  rfl

namespace Principal

/-- Where all members are read, the values of a type are what its member says. -/
theorem memberOr_of_mapM {members : KeyMap Json} {map : KeyMap Values}
    (hmap : members.mapM Values.ofJson = .ok map) (name : String) :
    Json.memberOr ∅ Values.ofJson (members.get? name) = .ok ((map.get? name).getD ∅) := by
  have hname := KeyMap.mapM_eq_ok_iff_get?.mp hmap name
  cases hvalue : members.get? name with
  | none =>
    rw [hvalue, Option.map_none, eq_comm, Option.map_eq_none_iff] at hname
    rw [hname]
    rfl
  | some value =>
    rw [hvalue, Option.map_some, eq_comm, Option.map_eq_some_iff] at hname
    obtain ⟨values, hvalues, hok⟩ := hname
    rw [hvalues]
    exact hok.symm

/-- Where all members are read, the three types are what their members say. -/
theorem readFrom_of_mapM {members : KeyMap Json} {map : KeyMap Values}
    (hmap : members.mapM Values.ofJson = .ok map) :
    PrincipalTypes.ReadFrom {
      aws := (map.get? "AWS").getD ∅
      service := (map.get? "Service").getD ∅
      federated := (map.get? "Federated").getD ∅ } members.get? where
  aws := memberOr_of_mapM hmap "AWS"
  service := memberOr_of_mapM hmap "Service"
  federated := memberOr_of_mapM hmap "Federated"
  readable := KeyMap.exists_mapM_iff.mp ⟨map, hmap⟩

/-- A principal is read from an object type by type. -/
theorem ofJson_obj_eq_ok_iff {members : List (String × Json)} {principal : Principal} :
    ofJson (.obj members) = .ok principal ↔
      ∃ types, principal = named types ∧ types.ReadFrom (KeyMap.ofList members).get? := by
  have hobj : ofJson (.obj members) = .ok principal ↔ ∃ map,
      (KeyMap.ofList members).mapM Values.ofJson = .ok map ∧ named {
        aws := (map.get? "AWS").getD ∅
        service := (map.get? "Service").getD ∅
        federated := (map.get? "Federated").getD ∅ } = principal := by
    rw [ofJson]
    split
    · rename_i map hmap
      simp only [hmap, Except.ok.injEq, exists_eq_left']
    · rename_i error hmap
      simp only [hmap, reduceCtorEq, false_and, exists_false]
  rw [hobj]
  constructor
  · rintro ⟨map, hmap, rfl⟩
    exact ⟨_, rfl, readFrom_of_mapM hmap⟩
  · rintro ⟨types, rfl, hread⟩
    obtain ⟨map, hmap⟩ := KeyMap.exists_mapM_iff.mpr hread.readable
    exact ⟨map, hmap, congrArg named ((readFrom_of_mapM hmap).unique hread)⟩

end Principal

/-- A condition is read from an object operator by operator. -/
theorem Condition.ofJson_obj_eq_ok_iff {members : List (String × Json)} {condition : Condition} :
    ofJson (.obj members) = .ok condition ↔
      (KeyMap.ofList members).mapM keysOfJson = .ok condition.operators := by
  rw [ofJson, bind_eq_ok_iff]
  constructor
  · rintro ⟨operators, hread, hok⟩
    cases hok
    exact hread
  · intro hread
    exact ⟨_, hread, rfl⟩

namespace Statement

/-- The fields of a statement in ascending order of their names. -/
theorem fieldsByName_eq : record.fieldsByName = [
    .of "Action" (Json.optional Values.ofJson) fun action s => { s with action },
    .of "Condition" (Json.optional Condition.ofJson) fun condition s => { s with condition },
    .of "Effect" (Json.optional Json.asString) fun effectText s => { s with effectText },
    .of "NotAction" (Json.optional Values.ofJson) fun notAction s => { s with notAction },
    .of "NotPrincipal" (Json.optional Principal.ofJson)
      fun notPrincipal s => { s with notPrincipal },
    .of "NotResource" (Json.optional Values.ofJson) fun notResource s => { s with notResource },
    .of "Principal" (Json.optional Principal.ofJson) fun principal s => { s with principal },
    .of "Resource" (Json.optional Values.ofJson) fun resource s => { s with resource },
    .of "Sid" (Json.optional Json.asString) fun sid s => { s with sid }] := by
  simp only [Record.fieldsByName, record, List.foldl_cons, List.foldl_nil, insertAscending,
    Field.of, String.reduceLT, String.reduceEq, if_true, if_false]

/-- A statement is read from the members of an object in ascending order of their names. -/
theorem ofElement_obj (members : List (String × Json)) :
    ofElement (.obj members) = do
      let value? := (KeyMap.ofList members).get?
      let action ← Json.memberOr none (Json.optional Values.ofJson) (value? "Action")
      let condition ← Json.memberOr none (Json.optional Condition.ofJson) (value? "Condition")
      let effectText ← Json.memberOr none (Json.optional Json.asString) (value? "Effect")
      let notAction ← Json.memberOr none (Json.optional Values.ofJson) (value? "NotAction")
      let notPrincipal ← Json.memberOr none (Json.optional Principal.ofJson) (value? "NotPrincipal")
      let notResource ← Json.memberOr none (Json.optional Values.ofJson) (value? "NotResource")
      let principal ← Json.memberOr none (Json.optional Principal.ofJson) (value? "Principal")
      let resource ← Json.memberOr none (Json.optional Values.ofJson) (value? "Resource")
      let sid ← Json.memberOr none (Json.optional Json.asString) (value? "Sid")
      return { sid, effectText, principal, notPrincipal, action, notAction, resource,
               notResource, condition } := by
  change Record.ofMembers record (KeyMap.ofList members) = _
  rw [Record.ofMembers_eq_readFields rfl, fieldsByName_eq]
  refine (Record.readFields_cons (by rfl)).trans (bind_congr fun action => ?_)
  refine (Record.readFields_cons (by rfl)).trans (bind_congr fun condition => ?_)
  refine (Record.readFields_cons (by rfl)).trans (bind_congr fun effectText => ?_)
  refine (Record.readFields_cons (by rfl)).trans (bind_congr fun notAction => ?_)
  refine (Record.readFields_cons (by rfl)).trans (bind_congr fun notPrincipal => ?_)
  refine (Record.readFields_cons (by rfl)).trans (bind_congr fun notResource => ?_)
  refine (Record.readFields_cons (by rfl)).trans (bind_congr fun principal => ?_)
  refine (Record.readFields_cons (by rfl)).trans (bind_congr fun resource => ?_)
  refine (Record.readFields_cons (by rfl)).trans (bind_congr fun sid => ?_)
  rfl

/-- Every element of the statement is what its member says. -/
structure ReadFrom (s : Statement) (value? : String → Option Json) : Prop where
  sid : Json.memberOr none (Json.optional Json.asString) (value? "Sid") = .ok s.sid
  effect : Json.memberOr none (Json.optional Json.asString) (value? "Effect") = .ok s.effectText
  principal :
    Json.memberOr none (Json.optional Principal.ofJson) (value? "Principal") = .ok s.principal
  notPrincipal :
    Json.memberOr none (Json.optional Principal.ofJson) (value? "NotPrincipal") =
      .ok s.notPrincipal
  action : Json.memberOr none (Json.optional Values.ofJson) (value? "Action") = .ok s.action
  notAction :
    Json.memberOr none (Json.optional Values.ofJson) (value? "NotAction") = .ok s.notAction
  resource : Json.memberOr none (Json.optional Values.ofJson) (value? "Resource") = .ok s.resource
  notResource :
    Json.memberOr none (Json.optional Values.ofJson) (value? "NotResource") = .ok s.notResource
  condition :
    Json.memberOr none (Json.optional Condition.ofJson) (value? "Condition") = .ok s.condition

/-- A statement is read from an object iff every element is read from its member. -/
theorem ofElement_obj_eq_ok_iff {members : List (String × Json)} {s : Statement} :
    ofElement (.obj members) = .ok s ↔ s.ReadFrom (KeyMap.ofList members).get? := by
  rw [ofElement_obj]
  simp only [bind_eq_ok_iff]
  constructor
  · rintro ⟨action, haction, condition, hcondition, effectText, heffect, notAction, hnotAction,
      notPrincipal, hnotPrincipal, notResource, hnotResource, principal, hprincipal, resource,
      hresource, sid, hsid, hs⟩
    cases hs
    exact ⟨hsid, heffect, hprincipal, hnotPrincipal, haction, hnotAction, hresource, hnotResource,
      hcondition⟩
  · intro h
    exact ⟨_, h.action, _, h.condition, _, h.effect, _, h.notAction, _, h.notPrincipal, _,
      h.notResource, _, h.principal, _, h.resource, _, h.sid, rfl⟩

end Statement

namespace Policy

/-- The fields of a policy in ascending order of their names. -/
theorem fieldsByName_eq : record.fieldsByName = [
    .of "Id" (Json.optional Json.asString) fun id p => { p with id },
    .of "Statement" statementsOfJson fun statements p => { p with statements },
    .of "Version" Json.asString fun version p => { p with version }] := by
  simp only [Record.fieldsByName, record, List.foldl_cons, List.foldl_nil, insertAscending,
    Field.of, String.reduceLT, String.reduceEq, if_true, if_false]

/-- A policy is read from the members of an object in ascending order of their names. -/
theorem ofDocument_obj (members : List (String × Json)) :
    ofDocument (.obj members) = do
      let value? := (KeyMap.ofList members).get?
      let id ← Json.memberOr none (Json.optional Json.asString) (value? "Id")
      let statements ← Json.memberOr [] statementsOfJson (value? "Statement")
      let version ← Json.memberOr "" Json.asString (value? "Version")
      return { version, id, statements } := by
  change Record.ofMembers record (KeyMap.ofList members) = _
  rw [Record.ofMembers_eq_readFields rfl, fieldsByName_eq]
  refine (Record.readFields_cons (by rfl)).trans (bind_congr fun id => ?_)
  refine (Record.readFields_cons (by rfl)).trans (bind_congr fun statements => ?_)
  refine (Record.readFields_cons (by rfl)).trans (bind_congr fun version => ?_)
  rfl

/-- Every element of the policy is what its member says. -/
structure ReadFrom (p : Policy) (value? : String → Option Json) : Prop where
  version : Json.memberOr "" Json.asString (value? "Version") = .ok p.version
  id : Json.memberOr none (Json.optional Json.asString) (value? "Id") = .ok p.id
  statements : Json.memberOr [] statementsOfJson (value? "Statement") = .ok p.statements

/-- A policy is read from an object iff every element is read from its member. -/
theorem ofDocument_obj_eq_ok_iff {members : List (String × Json)} {p : Policy} :
    ofDocument (.obj members) = .ok p ↔ p.ReadFrom (KeyMap.ofList members).get? := by
  rw [ofDocument_obj]
  simp only [bind_eq_ok_iff]
  constructor
  · rintro ⟨id, hid, statements, hstatements, version, hversion, hp⟩
    cases hp
    exact ⟨hversion, hid, hstatements⟩
  · intro h
    exact ⟨_, h.id, _, h.statements, _, h.version, rfl⟩

end Policy

end ResourcePolicy
