import Mathlib.Control.Monad.Basic
import Mathlib.Logic.Relation
import ResourcePolicy.Proofs.DocumentGrammar

/-!
# Spellings of one policy

A policy document can be spelled in many ways: one value may stand for an array of one, a boolean
or number for its text, null for what is absent, and so on. Each single respelling is a step
between two documents that differ at one place. Reading gives both the same answer, so all
documents that are joined by such steps, taken in either direction, are read alike.
-/

namespace ResourcePolicy

namespace Json

/-- A boolean or a number may be written as the string of its text. -/
inductive ScalarStep : Json → Json → Prop where
  | bool (value : Bool) : ScalarStep (.bool value) (.str (toString value))
  | int (value : Int) : ScalarStep (.num (.int value)) (.str (toString value))
  | float (value : Float) : ScalarStep (.num (.float value)) (.str (floatText value))

/-- Values are respelled by putting a scalar into an array, or by a respelling of the scalar or
of one item of the array. -/
inductive ValuesStep : Json → Json → Prop where
  | single {item : Json} (hitem : IsScalar item) : ValuesStep item (.arr [item])
  | scalar {item text : Json} (hitem : ScalarStep item text) : ValuesStep item text
  | item {front back : List Json} {item text : Json} (hitem : ScalarStep item text) :
    ValuesStep (.arr (front ++ item :: back)) (.arr (front ++ text :: back))

/-- A map of members is respelled at one name: the value there is changed, or a value is added
where there was none. -/
inductive MemberStep (change : String → Json → Json → Prop) (add : String → Json → Prop) :
    KeyMap Json → KeyMap Json → Prop where
  | change {members : KeyMap Json} {name : String} {old value : Json}
    (hold : members.get? name = some old) (hchange : change name old value) :
    MemberStep change add members (members.insert name value)
  | add {members : KeyMap Json} {name : String} {value : Json}
    (habsent : members.get? name = none) (hadd : add name value) :
    MemberStep change add members (members.insert name value)

/-- An object is respelled by a respelling of its members. -/
inductive ObjectStep (change : String → Json → Json → Prop) (add : String → Json → Prop) :
    Json → Json → Prop where
  | obj {left right : List (String × Json)}
    (hmembers : MemberStep change add (KeyMap.ofList left) (KeyMap.ofList right)) :
    ObjectStep change add (.obj left) (.obj right)

/-- A principal type without values may be added, and so may an unknown type with any values. -/
inductive TypeAddition : String → Json → Prop where
  | empty (name : String) : TypeAddition name (.arr [])
  | unknown {name : String} {value : Json} (hname : name ∉ ["AWS", "Service", "Federated"])
    (hvalue : IsValues value) : TypeAddition name value

/-- A bare principal other than the wildcard may be written as an AWS value, and a map of
principal types is respelled at one type. -/
inductive PrincipalStep : Json → Json → Prop where
  | bare {text : String} (htext : text ≠ "*") :
    PrincipalStep (.str text) (.obj [("AWS", .str text)])
  | types {left right : Json} (hstep : ObjectStep (fun _ => ValuesStep) TypeAddition left right) :
    PrincipalStep left right

/-- A condition is respelled at the values of one key of one operator. -/
def ConditionStep : Json → Json → Prop :=
  ObjectStep (fun _ => ObjectStep (fun _ => ValuesStep) fun _ _ => False) fun _ _ => False

/-- The names of the elements of a statement that are principals. -/
def principalNames : List String := ["Principal", "NotPrincipal"]

/-- The names of the elements of a statement that are values. -/
def valuesNames : List String := ["Action", "NotAction", "Resource", "NotResource"]

/-- The names of the elements of a statement. -/
def elementNames : List String :=
  ["Sid", "Effect"] ++ principalNames ++ valuesNames ++ ["Condition"]

/-- An element of a statement is respelled after its kind. -/
inductive ElementStep : String → Json → Json → Prop where
  | values {name : String} {left right : Json} (hname : name ∈ valuesNames)
    (hstep : ValuesStep left right) : ElementStep name left right
  | principal {name : String} {left right : Json} (hname : name ∈ principalNames)
    (hstep : PrincipalStep left right) : ElementStep name left right
  | condition {name : String} {left right : Json} (hname : name = "Condition")
    (hstep : ConditionStep left right) : ElementStep name left right

/-- An element that is absent may be null, and unknown members may be added. -/
inductive ElementAddition : String → Json → Prop where
  | null {name : String} (hname : name ∈ elementNames) : ElementAddition name .null
  | unknown {name : String} {value : Json} (hname : name ∉ elementNames) :
    ElementAddition name value

/-- A statement object is respelled at one member. -/
def StatementStep : Json → Json → Prop := ObjectStep ElementStep ElementAddition

/-- The list of statements is respelled by writing null as an empty list, by putting a single
statement into a list, or by a respelling of the single statement or of one in the list. -/
inductive StatementsStep : Json → Json → Prop where
  | null : StatementsStep .null (.arr [])
  | single {members : List (String × Json)} : StatementsStep (.obj members) (.arr [.obj members])
  | one {left right : Json} (hstep : StatementStep left right) : StatementsStep left right
  | element {front back : List Json} {left right : Json} (hstep : StatementStep left right) :
    StatementsStep (.arr (front ++ left :: back)) (.arr (front ++ right :: back))

/-- Of the elements of a policy only the statements are respelled in their place. -/
inductive PolicyElementStep : String → Json → Json → Prop where
  | statements {name : String} {left right : Json} (hname : name = "Statement")
    (hstep : StatementsStep left right) : PolicyElementStep name left right

/-- An absent version may be empty, an absent id or list of statements may be null, and unknown
members may be added. -/
inductive PolicyAddition : String → Json → Prop where
  | version {name : String} (hname : name = "Version") : PolicyAddition name (.str "")
  | null {name : String} (hname : name ∈ ["Id", "Statement"]) : PolicyAddition name .null
  | unknown {name : String} {value : Json} (hname : name ∉ ["Version", "Id", "Statement"]) :
    PolicyAddition name value

/-- A policy document is respelled at one place. -/
def PolicyStep : Json → Json → Prop := ObjectStep PolicyElementStep PolicyAddition

/-- Two documents are spellings of one another: a sequence of respellings, each in either
direction, leads from one to the other. -/
def Respelled : Json → Json → Prop := Relation.EqvGen PolicyStep

namespace MemberStep

variable {change : String → Json → Json → Prop} {add : String → Json → Prop}
variable {left right : KeyMap Json}

/-- A member says the same after a step if changed values are read alike and an added value says
what its absence did. -/
theorem memberOr_eq (hstep : MemberStep change add left right) {α : Type} {absent : α}
    {read : Json → Except ShapeError α} {name : String}
    (hchange : ∀ old value, change name old value → read value = read old)
    (hadd : ∀ value, add name value → read value = .ok absent) :
    memberOr absent read (right.get? name) = memberOr absent read (left.get? name) := by
  cases hstep with
  | change hold hchanged =>
    rename_i other old value
    rw [KeyMap.get?_insert]
    by_cases hname : name = other
    · subst hname
      rw [if_pos rfl, hold, memberOr_some, memberOr_some]
      exact hchange old value hchanged
    · rw [if_neg hname]
  | add habsent hadded =>
    rename_i other value
    rw [KeyMap.get?_insert]
    by_cases hname : name = other
    · subst hname
      rw [if_pos rfl, habsent, memberOr_some]
      exact hadd value hadded
    · rw [if_neg hname]

/-- All members have a property after a step iff they had it before, if changed values have it
alike and every added value has it. -/
theorem forall_iff (hstep : MemberStep change add left right) {property : Json → Prop}
    (hchange : ∀ name old value, change name old value → (property value ↔ property old))
    (hadd : ∀ name value, add name value → property value) :
    (∀ name value, right.get? name = some value → property value) ↔
      ∀ name value, left.get? name = some value → property value := by
  cases hstep with
  | change hold hchanged =>
    rename_i other old value
    have hsame : property value ↔ property old := hchange other old value hchanged
    simp only [KeyMap.get?_insert]
    constructor
    · intro hright name found hfound
      by_cases hname : name = other
      · have heq : old = found := Option.some.inj (hold.symm.trans (hname ▸ hfound))
        exact heq ▸ hsame.mp (hright other value (if_pos rfl))
      · exact hright name found (by rw [if_neg hname, hfound])
    · intro hleft name found hfound
      by_cases hname : name = other
      · rw [if_pos hname] at hfound
        exact Option.some.inj hfound ▸ hsame.mpr (hleft other old hold)
      · rw [if_neg hname] at hfound
        exact hleft name found hfound
  | add habsent hadded =>
    rename_i other value
    simp only [KeyMap.get?_insert]
    constructor
    · intro hright name found hfound
      by_cases hname : name = other
      · rw [hname, habsent] at hfound
        cases hfound
      · exact hright name found (by rw [if_neg hname, hfound])
    · intro hleft name found hfound
      by_cases hname : name = other
      · rw [if_pos hname] at hfound
        exact Option.some.inj hfound ▸ hadd other value hadded
      · rw [if_neg hname] at hfound
        exact hleft name found hfound

/-- Going through all members gives the same after a step that changes a value into one that is
read alike. -/
theorem mapM_eq (hstep : MemberStep change (fun _ _ => False) left right) {α : Type}
    {read : Json → Except ShapeError α}
    (hchange : ∀ name old value, change name old value → read value = read old) :
    right.mapM read = left.mapM read := by
  cases hstep with
  | change hold hchanged => exact KeyMap.mapM_insert hold (hchange _ _ _ hchanged)
  | add _ hadded => exact absurd hadded not_false

end MemberStep

/-- Values that are not null are read alike as an optional member if they are read alike. -/
theorem optional_eq_of_ne_null {α : Type} {read : Json → Except ShapeError α} {left right : Json}
    (hleft : left ≠ null) (hright : right ≠ null) (hread : read right = read left) :
    optional read right = optional read left := by
  have hpresent : ∀ value, value ≠ null → optional read value = some <$> read value := by
    intro value hvalue
    unfold optional
    split
    · exact absurd rfl hvalue
    · rfl
  rw [hpresent left hleft, hpresent right hright, hread]

/-- Only values that are not null are respelled as values. -/
theorem ValuesStep.ne_null {left right : Json} (hstep : ValuesStep left right) :
    left ≠ null ∧ right ≠ null := by
  cases hstep with
  | single hitem => cases hitem <;> exact ⟨nofun, nofun⟩
  | scalar hitem => cases hitem <;> exact ⟨nofun, nofun⟩
  | item hitem => exact ⟨nofun, nofun⟩

namespace ObjectStep

variable {change : String → Json → Json → Prop} {add : String → Json → Prop}

/-- Only objects are respelled as objects. -/
theorem ne_null {left right : Json} (hstep : ObjectStep change add left right) :
    left ≠ null ∧ right ≠ null := by
  obtain ⟨-⟩ := hstep
  exact ⟨nofun, nofun⟩

/-- The last member of a name may be changed where it stands. -/
theorem changed {front back : List (String × Json)} {name : String} {old value : Json}
    (hlast : name ∉ back.map Prod.fst) (hchange : change name old value) :
    ObjectStep change add (.obj (front ++ (name, old) :: back))
      (.obj (front ++ (name, value) :: back)) := by
  constructor
  rw [KeyMap.ofList_set hlast old value]
  exact .change (KeyMap.get?_ofList_of_last hlast) hchange

/-- A member may be added at the end. -/
theorem added {members : List (String × Json)} {name : String} {value : Json}
    (habsent : name ∉ members.map Prod.fst) (hadd : add name value) :
    ObjectStep change add (.obj members) (.obj (members ++ [(name, value)])) := by
  constructor
  rw [KeyMap.ofList_append_singleton]
  exact .add (KeyMap.get?_ofList_eq_none_iff.mpr habsent) hadd

end ObjectStep

/-- Only values that are not null are respelled as principals. -/
theorem PrincipalStep.ne_null {left right : Json} (hstep : PrincipalStep left right) :
    left ≠ null ∧ right ≠ null := by
  cases hstep with
  | bare htext => exact ⟨nofun, nofun⟩
  | types hstep => exact hstep.ne_null

end Json

open Json

namespace Values

/-- A scalar and its respelling have the same text. -/
theorem scalarText?_of_step {item text : Json} (hstep : ScalarStep item text) :
    scalarText? text = scalarText? item := by
  cases hstep <;> rfl

/-- Values and their respelling are read alike. -/
theorem ofJson_of_step {left right : Json} (hstep : ValuesStep left right) :
    ofJson right = ofJson left := by
  cases hstep with
  | single hitem => cases hitem <;> rfl
  | scalar hitem => cases hitem <;> rfl
  | item hitem =>
    rename_i front back item text
    have htexts : (front ++ text :: back).mapM scalarText? =
        (front ++ item :: back).mapM scalarText? := by
      simp only [List.mapM_append, List.mapM_cons, scalarText?_of_step hitem]
    rw [ofJson, ofJson, htexts]

end Values

namespace Principal

/-- There is only one reason why a map of types is not a principal. -/
theorem error_of_ofJson_obj {members : List (String × Json)} {error : ShapeError}
    (hrefused : ofJson (.obj members) = .error error) : error = .notAPrincipal := by
  rw [ofJson] at hrefused
  split at hrefused
  · cases hrefused
  · exact (Except.error.inj hrefused).symm

/-- The types of a map are read alike when the map is respelled. -/
theorem readFrom_iff_of_step {types : PrincipalTypes} {left right : KeyMap Json}
    (hstep : MemberStep (fun _ => ValuesStep) TypeAddition left right) :
    types.ReadFrom right.get? ↔ types.ReadFrom left.get? := by
  have hmember : ∀ name ∈ ["AWS", "Service", "Federated"],
      memberOr ∅ Values.ofJson (right.get? name) = memberOr ∅ Values.ofJson (left.get? name) := by
    intro name hname
    refine hstep.memberOr_eq (fun old value hvalues => Values.ofJson_of_step hvalues) ?_
    intro value hadd
    cases hadd with
    | empty => rfl
    | unknown hunknown => exact absurd hname hunknown
  have hreadable : (∀ name value, right.get? name = some value →
        ∃ values, Values.ofJson value = .ok values) ↔
      ∀ name value, left.get? name = some value → ∃ values, Values.ofJson value = .ok values := by
    refine hstep.forall_iff (fun name old value hvalues => ?_) fun name value hadd => ?_
    · rw [Values.ofJson_of_step hvalues]
    · cases hadd with
      | empty => exact ⟨∅, rfl⟩
      | unknown _ hvalue => exact (Values.exists_ofJson_iff value).mpr hvalue
  have haws := hmember "AWS" (by decide)
  have hservice := hmember "Service" (by decide)
  have hfederated := hmember "Federated" (by decide)
  constructor
  · intro h
    exact ⟨haws ▸ h.aws, hservice ▸ h.service, hfederated ▸ h.federated, hreadable.mp h.readable⟩
  · intro h
    exact ⟨haws ▸ h.aws, hservice ▸ h.service, hfederated ▸ h.federated,
      hreadable.mpr h.readable⟩

/-- A principal and its respelling are read alike. -/
theorem ofJson_of_step {left right : Json} (hstep : PrincipalStep left right) :
    ofJson right = ofJson left := by
  cases hstep with
  | bare htext =>
    rename_i text
    have hbare : ofJson (.str text) = .ok (named { aws := .single text }) := by
      have hnamed : text ≠ wildcard := htext
      rw [ofJson, if_neg hnamed]
    rw [hbare]
    rfl
  | types hstep =>
    obtain ⟨hmembers⟩ := hstep
    rename_i left right
    -- The error does not tell which type is at fault, so it is enough to compare what is read.
    have hok : ∀ principal, ofJson (.obj right) = .ok principal ↔
        ofJson (.obj left) = .ok principal := by
      intro principal
      rw [ofJson_obj_eq_ok_iff, ofJson_obj_eq_ok_iff]
      simp only [readFrom_iff_of_step hmembers]
    cases hleft : ofJson (.obj left) with
    | ok principal => exact (hok principal).mpr hleft
    | error error =>
      cases hright : ofJson (.obj right) with
      | ok principal =>
        rw [(hok principal).mp hright] at hleft
        cases hleft
      | error other => rw [error_of_ofJson_obj hleft, error_of_ofJson_obj hright]

end Principal

/-- A condition and its respelling are read alike. -/
theorem Condition.ofJson_of_step {left right : Json} (hstep : ConditionStep left right) :
    ofJson right = ofJson left := by
  obtain ⟨hoperators⟩ := hstep
  have hkeys : ∀ old value, ObjectStep (fun _ => ValuesStep) (fun _ _ => False) old value →
      keysOfJson value = keysOfJson old := by
    rintro _ _ ⟨hmembers⟩
    exact hmembers.mapM_eq fun _ _ _ hvalues => Values.ofJson_of_step hvalues
  rw [ofJson, ofJson, hoperators.mapM_eq fun _ old value => hkeys old value]

namespace Statement

section Members

variable {left right : KeyMap Json}

/-- An element is read alike after a step if its respellings are. -/
theorem memberOr_of_step (hstep : MemberStep ElementStep ElementAddition left right) {α : Type}
    {read : Json → Except ShapeError α} {name : String} (hname : name ∈ elementNames)
    (hchange : ∀ old value, ElementStep name old value →
      (old ≠ .null ∧ value ≠ .null) ∧ read value = read old) :
    memberOr none (optional read) (right.get? name) =
      memberOr none (optional read) (left.get? name) := by
  refine hstep.memberOr_eq (fun old value hchanged => ?_) fun value hadd => ?_
  · obtain ⟨⟨hold, hvalue⟩, hread⟩ := hchange old value hchanged
    exact optional_eq_of_ne_null hold hvalue hread
  · cases hadd with
    | null => rfl
    | unknown hunknown => exact absurd hname hunknown

/-- Elements that are values are read alike after a step. -/
theorem values_of_step (hstep : MemberStep ElementStep ElementAddition left right) {name : String}
    (hname : name ∈ valuesNames) :
    memberOr none (optional Values.ofJson) (right.get? name) =
      memberOr none (optional Values.ofJson) (left.get? name) := by
  have helement : ∀ name ∈ valuesNames, name ∈ elementNames ∧ name ∉ principalNames := by decide
  refine memberOr_of_step hstep (helement name hname).1 fun old value hchanged => ?_
  cases hchanged with
  | values _ hvalues => exact ⟨hvalues.ne_null, Values.ofJson_of_step hvalues⟩
  | principal hother _ => exact absurd hother (helement name hname).2
  | condition hother _ => exact absurd hname (hother ▸ by decide)

/-- Elements that are principals are read alike after a step. -/
theorem principal_of_step (hstep : MemberStep ElementStep ElementAddition left right)
    {name : String} (hname : name ∈ principalNames) :
    memberOr none (optional Principal.ofJson) (right.get? name) =
      memberOr none (optional Principal.ofJson) (left.get? name) := by
  have helement : ∀ name ∈ principalNames, name ∈ elementNames ∧ name ∉ valuesNames := by decide
  refine memberOr_of_step hstep (helement name hname).1 fun old value hchanged => ?_
  cases hchanged with
  | values hother _ => exact absurd hother (helement name hname).2
  | principal _ hprincipal => exact ⟨hprincipal.ne_null, Principal.ofJson_of_step hprincipal⟩
  | condition hother _ => exact absurd hname (hother ▸ by decide)

/-- The condition is read alike after a step. -/
theorem condition_of_step (hstep : MemberStep ElementStep ElementAddition left right) :
    memberOr none (optional Condition.ofJson) (right.get? "Condition") =
      memberOr none (optional Condition.ofJson) (left.get? "Condition") := by
  refine memberOr_of_step hstep (by decide) fun old value hchanged => ?_
  cases hchanged with
  | values hother _ => exact absurd hother (by decide)
  | principal hother _ => exact absurd hother (by decide)
  | condition _ hcondition => exact ⟨hcondition.ne_null, Condition.ofJson_of_step hcondition⟩

/-- Texts are read alike after a step, since they have no other spelling. -/
theorem text_of_step (hstep : MemberStep ElementStep ElementAddition left right) {name : String}
    (hname : name ∈ ["Sid", "Effect"]) :
    memberOr none (optional asString) (right.get? name) =
      memberOr none (optional asString) (left.get? name) := by
  have helement : ∀ name ∈ ["Sid", "Effect"],
      name ∈ elementNames ∧ name ∉ valuesNames ∧ name ∉ principalNames := by decide
  refine memberOr_of_step hstep (helement name hname).1 fun old value hchanged => ?_
  cases hchanged with
  | values hother _ => exact absurd hother (helement name hname).2.1
  | principal hother _ => exact absurd hother (helement name hname).2.2
  | condition hother _ => exact absurd hname (hother ▸ by decide)

end Members

/-- A statement and its respelling are read alike. -/
theorem ofElement_of_step {left right : Json} (hstep : StatementStep left right) :
    ofElement right = ofElement left := by
  obtain ⟨hmembers⟩ := hstep
  -- Element by element, so that a refused statement is refused with the same error too.
  have hsid := text_of_step hmembers (show "Sid" ∈ _ by decide)
  have heffect := text_of_step hmembers (show "Effect" ∈ _ by decide)
  have hprincipal := principal_of_step hmembers (show "Principal" ∈ _ by decide)
  have hnotPrincipal := principal_of_step hmembers (show "NotPrincipal" ∈ _ by decide)
  have haction := values_of_step hmembers (show "Action" ∈ _ by decide)
  have hnotAction := values_of_step hmembers (show "NotAction" ∈ _ by decide)
  have hresource := values_of_step hmembers (show "Resource" ∈ _ by decide)
  have hnotResource := values_of_step hmembers (show "NotResource" ∈ _ by decide)
  have hcondition := condition_of_step hmembers
  simp only [ofElement_obj, hsid, heffect, hprincipal, hnotPrincipal, haction, hnotAction,
    hresource, hnotResource, hcondition]

end Statement

namespace Policy

/-- A list of statements and its respelling are read alike. -/
theorem statementsOfJson_of_step {left right : Json} (hstep : StatementsStep left right) :
    statementsOfJson right = statementsOfJson left := by
  cases hstep with
  | null => rfl
  | single =>
    rename_i members
    change [Json.obj members].mapM Statement.ofElement = _
    rw [List.mapM_cons, List.mapM_nil]
    rfl
  | one hstep =>
    have hread := Statement.ofElement_of_step hstep
    obtain ⟨_⟩ := hstep
    exact congrArg (fun found => found >>= fun s => .ok [s]) hread
  | element hstep =>
    rename_i front back left right
    change (front ++ right :: back).mapM Statement.ofElement =
      (front ++ left :: back).mapM Statement.ofElement
    simp only [List.mapM_append, List.mapM_cons, Statement.ofElement_of_step hstep]

section Members

variable {left right : KeyMap Json}

/-- The id is read alike after a step. -/
theorem id_of_step (hstep : MemberStep PolicyElementStep PolicyAddition left right) :
    memberOr none (optional asString) (right.get? "Id") =
      memberOr none (optional asString) (left.get? "Id") := by
  refine hstep.memberOr_eq (fun old value hchanged => ?_) fun value hadd => ?_
  · cases hchanged with
    | statements hname _ => exact absurd hname (by decide)
  · cases hadd with
    | version hname => exact absurd hname (by decide)
    | null _ => rfl
    | unknown hunknown => exact absurd (by decide) hunknown

/-- The statements are read alike after a step. -/
theorem statements_of_step (hstep : MemberStep PolicyElementStep PolicyAddition left right) :
    memberOr [] statementsOfJson (right.get? "Statement") =
      memberOr [] statementsOfJson (left.get? "Statement") := by
  refine hstep.memberOr_eq (fun old value hchanged => ?_) fun value hadd => ?_
  · cases hchanged with
    | statements _ hstatements => exact statementsOfJson_of_step hstatements
  · cases hadd with
    | version hname => exact absurd hname (by decide)
    | null _ => rfl
    | unknown hunknown => exact absurd (by decide) hunknown

/-- The version is read alike after a step. -/
theorem version_of_step (hstep : MemberStep PolicyElementStep PolicyAddition left right) :
    memberOr "" asString (right.get? "Version") = memberOr "" asString (left.get? "Version") := by
  refine hstep.memberOr_eq (fun old value hchanged => ?_) fun value hadd => ?_
  · cases hchanged with
    | statements hname _ => exact absurd hname (by decide)
  · cases hadd with
    | version _ => rfl
    | null hname => exact absurd hname (by decide)
    | unknown hunknown => exact absurd (by decide) hunknown

end Members

/-- A document and its respelling at one place are read alike. -/
theorem ofDocument_of_step {document other : Json} (hstep : PolicyStep document other) :
    ofDocument other = ofDocument document := by
  obtain ⟨hmembers⟩ := hstep
  simp only [ofDocument_obj, id_of_step hmembers, statements_of_step hmembers,
    version_of_step hmembers]

/-- All spellings of a document are read alike: none is a policy, or all are the same policy. -/
theorem ofDocument_eq_of_respelled {document other : Json} (hspelled : Respelled document other) :
    ofDocument document = ofDocument other := by
  induction hspelled with
  | rel document other hstep => exact (ofDocument_of_step hstep).symm
  | refl document => rfl
  | symm document other _ ih => exact ih.symm
  | trans document between other _ _ ihleft ihright => exact ihleft.trans ihright

/-- The principal and the action of a statement are spelled out, the statement is put into a list
and a version is added. -/
theorem ofDocument_eq_of_account_grant :
    let account := Json.str "123456789012"
    let loose := Json.obj [("Statement", .obj [("Principal", account), ("Action", .bool true)])]
    let strict := Json.obj [
      ("Statement", .arr [.obj [("Principal", .obj [("AWS", account)]), ("Action", .str "true")]]),
      ("Version", .str "")]
    let s : Statement :=
      { principal := some (.named { aws := ⟨["123456789012"]⟩ }), action := some ⟨["true"]⟩ }
    Respelled loose strict ∧ ofDocument loose = ofDocument strict ∧
      ofDocument strict = .ok { statements := [s] } := by
  intro account loose strict s
  let typed := Json.obj [("AWS", account)]
  let document := fun statements : Json => Json.obj [("Statement", statements)]
  let statement := fun principal action : Json =>
    Json.obj [("Principal", principal), ("Action", action)]
  have hprincipal : StatementStep (statement account (.bool true)) (statement typed (.bool true)) :=
    @ObjectStep.changed _ _ [] _ _ _ _ (by decide) (.principal (by decide) (.bare (by decide)))
  have haction : StatementStep (statement typed (.bool true)) (statement typed (.str "true")) :=
    @ObjectStep.changed _ _ [_] _ _ _ _ (by decide) (.values (by decide) (.scalar (.bool true)))
  have hstatements : ∀ {left right : Json}, StatementsStep left right →
      Respelled (document left) (document right) := fun hstep =>
    .rel _ _ (@ObjectStep.changed _ _ [] _ _ _ _ (by decide) (.statements rfl hstep))
  have hversion : Respelled (document (.arr [statement typed (.str "true")])) strict :=
    .rel _ _ (ObjectStep.added (by decide) (.version rfl))
  have hspelled : Respelled loose strict :=
    (hstatements (.one hprincipal)).trans _ _ _ <|
      (hstatements (.one haction)).trans _ _ _ <| (hstatements .single).trans _ _ _ hversion
  have hread : ofDocument strict = .ok { statements := [s] } := by decide +kernel
  exact ⟨hspelled, ofDocument_eq_of_respelled hspelled, hread⟩

end Policy

end ResourcePolicy
