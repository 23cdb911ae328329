import ResourcePolicy.Grantees
import ResourcePolicy.Proofs.Classification
import ResourcePolicy.Proofs.Narrowing
import ResourcePolicy.Proofs.Traversal

/-!
# What a single statement grants

A statement counts if it allows and, under the condition-aware rules, does not exclude actions.
Only a statement that counts names anyone, and only such a statement can fail over its AWS
values. Whether a statement is public is decided by its effect, by the exclusion of actions, by
the wildcard and the services in its principal, and by the entries of its condition.
-/

namespace ResourcePolicy

/-- An optional text is a given one other than the empty text iff it is so when an absent text
counts as empty. -/
theorem eq_some_iff_getD_eq {text? : Option String} {name : String} (hname : name ≠ "") :
    text? = some name ↔ text?.getD "" = name := by
  cases text? with
  | none => simp [hname.symm]
  | some text => simp

/-- The grantees are those that the values of a principal name, seen from the owner. -/
structure Grantees.Named (owner : AccountId) (aws serviceNames identities : List String)
    (g : Grantees) : Prop where
  principals : ∀ x, x ∈ g.principals ↔ x ∈ aws
  services : ∀ x, x ∈ g.services ↔ x ∈ serviceNames
  federated : ∀ x, x ∈ g.federated ↔ x ∈ identities
  accounts : ∀ x, x ∈ g.accounts ↔
    (x = "*" ∧ "*" ∈ aws) ∨ (x ≠ owner.text ∧ ∃ value ∈ aws, NamesAccount value x)
  organizations : ∀ x, x ∉ g.organizations
  isPublic : g.isPublic = true ↔ "*" ∈ aws ∨ serviceNames ≠ []

namespace Principal

/-- The grantees of a principal are those that its values name. -/
theorem grantees_named {principal : Principal} {owner : AccountId} {g : Grantees}
    (hok : principal.grantees owner = .ok g) :
    g.Named owner principal.aws principal.services principal.federated := by
  obtain ⟨classified, hclassified, hg⟩ := bind_eq_ok_iff.mp hok
  cases hg
  have hmem : ∀ value : AwsPrincipal, value ∈ classified ↔
      ∃ text ∈ principal.aws, AwsPrincipal.classify text = .ok value :=
    fun _ => mem_of_mapM hclassified
  refine ⟨fun x => StringSet.mem_ofList, fun x => StringSet.mem_ofList,
    fun x => StringSet.mem_ofList, fun x => ?_, fun x => StringSet.not_mem_empty x, ?_⟩
  · simp only [StringSet.mem_ofList, List.mem_filterMap, hmem,
      AwsPrincipal.reportedAccount?_eq_some_iff, AwsPrincipal.namesAccount_iff]
    constructor
    · rintro ⟨value, ⟨text, htext, haccepted⟩, ⟨hnone, rfl⟩ | ⟨id, hid, rfl, hne⟩⟩
      · have hwildcard : text = "*" := (AwsPrincipal.account?_eq_none_iff haccepted).mp hnone
        exact Or.inl ⟨rfl, hwildcard ▸ htext⟩
      · exact Or.inr ⟨hne, text, htext, value, id, haccepted, hid, rfl⟩
    · rintro (⟨rfl, hwildcard⟩ | ⟨hne, text, htext, value, id, haccepted, hid, rfl⟩)
      · exact ⟨.wildcard, ⟨"*", hwildcard, AwsPrincipal.classify_wildcard⟩, Or.inl ⟨rfl, rfl⟩⟩
      · exact ⟨value, ⟨text, htext, haccepted⟩, Or.inr ⟨id, hid, rfl, hne⟩⟩
  · simp only [Bool.or_eq_true, List.any_eq_true, hmem, AwsPrincipal.isWildcard,
      Option.isNone_iff_eq_none, Bool.not_eq_true', List.isEmpty_eq_false_iff]
    refine or_congr_left ?_
    constructor
    · rintro ⟨value, ⟨text, htext, haccepted⟩, hnone⟩
      have hwildcard : text = "*" := (AwsPrincipal.account?_eq_none_iff haccepted).mp hnone
      exact hwildcard ▸ htext
    · intro hwildcard
      exact ⟨.wildcard, ⟨"*", hwildcard, AwsPrincipal.classify_wildcard⟩, rfl⟩

/-- A principal fails over the first of its AWS values that is refused. -/
theorem grantees_eq_error_iff {principal : Principal} {owner : AccountId} {error : PolicyError} :
    principal.grantees owner = .error error ↔
      FirstError (fun value e => AwsPrincipal.classify value = .error e) principal.aws error := by
  rw [grantees, bind_eq_error_iff, mapM_eq_error_iff]
  refine or_iff_left ?_
  rintro ⟨_, -, h⟩
  cases h

end Principal

namespace Statement

/-- The values by type that the principal names: the bare wildcard is the single AWS value `*`,
and without a principal there are none. -/
def namedTypes (s : Statement) : PrincipalTypes :=
  match s.principal with
  | none => { aws := ⟨[]⟩, service := ⟨[]⟩, federated := ⟨[]⟩ }
  | some .any => { aws := ⟨["*"]⟩, service := ⟨[]⟩, federated := ⟨[]⟩ }
  | some (.named types) => types

/-- The AWS values that the principal names. -/
def awsValues (s : Statement) : List String := s.namedTypes.aws.toList

/-- The services that the principal names. -/
def services (s : Statement) : List String := s.namedTypes.service.toList

/-- The federated identities that the principal names. -/
def federated (s : Statement) : List String := s.namedTypes.federated.toList

/-- What the principal of a statement grants depends on its values by type only. -/
theorem principalGrantees_eq (s : Statement) (owner : AccountId) :
    s.principalGrantees owner = (Principal.named s.namedTypes).grantees owner := by
  unfold principalGrantees namedTypes
  cases s.principal with
  | none => rfl
  | some principal => cases principal <;> rfl

/-- The entries of the condition; without a condition there are none. -/
def conditionEntries (s : Statement) : List Condition.Entry :=
  s.condition.elim [] Condition.entries

/-- The effect is exactly `Allow`. -/
def Allows (s : Statement) : Prop := s.effectText = some "Allow"

/-- The effect is exactly `Deny`. -/
def Denies (s : Statement) : Prop := s.effectText = some "Deny"

/-- The principal of the statement is looked at: the statement allows and, unless the rules are
the legacy ones, does not exclude actions. -/
def Counts (mode : Mode) (s : Statement) : Prop :=
  s.Allows ∧ (mode = .legacy ∨ s.notAction = none)

instance : DecidablePred Allows := fun s =>
  inferInstanceAs (Decidable (s.effectText = some "Allow"))

instance : DecidablePred Denies := fun s =>
  inferInstanceAs (Decidable (s.effectText = some "Deny"))

instance (mode : Mode) : DecidablePred (Counts mode) := fun s =>
  inferInstanceAs (Decidable (s.Allows ∧ (mode = .legacy ∨ s.notAction = none)))

/-- The principal names the wildcard or some service. -/
def NamesAnyone (s : Statement) : Prop := "*" ∈ s.awsValues ∨ s.services ≠ []

/-- Some entry of the condition narrows a public grant. -/
def IsNarrowed (s : Statement) : Prop :=
  ∃ condition, s.condition = some condition ∧ ∃ entry, condition.Holds entry ∧ entry.Narrows

/-- The text is a value of an organization key in the condition, whatever the operator. -/
def NamesOrganization (s : Statement) (text : String) : Prop :=
  ∃ condition, s.condition = some condition ∧
    ∃ entry, condition.Holds entry ∧ HoldsOrganizations entry.key ∧ text ∈ entry.values.toList

/-- The statement opens the resource to the public under the condition-aware rules: it allows,
and either it excludes actions or it names anyone and is not narrowed. -/
def IsPublic (s : Statement) : Prop :=
  s.Allows ∧ (s.notAction ≠ none ∨ (s.notAction = none ∧ s.NamesAnyone ∧ ¬ s.IsNarrowed))

/-- The statement opens the resource to the public under the rules of a mode. -/
def IsPublicUnder (s : Statement) : Mode → Prop
  | .legacy => s.Allows ∧ s.NamesAnyone
  | .conditionAware => s.IsPublic

instance : DecidablePred NamesAnyone := fun s =>
  inferInstanceAs (Decidable ("*" ∈ s.awsValues ∨ s.services ≠ []))

/-- A statement is narrowed iff it has a condition that narrows. -/
theorem isNarrowed_iff {s : Statement} :
    s.IsNarrowed ↔ s.condition.any Condition.narrows = true := by
  simp only [IsNarrowed, Condition.holds_iff]
  cases s.condition <;> simp [Condition.narrows_iff]

/-- A statement is narrowed iff one of its condition entries narrows. -/
theorem isNarrowed_iff_exists {s : Statement} :
    s.IsNarrowed ↔ ∃ entry ∈ s.conditionEntries, entry.Narrows := by
  simp only [IsNarrowed, Condition.holds_iff]
  unfold conditionEntries
  cases s.condition <;> simp

/-- The organizations of a statement are the values of its organization keys. -/
theorem namesOrganization_iff_exists {s : Statement} {text : String} :
    s.NamesOrganization text ↔
      ∃ entry ∈ s.conditionEntries, HoldsOrganizations entry.key ∧ text ∈ entry.values.toList := by
  simp only [NamesOrganization, Condition.holds_iff]
  unfold conditionEntries
  cases s.condition <;> simp

instance : DecidablePred IsNarrowed := fun _ => decidable_of_iff _ isNarrowed_iff.symm

instance : DecidablePred IsPublic := fun s =>
  inferInstanceAs (Decidable (s.Allows ∧
    (s.notAction ≠ none ∨ (s.notAction = none ∧ s.NamesAnyone ∧ ¬ s.IsNarrowed))))

variable {s : Statement} {mode : Mode} {owner : AccountId}

/-- A statement that denies does not allow. -/
theorem Denies.not_allows (hdenies : s.Denies) : ¬ s.Allows := by
  intro hallows
  have heq := hallows.symm.trans hdenies
  exact absurd (Option.some.inj heq) (by decide)

theorem effect_of_allows (hallows : s.Allows) : s.effect = .ok .allow := by
  rw [effect, hallows]
  rfl

theorem effect_of_denies (hdenies : s.Denies) : s.effect = .ok .deny := by
  rw [effect, hdenies]
  rfl

/-- Any other effect is an error that shows the effect as written. -/
theorem effect_of_neither (hallows : ¬ s.Allows) (hdenies : ¬ s.Denies) :
    s.effect = .error (.invalidEffect (s.effectText.getD "")) := by
  have hallow : s.effectText.getD "" ≠ Effect.allow.name :=
    mt (eq_some_iff_getD_eq (by decide)).mpr hallows
  have hdeny : s.effectText.getD "" ≠ Effect.deny.name :=
    mt (eq_some_iff_getD_eq (by decide)).mpr hdenies
  rw [effect, Effect.ofName?, if_neg hallow, if_neg hdeny]

/-- The grantees of the principal of a statement are those that its values name. -/
theorem principalGrantees_named {g : Grantees} (hok : s.principalGrantees owner = .ok g) :
    g.Named owner s.awsValues s.services s.federated := by
  rw [principalGrantees_eq] at hok
  exact Principal.grantees_named hok

/-- The principal of a statement fails over the first of its AWS values that is refused. -/
theorem principalGrantees_eq_error_iff {error : PolicyError} :
    s.principalGrantees owner = .error error ↔
      FirstError (fun value e => AwsPrincipal.classify value = .error e) s.awsValues error := by
  rw [principalGrantees_eq]
  exact Principal.grantees_eq_error_iff

/-- What becomes of the grantees of a statement that counts: under the condition-aware rules the
condition, if there is one, is applied to them. -/
def limited (s : Statement) (mode : Mode) (named : Grantees) : Grantees :=
  match mode with
  | .legacy => named
  | .conditionAware => s.condition.elim named named.under

/-- A statement has an invalid effect, or it denies, or under the condition-aware rules it grants
by excluding actions, or it counts. -/
theorem cases (mode : Mode) (s : Statement) :
    (¬ s.Allows ∧ ¬ s.Denies) ∨ s.Denies ∨
      (mode = .conditionAware ∧ s.Allows ∧ s.notAction ≠ none) ∨ s.Counts mode := by
  by_cases hallows : s.Allows
  · by_cases hcounts : s.Counts mode
    · exact Or.inr (Or.inr (Or.inr hcounts))
    · have hmode : mode = .conditionAware := by
        cases mode with
        | legacy => exact absurd ⟨hallows, Or.inl rfl⟩ hcounts
        | conditionAware => rfl
      have hnot : s.notAction ≠ none := fun h => hcounts ⟨hallows, Or.inr h⟩
      exact Or.inr (Or.inr (Or.inl ⟨hmode, hallows, hnot⟩))
  · by_cases hdenies : s.Denies
    · exact Or.inr (Or.inl hdenies)
    · exact Or.inl ⟨hallows, hdenies⟩

/-- A statement with an invalid effect fails over it. -/
theorem grantees_of_neither (hallows : ¬ s.Allows) (hdenies : ¬ s.Denies) :
    s.grantees mode owner = .error (.invalidEffect (s.effectText.getD "")) := by
  rw [grantees, effect_of_neither hallows hdenies]
  rfl

/-- A statement that denies grants nothing. -/
theorem grantees_of_denies (hdenies : s.Denies) : s.grantees mode owner = .ok {} := by
  rw [grantees, effect_of_denies hdenies]
  rfl

/-- Under the condition-aware rules a statement that excludes actions grants to anyone. -/
theorem grantees_of_notAction (hallows : s.Allows) (hnot : s.notAction ≠ none) :
    s.grantees .conditionAware owner = .ok .anyone := by
  have hhas : s.hasNotAction = true := by
    rw [hasNotAction, Option.isSome_iff_ne_none]
    exact hnot
  rw [grantees, effect_of_allows hallows]
  change (if s.hasNotAction = true then _ else _) = _
  rw [if_pos hhas]
  rfl

/-- A statement that counts grants to those whom its principal names. -/
theorem grantees_of_counts (hcounts : s.Counts mode) :
    s.grantees mode owner = s.limited mode <$> s.principalGrantees owner := by
  obtain ⟨hallows, hmode⟩ := hcounts
  rw [grantees, effect_of_allows hallows]
  cases mode with
  | legacy =>
    change s.principalGrantees owner = (fun named => named) <$> s.principalGrantees owner
    rw [id_map']
  | conditionAware =>
    have hnot : s.notAction = none := hmode.resolve_left (by decide)
    have hhas : ¬ s.hasNotAction = true := by simp [hasNotAction, hnot]
    change (if s.hasNotAction = true then _ else _) = _
    rw [if_neg hhas]
    rfl

/-- A kind of names that no condition changes is kept. -/
theorem limited_names (names : Grantees → StringSet)
    (hnames : ∀ (g : Grantees) (condition : Condition), names (g.under condition) = names g)
    (named : Grantees) : names (s.limited mode named) = names named := by
  cases mode with
  | legacy => rfl
  | conditionAware =>
    unfold limited
    cases s.condition with
    | none => rfl
    | some condition => exact hnames named condition

/-- Grantees without organizations get those of the condition, if the rules look at it. -/
theorem mem_limited_organizations {named : Grantees} (hnone : ∀ x, x ∉ named.organizations)
    {x : String} :
    x ∈ (s.limited mode named).organizations ↔ mode = .conditionAware ∧ s.NamesOrganization x := by
  cases mode with
  | legacy => exact iff_of_false (hnone x) (by simp)
  | conditionAware =>
    rw [namesOrganization_iff_exists]
    unfold conditionEntries limited
    cases s.condition with
    | none => exact iff_of_false (hnone x) (by simp)
    | some condition =>
      simp [Grantees.under, hnone, Condition.mem_organizationIds_iff]

/-- Grantees stay public unless the rules look at the condition and it narrows them. -/
theorem limited_isPublic_iff {named : Grantees} :
    (s.limited mode named).isPublic = true ↔
      named.isPublic = true ∧ (mode = .legacy ∨ ¬ s.IsNarrowed) := by
  cases mode with
  | legacy => simp [limited]
  | conditionAware =>
    rw [isNarrowed_iff]
    unfold limited
    cases s.condition with
    | none => simp
    | some condition =>
      cases hpublic : named.isPublic <;>
        simp [Grantees.under, Condition.narrowsGrant, hpublic]

/-- The grantees are what the statement grants under the rules of the mode, seen from the
owner. -/
structure Granted (s : Statement) (mode : Mode) (owner : AccountId) (g : Grantees) : Prop where
  principals : ∀ x, x ∈ g.principals ↔ s.Counts mode ∧ x ∈ s.awsValues
  services : ∀ x, x ∈ g.services ↔ s.Counts mode ∧ x ∈ s.services
  federated : ∀ x, x ∈ g.federated ↔ s.Counts mode ∧ x ∈ s.federated
  accounts : ∀ x, x ∈ g.accounts ↔ s.Counts mode ∧ ((x = "*" ∧ "*" ∈ s.awsValues) ∨
    (x ≠ owner.text ∧ ∃ value ∈ s.awsValues, NamesAccount value x))
  organizations : ∀ x, x ∈ g.organizations ↔
    s.Counts mode ∧ mode = .conditionAware ∧ s.NamesOrganization x
  isPublic : g.isPublic = true ↔ s.IsPublicUnder mode

/-- A statement that does not count names nobody. -/
theorem granted_of_not_counts (hcounts : ¬ s.Counts mode) {isPublic : Bool}
    (hpublic : isPublic = true ↔ s.IsPublicUnder mode) :
    s.Granted mode owner { isPublic } := by
  refine ⟨?_, ?_, ?_, ?_, ?_, hpublic⟩ <;>
    exact fun x => iff_of_false (StringSet.not_mem_empty x) fun h => hcounts h.1

/-- A statement that counts grants to those whom its principal names, unless its condition
narrows that. -/
theorem granted_of_counts (hcounts : s.Counts mode) {named : Grantees}
    (hnamed : named.Named owner s.awsValues s.services s.federated) :
    s.Granted mode owner (s.limited mode named) where
  principals x := by
    rw [limited_names Grantees.principals fun _ _ => rfl, hnamed.principals]
    simp only [hcounts, true_and]
  services x := by
    rw [limited_names Grantees.services fun _ _ => rfl, hnamed.services]
    simp only [hcounts, true_and]
  federated x := by
    rw [limited_names Grantees.federated fun _ _ => rfl, hnamed.federated]
    simp only [hcounts, true_and]
  accounts x := by
    rw [limited_names Grantees.accounts fun _ _ => rfl, hnamed.accounts]
    simp only [hcounts, true_and]
  organizations x := by
    simp only [mem_limited_organizations hnamed.organizations, hcounts, true_and]
  isPublic := by
    obtain ⟨hallows, hmode⟩ := hcounts
    rw [limited_isPublic_iff, hnamed.isPublic]
    cases mode with
    | legacy => simp [IsPublicUnder, NamesAnyone, hallows]
    | conditionAware =>
      have hnot : s.notAction = none := hmode.resolve_left (by decide)
      simp [IsPublicUnder, IsPublic, NamesAnyone, hallows, hnot]

/-- The grantees of a statement are what the statement grants. -/
theorem grantees_granted {g : Grantees} (hok : s.grantees mode owner = .ok g) :
    s.Granted mode owner g := by
  rcases s.cases mode with ⟨hallows, hdenies⟩ | hdenies | ⟨rfl, hallows, hnot⟩ | hcounts
  · rw [grantees_of_neither hallows hdenies] at hok
    cases hok
  · rw [grantees_of_denies hdenies] at hok
    cases hok
    have hallows := hdenies.not_allows
    have hpublic : ¬ s.IsPublicUnder mode := by
      cases mode <;> exact fun h => hallows h.1
    exact granted_of_not_counts (fun h => hallows h.1) (iff_of_false (by decide) hpublic)
  · rw [grantees_of_notAction hallows hnot] at hok
    cases hok
    have hcounts : ¬ s.Counts .conditionAware := fun h => hnot (h.2.resolve_left (by decide))
    exact granted_of_not_counts hcounts (iff_of_true rfl ⟨hallows, Or.inl hnot⟩)
  · rw [grantees_of_counts hcounts] at hok
    obtain ⟨named, hnamed, rfl⟩ := map_eq_ok_iff.mp hok
    exact granted_of_counts hcounts (principalGrantees_named hnamed)

end Statement

end ResourcePolicy
