import ResourcePolicy.Proofs.PolicyRow

/-!
# The parts of a policy that an evaluation looks at

Of a statement that denies, or whose effect is invalid, the effect is all that matters. Of a
statement that allows, the legacy rules look at the principal only; the condition-aware rules look
at the id, at whether actions are excluded and, if not, at the principal and the condition. Policies
whose statements agree on these parts, position by position, have the same answer, row or error, and
nothing else in them can change it.
-/

namespace ResourcePolicy

/-- What becomes of grantees under a condition depends on its entries only. -/
theorem Grantees.under_eq_of_entries {condition other : Condition}
    (hentries : condition.entries = other.entries) (g : Grantees) :
    g.under condition = g.under other := by
  unfold under Condition.narrowsGrant Condition.narrows Condition.organizationIds
  rw [hentries]

/-- A condition without entries changes nothing. -/
theorem Grantees.under_empty (g : Grantees) : g.under ∅ = g := by
  have hnarrows : (∅ : Condition).narrows = false := rfl
  unfold under Condition.narrowsGrant
  rw [hnarrows, Bool.and_false, Bool.not_false, Bool.and_true]
  rfl

namespace Statement

/-- The statements agree on what the rules of the mode look at. -/
structure Agrees (mode : Mode) (s t : Statement) : Prop where
  /-- The effect always matters; an absent one counts as empty. -/
  effect : s.effectText.getD "" = t.effectText.getD ""
  /-- The id matters where public statements are reported; an absent one counts as empty. -/
  sid : mode = .conditionAware → s.Allows → s.sid.getD "" = t.sid.getD ""
  /-- It matters whether actions are excluded, but not which ones. -/
  notAction : mode = .conditionAware → s.Allows → (s.notAction = none ↔ t.notAction = none)
  /-- The values of the principal matter if the statement counts; the bare wildcard is the single
  AWS value `*`, and an absent principal has no values. -/
  principal : s.Counts mode → s.namedTypes = t.namedTypes
  /-- The entries of the condition matter if the statement counts under the condition-aware rules;
  an absent condition has no entries. -/
  condition : mode = .conditionAware → s.Counts mode → s.conditionEntries = t.conditionEntries

variable {s t : Statement} {mode : Mode} {owner : AccountId}

/-- An absent condition has the entries of the empty one. -/
theorem conditionEntries_eq (s : Statement) :
    s.conditionEntries = (s.condition.getD ∅).entries := by
  unfold conditionEntries
  cases s.condition <;> rfl

/-- An absent condition does what the empty one does. -/
theorem limited_conditionAware (s : Statement) (named : Grantees) :
    s.limited .conditionAware named = named.under (s.condition.getD ∅) := by
  unfold limited
  cases s.condition with
  | none => exact named.under_empty.symm
  | some condition => rfl

/-- What becomes of the grantees of a statement depends on the entries of its condition only. -/
theorem limited_eq_of_entries (hentries : s.conditionEntries = t.conditionEntries) :
    s.limited .conditionAware = t.limited .conditionAware := by
  rw [s.conditionEntries_eq, t.conditionEntries_eq] at hentries
  funext named
  rw [s.limited_conditionAware, t.limited_conditionAware, named.under_eq_of_entries hentries]

/-- An absent name gives the id that the empty name gives. -/
theorem id_eq_getD (s : Statement) (index : Nat) :
    s.id index = if (s.sid.getD "").isEmpty then positionId index else s.sid.getD "" := by
  unfold Statement.id
  cases s.sid <;> simp

/-- The id of a statement depends on its name only, an absent one counting as empty. -/
theorem id_eq_of_sid (hsid : s.sid.getD "" = t.sid.getD "") (index : Nat) :
    s.id index = t.id index := by
  rw [s.id_eq_getD, t.id_eq_getD, hsid]

/-- A statement that is public allows. -/
theorem IsPublicUnder.allows (hpublic : s.IsPublicUnder mode) : s.Allows := by
  cases mode <;> exact hpublic.1

namespace Agrees

/-- Any statement agrees with itself. -/
theorem refl (mode : Mode) (s : Statement) : s.Agrees mode s :=
  ⟨rfl, fun _ _ => rfl, fun _ _ => Iff.rfl, fun _ => rfl, fun _ _ => rfl⟩

/-- Statements that agree have the same valid effect or none. -/
theorem effectText_iff (hagrees : s.Agrees mode t) {name : String} (hname : name ≠ "") :
    s.effectText = some name ↔ t.effectText = some name := by
  rw [eq_some_iff_getD_eq hname, eq_some_iff_getD_eq hname, hagrees.effect]

theorem allows_iff (hagrees : s.Agrees mode t) : s.Allows ↔ t.Allows :=
  hagrees.effectText_iff (by decide)

theorem denies_iff (hagrees : s.Agrees mode t) : s.Denies ↔ t.Denies :=
  hagrees.effectText_iff (by decide)

/-- Of statements that agree, one counts iff the other does. -/
theorem counts_of_counts (hagrees : s.Agrees mode t) (hcounts : s.Counts mode) :
    t.Counts mode := by
  obtain ⟨hallows, hmode⟩ := hcounts
  refine ⟨hagrees.allows_iff.mp hallows, ?_⟩
  cases mode with
  | legacy => exact Or.inl rfl
  | conditionAware =>
    have hnot : s.notAction = none := hmode.resolve_left (by decide)
    exact Or.inr ((hagrees.notAction rfl hallows).mp hnot)

/-- Statements that agree grant the same, or fail alike. -/
theorem grantees_eq (hagrees : s.Agrees mode t) :
    s.grantees mode owner = t.grantees mode owner := by
  rcases s.cases mode with ⟨hallows, hdenies⟩ | hdenies | ⟨rfl, hallows, hnot⟩ | hcounts
  · have hallows' : ¬ t.Allows := mt hagrees.allows_iff.mpr hallows
    have hdenies' : ¬ t.Denies := mt hagrees.denies_iff.mpr hdenies
    rw [grantees_of_neither hallows hdenies, grantees_of_neither hallows' hdenies', hagrees.effect]
  · rw [grantees_of_denies hdenies, grantees_of_denies (hagrees.denies_iff.mp hdenies)]
  · have hnot' : t.notAction ≠ none := mt (hagrees.notAction rfl hallows).mpr hnot
    rw [grantees_of_notAction hallows hnot,
      grantees_of_notAction (hagrees.allows_iff.mp hallows) hnot']
  · have hlimited : s.limited mode = t.limited mode := by
      cases mode with
      | legacy => rfl
      | conditionAware => exact limited_eq_of_entries (hagrees.condition rfl hcounts)
    rw [grantees_of_counts hcounts, grantees_of_counts (hagrees.counts_of_counts hcounts),
      s.principalGrantees_eq, t.principalGrantees_eq, hagrees.principal hcounts, hlimited]

end Agrees

end Statement

namespace Policy

variable {policy other : Policy} {mode : Mode} {owner : AccountId}

/-- The statements grant the same, and if their grants are public and reported, they are so under
the same ids. -/
structure ReportedAlike (mode : Mode) (entry other : Statement × Grantees) : Prop where
  grantees : entry.2 = other.2
  id : mode = .conditionAware → entry.2.isPublic = true → ∀ i, entry.1.id i = other.1.id i

/-- A statement that agrees with another one has the same outcome. -/
theorem granted_step {s t : Statement} (hagrees : s.Agrees mode t) :
    SameOutcome (ReportedAlike mode) (Prod.mk s <$> s.grantees mode owner)
      (Prod.mk t <$> t.grantees mode owner) := by
  rw [← hagrees.grantees_eq]
  cases hgrantees : s.grantees mode owner with
  | error e => exact .error e
  | ok g =>
    refine .ok ⟨rfl, fun hmode hpublic i => ?_⟩
    have hunder := (Statement.grantees_granted hgrantees).isPublic.mp hpublic
    exact Statement.id_eq_of_sid (hagrees.sid hmode hunder.allows) i

/-- Policies whose statements agree have the same outcome statement by statement. -/
theorem granted_sameOutcome
    (hagrees : List.Forall₂ (Statement.Agrees mode) policy.statements other.statements) :
    SameOutcome (List.Forall₂ (ReportedAlike mode)) (policy.granted mode owner)
      (other.granted mode owner) :=
  mapM_sameOutcome hagrees fun _ _ => granted_step

variable {granted otherGranted : List (Statement × Grantees)}

/-- Statements that are reported alike have the same public ids. -/
theorem publicIds_eq
    (halike : List.Forall₂ (ReportedAlike .conditionAware) granted otherGranted) :
    publicIds granted = publicIds otherGranted := by
  unfold publicIds
  -- The positions are counted from any start, so that the rest of the lists may follow.
  generalize 0 = start
  induction halike generalizing start with
  | nil => rfl
  | @cons entry other rest otherRest hentry _ ih =>
    obtain ⟨s, g⟩ := entry
    obtain ⟨t, h⟩ := other
    obtain rfl : g = h := hentry.grantees
    simp only [List.zipIdx_cons, List.filter_cons]
    cases hpublic : g.isPublic with
    | false =>
      rw [if_neg Bool.false_ne_true, if_neg Bool.false_ne_true]
      exact ih (start + 1)
    | true =>
      have hid : s.id start = t.id start := hentry.id rfl hpublic start
      rw [if_pos rfl, if_pos rfl, List.map_cons, List.map_cons, hid, ih]

/-- Statements that are reported alike have the same row. -/
theorem row_eq (halike : List.Forall₂ (ReportedAlike mode) granted otherGranted) :
    row mode granted = row mode otherGranted := by
  have hgrants : granted.map Prod.snd = otherGranted.map Prod.snd := by
    induction halike with
    | nil => rfl
    | cons hentry _ ih => rw [List.map_cons, List.map_cons, hentry.grantees, ih]
  unfold row whole
  rw [hgrants]
  cases mode with
  | legacy => rfl
  | conditionAware =>
    have hids := publicIds_eq halike
    simp only [hids]

/-- Policies whose statements agree have the same answer. -/
theorem evaluate_eq_of_agrees
    (hagrees : List.Forall₂ (Statement.Agrees mode) policy.statements other.statements) :
    policy.evaluate mode owner = other.evaluate mode owner := by
  rw [evaluate_eq_map, evaluate_eq_map]
  have houtcome : SameOutcome (List.Forall₂ (ReportedAlike mode)) (policy.granted mode owner)
      (other.granted mode owner) := granted_sameOutcome hagrees
  revert houtcome
  generalize policy.granted mode owner = granted
  generalize other.granted mode owner = otherGranted
  rintro (halike | error)
  · exact congrArg Except.ok (row_eq halike)
  · rfl

end Policy

namespace Evaluator

/-- Policies whose statements agree on what is looked at have the same answer for every owner,
whatever else they hold. -/
theorem evaluatePolicy_eq_of_agrees {evaluator : Evaluator} {policy other : Policy}
    (hagrees :
      List.Forall₂ (Statement.Agrees evaluator.mode) policy.statements other.statements)
    (ownerText : String) :
    evaluator.evaluatePolicy policy ownerText = evaluator.evaluatePolicy other ownerText := by
  by_cases hid : IsAccountId ownerText
  · rw [evaluatePolicy_of_isAccountId hid, evaluatePolicy_of_isAccountId hid,
      Policy.evaluate_eq_of_agrees hagrees]
  · rw [evaluatePolicy_of_not_isAccountId hid, evaluatePolicy_of_not_isAccountId hid]

/-- A denial is rewritten but for its effect, a wildcard is spelled out under a condition without
entries, and an exclusion of actions gets other actions and a bad principal. -/
theorem evaluatePolicy_eq_of_agrees_of_three :
    let denying : Statement :=
      { effectText := some "Deny", principal := some (.named { aws := ⟨["x"]⟩ }) }
    let otherDenying : Statement :=
      { sid := some "No", effectText := some "Deny", notAction := some ⟨["s3:*"]⟩ }
    let anyone : Statement :=
      { effectText := some "Allow", principal := some .any, action := some ⟨["s3:GetObject"]⟩ }
    let otherAnyone : Statement := {
      sid := some ""
      effectText := some "Allow"
      principal := some (.named { aws := ⟨["*"]⟩ })
      notPrincipal := some .any
      condition := some ⟨KeyMap.ofList [("StringEquals", ∅)]⟩ }
    let excluding : Statement :=
      { sid := some "All", effectText := some "Allow", notAction := some ⟨[]⟩ }
    let otherExcluding : Statement := {
      sid := some "All"
      effectText := some "Allow"
      principal := some (.named { aws := ⟨["x"]⟩ })
      notAction := some ⟨["s3:*"]⟩ }
    let policy : Policy :=
      { version := "2012-10-17", id := some "First", statements := [denying, anyone, excluding] }
    let other : Policy := { statements := [otherDenying, otherAnyone, otherExcluding] }
    let row : Evaluation := {
      principals := ["*"]
      accountIds := ["*"]
      isPublic := true
      publicStatementIds := ["All", "Statement[2]"] }
    List.Forall₂ (Statement.Agrees .conditionAware) policy.statements other.statements ∧
      Evaluator.evaluatePolicy ⟨.conditionAware⟩ policy "012345678901" = .ok row ∧
      Evaluator.evaluatePolicy ⟨.conditionAware⟩ other "012345678901" = .ok row := by
  intro denying otherDenying anyone otherAnyone excluding otherExcluding policy other row
  have hdenying : denying.Agrees .conditionAware otherDenying := by
    have hallows : ¬ denying.Allows := by decide
    exact ⟨rfl, fun _ h => absurd h hallows, fun _ h => absurd h hallows,
      fun h => absurd h.1 hallows, fun _ h => absurd h.1 hallows⟩
  have hanyone : anyone.Agrees .conditionAware otherAnyone := by
    have hentries : anyone.conditionEntries = otherAnyone.conditionEntries := by decide
    exact ⟨rfl, fun _ _ => rfl, fun _ _ => Iff.rfl, fun _ => rfl, fun _ _ => hentries⟩
  have hexcluding : excluding.Agrees .conditionAware otherExcluding := by
    have hcounts : ¬ excluding.Counts .conditionAware := by decide
    exact ⟨rfl, fun _ _ => rfl, fun _ _ => iff_of_false (by decide) (by decide),
      fun h => absurd h hcounts, fun _ h => absurd h hcounts⟩
  have hagrees :
      List.Forall₂ (Statement.Agrees .conditionAware) policy.statements other.statements :=
    .cons hdenying (.cons hanyone (.cons hexcluding .nil))
  have hok : Evaluator.evaluatePolicy ⟨.conditionAware⟩ policy "012345678901" = .ok row := by
    decide +kernel
  have hsame := @evaluatePolicy_eq_of_agrees ⟨.conditionAware⟩ policy other hagrees "012345678901"
  exact ⟨hagrees, hok, hsame.symm.trans hok⟩

end Evaluator

end ResourcePolicy
