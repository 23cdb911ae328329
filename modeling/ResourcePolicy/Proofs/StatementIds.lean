import Mathlib.Data.List.Nodup
import Mathlib.Data.List.Perm.Subperm
import ResourcePolicy.Proofs.Composition
import ResourcePolicy.Proofs.RowCoherence

/-!
# When two statements have the same id

Public statements are reported by their ids, each id once, so of two statements with one id only
one is seen in the report. That happens in two ways: both statements bear the same name, or the name
of one spells the id that the other takes from its position. Unless public statements collide so,
as many ids are reported as there are public statements, and each leads back to one of them.
-/

namespace ResourcePolicy

namespace Statement

/-- The statement has no name of its own, or an empty one. -/
def Unnamed (s : Statement) : Prop := s.sid = none ∨ s.sid = some ""

/-- The statements at two indices bear the same name, or one has none and the other bears the
position of that one as its name. -/
inductive Collides (s : Statement) (i : Nat) (t : Statement) (j : Nat) : Prop where
  | names (sid : String) (hname : sid ≠ "") (hs : s.sid = some sid) (ht : t.sid = some sid)
  | first (hs : s.Unnamed) (ht : t.sid = some ("Statement[" ++ toString (i + 1) ++ "]"))
  | second (hs : s.sid = some ("Statement[" ++ toString (j + 1) ++ "]")) (ht : t.Unnamed)

variable {s t : Statement} {i j : Nat}

/-- Different positions give different ids. -/
theorem positionId_injective (hid : positionId i = positionId j) : i = j := by
  have hnumeral : toString (i + 1) = toString (j + 1) := by
    unfold positionId at hid
    exact (String.append_right_inj _).mp ((String.append_left_inj _).mp hid)
  have hdigits : Nat.toDigits 10 (i + 1) = Nat.toDigits 10 (j + 1) := by
    rw [← Nat.toList_repr, ← Nat.toList_repr]
    exact congrArg String.toList hnumeral
  have hvalue := congrArg (Nat.ofDigitChars 10 · 0) hdigits
  simpa only [Nat.ofDigitChars_ten_toDigits, Nat.add_right_cancel_iff] using hvalue

/-- A statement without a name takes its id from its position. -/
theorem Unnamed.id_eq (hs : s.Unnamed) (index : Nat) : s.id index = positionId index := by
  unfold Statement.id
  rcases hs with hs | hs
  · rw [hs]
  · rw [hs]
    rfl

/-- A statement has a name or has none. -/
theorem unnamed_or_named (s : Statement) : s.Unnamed ∨ ∃ sid, s.sid = some sid ∧ sid ≠ "" := by
  unfold Unnamed
  cases s.sid with
  | none => exact Or.inl (Or.inl rfl)
  | some sid =>
    by_cases hname : sid = ""
    · exact Or.inl (Or.inr (congrArg some hname))
    · exact Or.inr ⟨sid, rfl, hname⟩

/-- Two statements without a name have different ids. -/
theorem Unnamed.id_ne_id (hs : s.Unnamed) (ht : t.Unnamed) (hne : i ≠ j) : s.id i ≠ t.id j := by
  rw [hs.id_eq, ht.id_eq]
  exact mt positionId_injective hne

/-- Statements at different indices have the same id iff they collide. -/
theorem id_eq_id_iff (hne : i ≠ j) : s.id i = t.id j ↔ s.Collides i t j := by
  constructor
  · intro hid
    obtain hs | ⟨sid, hs, hname⟩ := s.unnamed_or_named
    · obtain ht | ⟨other, ht, hother⟩ := t.unnamed_or_named
      · exact absurd hid (hs.id_ne_id ht hne)
      · rw [hs.id_eq, id_of_sid ht hother] at hid
        exact .first hs (ht.trans (congrArg some hid.symm))
    · obtain ht | ⟨other, ht, hother⟩ := t.unnamed_or_named
      · rw [id_of_sid hs hname, ht.id_eq] at hid
        exact .second (hs.trans (congrArg some hid)) ht
      · rw [id_of_sid hs hname, id_of_sid ht hother] at hid
        exact .names sid hname hs (ht.trans (congrArg some hid.symm))
  · rintro (⟨sid, hname, hs, ht⟩ | ⟨hs, ht⟩ | ⟨hs, ht⟩)
    · rw [id_of_sid hs hname, id_of_sid ht hname]
    · rw [hs.id_eq, id_of_sid ht (Statement.positionId_ne_empty i)]
      rfl
    · rw [ht.id_eq, id_of_sid hs (Statement.positionId_ne_empty j)]
      rfl

end Statement

/-- A list without repetitions is as long as another one with the same members iff that one has no
repetitions either. -/
theorem length_eq_iff_nodup {α : Type} {names all : List α} (hnames : names.Nodup)
    (hmem : ∀ x, x ∈ names ↔ x ∈ all) : names.length = all.length ↔ all.Nodup := by
  constructor
  · intro hlength
    have hsubperm := List.Nodup.subperm hnames fun x => (hmem x).mp
    exact (hsubperm.perm_of_length_le (Nat.le_of_eq hlength.symm)).nodup_iff.mp hnames
  · intro hall
    exact ((List.perm_ext_iff_of_nodup hnames hall).mpr hmem).length_eq

namespace Policy

/-- The public statements of the policy, each with its index. -/
def publicPlaces (policy : Policy) : List (Statement × Nat) :=
  policy.statements.zipIdx.filter fun place => place.1.IsPublic

/-- No two public statements collide. -/
def PublicApart (policy : Policy) : Prop :=
  ∀ (i j : Nat) (s t : Statement), policy.statements[i]? = some s →
    policy.statements[j]? = some t → s.IsPublic → t.IsPublic → i ≠ j → ¬ s.Collides i t j

variable {policy : Policy} {owner : AccountId} {row : Evaluation}

theorem mem_publicPlaces_iff {s : Statement} {i : Nat} :
    (s, i) ∈ policy.publicPlaces ↔ policy.statements[i]? = some s ∧ s.IsPublic := by
  rw [publicPlaces, List.mem_filter, List.mem_zipIdx_iff_getElem?, decide_eq_true_iff]

/-- No place is listed twice. -/
theorem nodup_publicPlaces (policy : Policy) : policy.publicPlaces.Nodup := by
  have hindices : (policy.statements.zipIdx.map Prod.snd).Nodup := by
    rw [List.zipIdx_map_snd]
    exact List.nodup_range'
  exact (List.Nodup.of_map Prod.snd hindices).filter _

/-- There are as many places as public statements. -/
theorem length_publicPlaces (policy : Policy) :
    policy.publicPlaces.length = policy.statements.countP fun s => s.IsPublic := by
  conv_rhs => rw [← List.zipIdx_map_fst 0 policy.statements]
  rw [List.countP_map, List.countP_eq_length_filter]
  rfl

/-- No two public statements collide iff no id occurs twice among them. -/
theorem publicApart_iff_nodup :
    policy.PublicApart ↔ (policy.publicPlaces.map fun place => place.1.id place.2).Nodup := by
  rw [List.nodup_map_iff_inj_on policy.nodup_publicPlaces]
  constructor
  · rintro hapart ⟨s, i⟩ hs ⟨t, j⟩ ht hid
    obtain ⟨hs, hspublic⟩ := mem_publicPlaces_iff.mp hs
    obtain ⟨ht, htpublic⟩ := mem_publicPlaces_iff.mp ht
    by_cases hij : i = j
    · subst hij
      obtain rfl : s = t := Option.some.inj (hs.symm.trans ht)
      rfl
    · have hcollides : s.Collides i t j := (Statement.id_eq_id_iff hij).mp hid
      exact absurd hcollides (hapart i j s t hs ht hspublic htpublic hij)
  · intro hinjective i j s t hs ht hspublic htpublic hij hcollides
    have hid : s.id i = t.id j := (Statement.id_eq_id_iff hij).mpr hcollides
    have hplaces := hinjective (s, i) (mem_publicPlaces_iff.mpr ⟨hs, hspublic⟩) (t, j)
      (mem_publicPlaces_iff.mpr ⟨ht, htpublic⟩) hid
    exact hij (congrArg Prod.snd hplaces)

/-- The condition-aware rules report the ids of the public statements. -/
theorem Reported.mem_publicStatementIds_iff_mem_map
    (hrow : policy.Reported .conditionAware owner row) (name : String) :
    name ∈ row.publicStatementIds ↔
      name ∈ policy.publicPlaces.map fun place => place.1.id place.2 := by
  rw [hrow.publicStatementIds, List.mem_map, Prod.exists]
  simp only [mem_publicPlaces_iff, true_and]
  constructor
  · rintro ⟨i, s, hs, hpublic, rfl⟩
    exact ⟨s, i, ⟨hs, hpublic⟩, rfl⟩
  · rintro ⟨s, i, ⟨hs, hpublic⟩, rfl⟩
    exact ⟨i, s, hs, hpublic, rfl⟩

/-- As many ids are reported as there are public statements iff none of these collide. -/
theorem length_publicStatementIds_iff (hrow : policy.Reported .conditionAware owner row)
    (hascends : row.Ascends) :
    row.publicStatementIds.length = policy.statements.countP (fun s => s.IsPublic) ↔
      policy.PublicApart := by
  rw [publicApart_iff_nodup, ← length_publicPlaces,
    ← length_eq_iff_nodup hascends.publicStatementIds.nodup
      hrow.mem_publicStatementIds_iff_mem_map, List.length_map]

/-- Unless public statements collide, a reported id is that of one of them only. -/
theorem PublicApart.existsUnique (hapart : policy.PublicApart)
    (hrow : policy.Reported .conditionAware owner row) {name : String}
    (hname : name ∈ row.publicStatementIds) :
    ∃! i, ∃ s : Statement, policy.statements[i]? = some s ∧ s.IsPublic ∧ name = s.id i := by
  obtain ⟨-, i, s, hs, hpublic, hid⟩ := (hrow.publicStatementIds name).mp hname
  refine ⟨i, ⟨s, hs, hpublic, hid⟩, ?_⟩
  rintro j ⟨t, ht, htpublic, hother⟩
  by_contra hji
  have hcollides : t.Collides j s i := (Statement.id_eq_id_iff hji).mp (hother.symm.trans hid)
  exact hapart j i t s ht hs htpublic hpublic hji hcollides

end Policy

namespace Evaluator

/-- Ids of statements collide in two ways only, and only then does the report hide a public
statement. -/
theorem statementIds_collide_iff (policy : Policy) :
    (∀ (i j : Nat) (s t : Statement), policy.statements[i]? = some s →
      policy.statements[j]? = some t → i ≠ j →
        (s.id i = t.id j ↔ s.Collides i t j) ∧ (s.Unnamed → t.Unnamed → s.id i ≠ t.id j)) ∧
    ∀ (ownerText : String) (row : Evaluation),
      Evaluator.evaluatePolicy ⟨.conditionAware⟩ policy ownerText = .ok row →
        (row.publicStatementIds.length = policy.statements.countP (fun s => s.IsPublic) ↔
          policy.PublicApart) ∧
        (policy.PublicApart → ∀ name ∈ row.publicStatementIds,
          ∃! i, ∃ s : Statement, policy.statements[i]? = some s ∧ s.IsPublic ∧ name = s.id i) := by
  constructor
  · intro i j s t _ _ hij
    exact ⟨Statement.id_eq_id_iff hij, fun hs ht => hs.id_ne_id ht hij⟩
  · intro ownerText row hok
    obtain ⟨hascends, owner, -, hrow⟩ := evaluatePolicy_reported hok
    exact ⟨Policy.length_publicStatementIds_iff hrow hascends,
      fun hapart _ hname => hapart.existsUnique hrow hname⟩

/-- Two public statements have no name and a third bears the position of the first, so that two ids
are reported; under another name it is told apart from the first. -/
theorem statementIds_collide_iff_of_positions :
    let unnamed : Statement := { effectText := some "Allow", principal := some .any }
    let posing : Statement :=
      { sid := some "Statement[1]", effectText := some "Allow", notAction := some ⟨[]⟩ }
    let named : Statement := { posing with sid := some "Statement[01]" }
    let row : Evaluation := {
      principals := ["*"]
      accountIds := ["*"]
      isPublic := true
      publicStatementIds := ["Statement[1]", "Statement[3]"] }
    let apartRow : Evaluation :=
      { row with publicStatementIds := ["Statement[01]", "Statement[1]"] }
    let policy : Policy := { statements := [unnamed, posing, unnamed] }
    let apart : Policy := { statements := [unnamed, named] }
    Evaluator.evaluatePolicy ⟨.conditionAware⟩ policy "012345678901" = .ok row ∧
      Evaluator.evaluatePolicy ⟨.conditionAware⟩ apart "012345678901" = .ok apartRow ∧
      unnamed.Collides 0 posing 1 ∧ unnamed.id 0 = posing.id 1 ∧ unnamed.Unnamed ∧
      unnamed.id 0 ≠ unnamed.id 2 ∧
      row.publicStatementIds.length ≠ policy.statements.countP (fun s => s.IsPublic) ∧
      ¬ policy.PublicApart ∧ apart.PublicApart ∧
      ∃! i, ∃ s : Statement,
        apart.statements[i]? = some s ∧ s.IsPublic ∧ "Statement[1]" = s.id i := by
  intro unnamed posing named row apartRow policy apart
  have hok : Evaluator.evaluatePolicy ⟨.conditionAware⟩ policy "012345678901" = .ok row := by
    decide +kernel
  have hapartOk : Evaluator.evaluatePolicy ⟨.conditionAware⟩ apart "012345678901" =
      .ok apartRow := by decide +kernel
  obtain ⟨hids, hrows⟩ := statementIds_collide_iff policy
  obtain ⟨hcount, -⟩ := hrows _ _ hok
  obtain ⟨hapartCount, hunique⟩ := (statementIds_collide_iff apart).2 _ _ hapartOk
  have hunnamed : unnamed.Unnamed := Or.inl rfl
  have hcollides : unnamed.Collides 0 posing 1 := .first hunnamed (by decide)
  have hhides : row.publicStatementIds.length ≠ policy.statements.countP fun s => s.IsPublic := by
    decide
  have hapart : apart.PublicApart := hapartCount.mp (by decide)
  refine ⟨hok, hapartOk, hcollides, ?_, hunnamed, ?_, hhides, mt hcount.mpr hhides, hapart, ?_⟩
  · exact (hids 0 1 unnamed posing rfl rfl (by decide)).1.mpr hcollides
  · exact (hids 0 2 unnamed unnamed rfl rfl (by decide)).2 hunnamed hunnamed
  · exact hunique hapart _ (by decide)

end Evaluator

end ResourcePolicy
