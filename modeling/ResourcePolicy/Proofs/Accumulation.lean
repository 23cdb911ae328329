import ResourcePolicy.Proofs.PolicyRow

/-!
# Absorbing grants in a run

A whole absorbs one grant after the other and is then made into a row. The row lists the names of
the whole and of every grant, each kind by itself, and only the whole says whether it is public. So
neither the order of the grants nor repetitions matter, nor whether some of them have absorbed
others before.
-/

namespace ResourcePolicy

namespace StringSet

/-- A set is empty iff no text is in it. -/
theorem isEmpty_iff {members : StringSet} : members.isEmpty = true ↔ ∀ text, text ∉ members :=
  List.isEmpty_iff.trans List.eq_nil_iff_forall_not_mem

/-- A union is empty iff both sets are. -/
@[simp] theorem isEmpty_union (left right : StringSet) :
    (left ∪ right).isEmpty = (left.isEmpty && right.isEmpty) := by
  rw [Bool.eq_iff_iff, Bool.and_eq_true, isEmpty_iff, isEmpty_iff, isEmpty_iff]
  simp only [mem_union, not_or, forall_and]

/-- Lists with the same members make the same set. -/
theorem ofList_eq_of_mem_iff {texts others : List String}
    (hmem : ∀ text, text ∈ texts ↔ text ∈ others) : ofList texts = ofList others := by
  ext1 text
  rw [mem_ofList, mem_ofList, hmem]

end StringSet

namespace Grantees

/-- Nobody is named after a grant has been absorbed iff neither side named anyone. -/
theorem isEmpty_absorb (whole part : Grantees) :
    (whole.absorb part).isEmpty = (whole.isEmpty && part.isEmpty) := by
  simp only [absorb, isEmpty, StringSet.isEmpty_union]
  ac_rfl

/-- Nobody is named after a run of grants iff the whole and all grants name nobody. -/
theorem isEmpty_foldl_absorb {whole : Grantees} {parts : List Grantees} :
    (parts.foldl absorb whole).isEmpty = true ↔
      whole.isEmpty = true ∧ ∀ part ∈ parts, part.isEmpty = true := by
  induction parts generalizing whole with
  | nil => simp
  | cons part parts ih =>
    rw [List.foldl_cons, ih, isEmpty_absorb, Bool.and_eq_true, List.forall_mem_cons, and_assoc]

/-- A grant that names nobody has no name of any kind. -/
theorem not_mem_of_isEmpty {g : Grantees} (hempty : g.isEmpty = true) (x : String) :
    x ∉ g.accounts ∧ x ∉ g.principals ∧ x ∉ g.federated ∧ x ∉ g.services ∧
      x ∉ g.organizations := by
  simp only [isEmpty, Bool.and_eq_true, StringSet.isEmpty_iff] at hempty
  obtain ⟨⟨⟨⟨haccounts, hprincipals⟩, hfederated⟩, hservices⟩, horganizations⟩ := hempty
  exact ⟨haccounts x, hprincipals x, hfederated x, hservices x, horganizations x⟩

/-- A grant, or a batch of grants that has absorbed another batch. -/
inductive Batch where
  | one (part : Grantees)
  | absorbing (whole part : Batch)

namespace Batch

/-- The grants of a batch. -/
def parts : Batch → List Grantees
  | one part => [part]
  | absorbing whole part => whole.parts ++ part.parts

/-- The grant that a batch comes to. -/
def total : Batch → Grantees
  | one part => part
  | absorbing whole part => whole.total.absorb part.total

/-- A batch has the names in each of its grants, for any kind of names that is united by a single
step. -/
theorem mem_total {names : Grantees → StringSet}
    (hnames : ∀ whole part, names (absorb whole part) = names whole ∪ names part)
    {batch : Batch} {x : String} :
    x ∈ names batch.total ↔ ∃ part ∈ batch.parts, x ∈ names part := by
  induction batch with
  | one part => simp only [total, parts, List.mem_singleton, exists_eq_left]
  | absorbing whole part ihwhole ihpart =>
    rw [total, hnames, StringSet.mem_union, ihwhole, ihpart]
    simp only [parts, List.mem_append, or_and_right, exists_or]

end Batch

/-- Absorbing batches adds the names in each of their grants. -/
theorem mem_foldl_absorb_batches {names : Grantees → StringSet}
    (hnames : ∀ whole part, names (absorb whole part) = names whole ∪ names part)
    {whole : Grantees} {batches : List Batch} {x : String} :
    x ∈ names ((batches.map Batch.total).foldl absorb whole) ↔
      x ∈ names whole ∨ ∃ part ∈ batches.flatMap Batch.parts, x ∈ names part := by
  rw [mem_foldl_absorb hnames]
  refine or_congr_right ?_
  simp only [List.mem_map, exists_exists_and_eq_and, Batch.mem_total hnames, List.mem_flatMap]
  constructor
  · rintro ⟨batch, hbatch, part, hpart, hx⟩
    exact ⟨part, ⟨batch, hbatch, hpart⟩, hx⟩
  · rintro ⟨part, ⟨batch, hbatch, hpart⟩, hx⟩
    exact ⟨batch, hbatch, part, hpart, hx⟩

/-- Two runs of batches have the same grants, whatever their order, their repetitions and their
grouping; grants that name nobody may be left out. -/
def SameParts (batches others : List Batch) : Prop :=
  ∀ g : Grantees, g.isEmpty = false →
    (g ∈ batches.flatMap Batch.parts ↔ g ∈ others.flatMap Batch.parts)

/-- Batches with the same grants add the same names. -/
theorem SameParts.names_eq {batches others : List Batch} (hsame : SameParts batches others)
    (names : Grantees → StringSet) (whole : Grantees)
    (hnames : ∀ whole part, names (absorb whole part) = names whole ∪ names part)
    (hempty : ∀ g, g.isEmpty = true → ∀ x, x ∉ names g) :
    names ((batches.map Batch.total).foldl absorb whole) =
      names ((others.map Batch.total).foldl absorb whole) := by
  have hpart : ∀ x g, (g ∈ batches.flatMap Batch.parts ∧ x ∈ names g) ↔
      (g ∈ others.flatMap Batch.parts ∧ x ∈ names g) := by
    refine fun x g => and_congr_left fun hx => hsame g ?_
    exact Bool.eq_false_iff.mpr fun h => hempty g h x hx
  ext1 x
  rw [mem_foldl_absorb_batches hnames, mem_foldl_absorb_batches hnames]
  exact or_congr_right (exists_congr (hpart x))

/-- Every list of the row has the names of its kind in the whole and in each of the parts. -/
structure ListsAll (whole : Grantees) (parts : List Grantees) (row : Evaluation) : Prop where
  accounts : ∀ x, x ∈ row.accountIds ↔ x ∈ whole.accounts ∨ ∃ part ∈ parts, x ∈ part.accounts
  principals : ∀ x,
    x ∈ row.principals ↔ x ∈ whole.principals ∨ ∃ part ∈ parts, x ∈ part.principals
  federated : ∀ x,
    x ∈ row.federatedIdentities ↔ x ∈ whole.federated ∨ ∃ part ∈ parts, x ∈ part.federated
  services : ∀ x, x ∈ row.services ↔ x ∈ whole.services ∨ ∃ part ∈ parts, x ∈ part.services
  organizations : ∀ x,
    x ∈ row.organizationIds ↔ x ∈ whole.organizations ∨ ∃ part ∈ parts, x ∈ part.organizations

/-- The row of a run lists the names of the whole and of its parts. -/
theorem listsAll_foldl_absorb (whole : Grantees) (parts : List Grantees) (ids : List String) :
    ListsAll whole parts ((parts.foldl absorb whole).toEvaluation ids) where
  accounts _ := mem_foldl_absorb fun _ _ => rfl
  principals _ := mem_foldl_absorb fun _ _ => rfl
  federated _ := mem_foldl_absorb fun _ _ => rfl
  services _ := mem_foldl_absorb fun _ _ => rfl
  organizations _ := mem_foldl_absorb fun _ _ => rfl

/-- The row depends only on which grants are absorbed and on which ids are given. -/
theorem SameParts.toEvaluation_eq {batches others : List Batch} (hsame : SameParts batches others)
    (whole : Grantees) {ids otherIds : List String} (hids : ∀ x, x ∈ ids ↔ x ∈ otherIds) :
    ((batches.map Batch.total).foldl absorb whole).toEvaluation ids =
      ((others.map Batch.total).foldl absorb whole).toEvaluation otherIds := by
  have haccounts := hsame.names_eq accounts whole (fun _ _ => rfl)
    fun _ hg x => (not_mem_of_isEmpty hg x).1
  have hprincipals := hsame.names_eq principals whole (fun _ _ => rfl)
    fun _ hg x => (not_mem_of_isEmpty hg x).2.1
  have hfederated := hsame.names_eq federated whole (fun _ _ => rfl)
    fun _ hg x => (not_mem_of_isEmpty hg x).2.2.1
  have hservices := hsame.names_eq services whole (fun _ _ => rfl)
    fun _ hg x => (not_mem_of_isEmpty hg x).2.2.2.1
  have horganizations := hsame.names_eq organizations whole (fun _ _ => rfl)
    fun _ hg x => (not_mem_of_isEmpty hg x).2.2.2.2
  unfold toEvaluation
  rw [haccounts, hprincipals, hfederated, hservices, horganizations, isPublic_foldl_absorb,
    isPublic_foldl_absorb, StringSet.ofList_eq_of_mem_iff hids]

/-- What a run of grants comes to, and that only the grants and the ids themselves matter. -/
theorem toEvaluation_foldl_absorb (whole : Grantees) :
    -- The row of a run lists the names of the whole and of all parts, and the ids, in order and
    -- without repetitions. The parts do not change whether it is public.
    (∀ (parts : List Grantees) (ids : List String),
      let total := parts.foldl absorb whole
      let row := total.toEvaluation ids
      row.Ascends ∧ ListsAll whole parts row ∧ (∀ x, x ∈ row.publicStatementIds ↔ x ∈ ids) ∧
        row.isPublic = whole.isPublic ∧
        (total.isEmpty = true ↔ whole.isEmpty = true ∧ ∀ part ∈ parts, part.isEmpty = true)) ∧
    -- Order, repetitions and grouping of the parts do not matter, nor those of the ids.
    ∀ (batches others : List Batch) (ids otherIds : List String), SameParts batches others →
      (∀ x, x ∈ ids ↔ x ∈ otherIds) →
        ((batches.map Batch.total).foldl absorb whole).toEvaluation ids =
          ((others.map Batch.total).foldl absorb whole).toEvaluation otherIds := by
  refine ⟨fun parts ids => ?_, fun _ _ _ _ hsame hids => hsame.toEvaluation_eq whole hids⟩
  intro total row
  exact ⟨total.toEvaluation_ascends ids, listsAll_foldl_absorb whole parts ids,
    fun _ => StringSet.mem_ofList, isPublic_foldl_absorb, isEmpty_foldl_absorb⟩

/-- Two grants are absorbed apart, in the other order and with one of them twice, or as one that
has absorbed the other, together with one that names nobody. -/
theorem toEvaluation_foldl_absorb_of_two :
    let account : Grantees := { accounts := .ofList ["123456789012"], isPublic := true }
    let service : Grantees := { services := .ofList ["sns.amazonaws.com"] }
    let apart : List Batch := [.one service, .one account, .one service]
    let together : List Batch := [.absorbing (.one account) (.one service), .one .anyone]
    (SameParts apart together ∧ ∀ x, x ∈ ["B", "A", "B"] ↔ x ∈ ["A", "B"]) ∧
      ((apart.map Batch.total).foldl absorb {}).toEvaluation ["B", "A", "B"] =
        ((together.map Batch.total).foldl absorb {}).toEvaluation ["A", "B"] := by
  intro account service apart together
  have hsame : SameParts apart together := by
    intro g hg
    simp only [apart, together, List.flatMap_cons, List.flatMap_nil, Batch.parts, List.append_nil,
      List.cons_append, List.nil_append, List.mem_cons, List.not_mem_nil, or_false]
    have hanyone : g ≠ anyone := by
      rintro rfl
      cases hg
    simp only [hanyone, or_false]
    tauto
  have hids : ∀ x, x ∈ ["B", "A", "B"] ↔ x ∈ ["A", "B"] := by
    intro x
    simp only [List.mem_cons, List.not_mem_nil, or_false]
    tauto
  exact ⟨⟨hsame, hids⟩, (toEvaluation_foldl_absorb {}).2 _ _ _ _ hsame hids⟩

end Grantees

end ResourcePolicy
