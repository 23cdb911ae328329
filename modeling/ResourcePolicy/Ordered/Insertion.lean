/-!
# Lists in ascending key order

A list whose entries carry a text key is kept in strictly ascending order of that key,
code point by code point, so that each key occurs once. Inserting an entry keeps the order
and replaces the entry of the same key.
-/

namespace ResourcePolicy

variable {α : Type} {key : α → String}

/-- The keys of the list ascend strictly, hence each occurs once. -/
def Ascending (key : α → String) (entries : List α) : Prop :=
  entries.Pairwise fun x y => key x < key y

instance (key : α → String) (entries : List α) : Decidable (Ascending key entries) :=
  inferInstanceAs (Decidable (entries.Pairwise fun x y => key x < key y))

/-- Puts an entry where its key belongs, in the place of an entry of the same key. -/
def insertAscending (key : α → String) (x : α) : List α → List α
  | [] => [x]
  | y :: rest =>
    if key x < key y then x :: y :: rest
    else if key x = key y then x :: rest
    else y :: insertAscending key x rest

/-- After an insertion the list holds the new entry and what it held before. -/
theorem mem_insertAscending {x z : α} {entries : List α}
    (hmem : z ∈ insertAscending key x entries) : z = x ∨ z ∈ entries := by
  induction entries with
  | nil => simpa [insertAscending] using hmem
  | cons y rest ih =>
    unfold insertAscending at hmem
    split at hmem
    · simpa using hmem
    · split at hmem
      · rcases List.mem_cons.mp hmem with rfl | h
        · exact Or.inl rfl
        · exact Or.inr (List.mem_cons_of_mem _ h)
      · rcases List.mem_cons.mp hmem with rfl | h
        · exact Or.inr List.mem_cons_self
        · exact (ih h).imp_right (List.mem_cons_of_mem _)

/-- Inserting keeps the ascending order. -/
theorem Ascending.insertAscending {entries : List α} (hentries : Ascending key entries) (x : α) :
    Ascending key (insertAscending key x entries) := by
  induction entries with
  | nil => exact List.pairwise_singleton _ _
  | cons y rest ih =>
    obtain ⟨hy, hrest⟩ := List.pairwise_cons.mp hentries
    unfold ResourcePolicy.insertAscending
    split
    · rename_i hlt
      refine List.pairwise_cons.mpr ⟨fun z hz => ?_, hentries⟩
      rcases List.mem_cons.mp hz with rfl | h
      · exact hlt
      · exact Std.lt_trans hlt (hy z h)
    · split
      · rename_i heq
        exact List.pairwise_cons.mpr ⟨fun z hz => heq ▸ hy z hz, hrest⟩
      · rename_i hnot hne
        refine List.pairwise_cons.mpr ⟨fun z hz => ?_, ih hrest⟩
        rcases mem_insertAscending hz with rfl | h
        · exact Std.lt_of_le_of_ne (Std.not_lt.mp hnot) (Ne.symm hne)
        · exact hy z h

/-- An entry above all others goes to the end. -/
theorem insertAscending_of_forall_lt {x : α} {entries : List α}
    (hlt : ∀ y ∈ entries, key y < key x) : insertAscending key x entries = entries ++ [x] := by
  induction entries with
  | nil => rfl
  | cons y rest ih =>
    have hy := hlt y List.mem_cons_self
    have hnot : ¬ key x < key y := fun h => Std.lt_irrefl (Std.lt_trans h hy)
    have hne : key x ≠ key y := fun h => Std.lt_irrefl (h ▸ hy)
    simp [insertAscending, hnot, hne, ih fun z hz => hlt z (List.mem_cons_of_mem _ hz)]

/-- Inserting the entries of an ascending list one by one builds that list. -/
theorem foldl_insertAscending {entries : List α} (hentries : Ascending key entries) :
    entries.foldl (fun built x => insertAscending key x built) [] = entries := by
  suffices h : ∀ (rest built : List α), Ascending key (built ++ rest) →
      rest.foldl (fun built x => insertAscending key x built) built = built ++ rest from
    h entries [] hentries
  intro rest
  induction rest with
  | nil => simp
  | cons x rest ih =>
    intro built hbuilt
    have hlt : ∀ y ∈ built, key y < key x := fun y hy =>
      (List.pairwise_append.mp hbuilt).2.2 y hy x List.mem_cons_self
    rw [List.foldl_cons, insertAscending_of_forall_lt hlt,
      ih (built ++ [x]) (by simpa using hbuilt), List.append_assoc, List.singleton_append]

/-- An ascending list is determined by its members. -/
theorem Ascending.eq_of_mem_iff {xs ys : List α} (hxs : Ascending key xs)
    (hys : Ascending key ys) (hmem : ∀ x, x ∈ xs ↔ x ∈ ys) : xs = ys := by
  induction xs generalizing ys with
  | nil =>
    cases ys with
    | nil => rfl
    | cons y rest => exact absurd ((hmem y).mpr List.mem_cons_self) List.not_mem_nil
  | cons x xs ih =>
    cases ys with
    | nil => exact absurd ((hmem x).mp List.mem_cons_self) List.not_mem_nil
    | cons y ys =>
      obtain ⟨hx, hxs'⟩ := List.pairwise_cons.mp hxs
      obtain ⟨hy, hys'⟩ := List.pairwise_cons.mp hys
      have heq : x = y := by
        rcases List.mem_cons.mp ((hmem x).mp List.mem_cons_self) with h | hxy
        · exact h
        · rcases List.mem_cons.mp ((hmem y).mpr List.mem_cons_self) with h | hyx
          · exact h.symm
          · exact absurd (Std.lt_trans (hy x hxy) (hx y hyx)) Std.lt_irrefl
      subst heq
      congr 1
      refine ih hxs' hys' fun z => ⟨fun h => ?_, fun h => ?_⟩
      · rcases List.mem_cons.mp ((hmem z).mp (List.mem_cons_of_mem _ h)) with rfl | h'
        · exact absurd (hx _ h) Std.lt_irrefl
        · exact h'
      · rcases List.mem_cons.mp ((hmem z).mpr (List.mem_cons_of_mem _ h)) with rfl | h'
        · exact absurd (hy _ h) Std.lt_irrefl
        · exact h'

end ResourcePolicy
