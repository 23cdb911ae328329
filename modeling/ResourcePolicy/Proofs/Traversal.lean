import Mathlib.Data.List.Forall2

/-!
# Traversals that stop at the first error

A list whose members may each fail is gone through in order. The traversal succeeds exactly when
every member does, with their results in the same order, and otherwise it fails with the error of
the first member that has one. Lists whose members are alike pair by pair have the same outcome,
and the same error if they are alike as far as that.
-/

namespace ResourcePolicy

variable {α β ε : Type}

/-- After a step that succeeds the next one is taken. -/
theorem ok_bind (a : α) (next : α → Except ε β) : (Except.ok a >>= next) = next a := rfl

/-- The result of a step that succeeds is changed. -/
theorem map_ok (g : α → β) (a : α) : (g <$> Except.ok a : Except ε β) = .ok (g a) := rfl

/-- Two steps succeed together exactly when both do. -/
theorem bind_eq_ok_iff {x : Except ε α} {next : α → Except ε β} {b : β} :
    x >>= next = .ok b ↔ ∃ a, x = .ok a ∧ next a = .ok b := by
  cases x with
  | error e =>
    change Except.error e = Except.ok b ↔ _
    simp
  | ok a =>
    change next a = .ok b ↔ _
    simp

/-- Two steps fail together exactly when the first does, or the second after it. -/
theorem bind_eq_error_iff {x : Except ε α} {next : α → Except ε β} {e : ε} :
    x >>= next = .error e ↔ x = .error e ∨ ∃ a, x = .ok a ∧ next a = .error e := by
  cases x with
  | error e' =>
    change Except.error e' = Except.error e ↔ _
    simp
  | ok a =>
    change next a = .error e ↔ _
    simp

/-- Changing the result of a step changes nothing about its success. -/
theorem map_eq_ok_iff {x : Except ε α} {g : α → β} {b : β} :
    g <$> x = .ok b ↔ ∃ a, x = .ok a ∧ g a = b := by
  cases x with
  | error e =>
    change Except.error e = Except.ok b ↔ _
    simp
  | ok a =>
    change Except.ok (g a) = Except.ok b ↔ _
    simp

/-- Changing the result of a step keeps its errors. -/
theorem map_eq_error_iff {x : Except ε α} {g : α → β} {e : ε} :
    g <$> x = .error e ↔ x = .error e := by
  cases x with
  | error e' =>
    change Except.error e' = Except.error e ↔ _
    simp
  | ok a =>
    change Except.ok (g a) = Except.error e ↔ _
    simp

/-- A step has an answer iff it has no error. -/
theorem exists_ok_iff {x : Except ε α} : (∃ a, x = .ok a) ↔ ∀ e, x ≠ .error e := by
  cases x <;> simp

section SameOutcome

variable {related : α → β → Prop}

/-- Both answers are results, related ones, or both are the same error. -/
inductive SameOutcome (related : α → β → Prop) : Except ε α → Except ε β → Prop where
  | ok {a : α} {b : β} (hrelated : related a b) : SameOutcome related (.ok a) (.ok b)
  | error (e : ε) : SameOutcome related (.error e) (.error e)

/-- Answers with the same errors and related results have the same outcome. -/
theorem sameOutcome_of_error_iff {x : Except ε α} {y : Except ε β}
    (herror : ∀ e, x = .error e ↔ y = .error e)
    (hok : ∀ a b, x = .ok a → y = .ok b → related a b) : SameOutcome related x y := by
  cases x with
  | error e =>
    rw [(herror e).mp rfl]
    exact .error e
  | ok a =>
    cases y with
    | error e => cases (herror e).mpr rfl
    | ok b => exact .ok (hok a b rfl rfl)

/-- Steps with the same outcome, followed by steps that have the same outcome after related results,
have the same outcome together. -/
theorem SameOutcome.bind {γ δ : Type} {after : γ → δ → Prop} {x : Except ε α} {y : Except ε β}
    {next : α → Except ε γ} {otherNext : β → Except ε δ} (hfirst : SameOutcome related x y)
    (hnext : ∀ a b, related a b → SameOutcome after (next a) (otherNext b)) :
    SameOutcome after (x >>= next) (y >>= otherNext) := by
  cases hfirst with
  | error e => exact .error e
  | ok hrelated => exact hnext _ _ hrelated

end SameOutcome

section FirstError

variable {hasError : α → ε → Prop}

/-- The first member of the list that has an error has the error `e`. -/
def FirstError (hasError : α → ε → Prop) (xs : List α) (e : ε) : Prop :=
  ∃ front x back, xs = front ++ x :: back ∧ (∀ y ∈ front, ∀ e', ¬ hasError y e') ∧ hasError x e

/-- The first error is that of the first member, or else that of the rest. -/
theorem firstError_cons {x : α} {xs : List α} {e : ε} :
    FirstError hasError (x :: xs) e ↔
      hasError x e ∨ (∀ e', ¬ hasError x e') ∧ FirstError hasError xs e := by
  constructor
  · rintro ⟨front, y, back, hxs, hfront, hy⟩
    cases front with
    | nil =>
      obtain ⟨rfl, -⟩ := List.cons.inj hxs
      exact Or.inl hy
    | cons z front =>
      obtain ⟨rfl, hrest⟩ := List.cons.inj hxs
      have hz := hfront x List.mem_cons_self
      exact Or.inr ⟨hz, front, y, back, hrest, fun w hw => hfront w (List.mem_cons_of_mem _ hw), hy⟩
  · rintro (hx | ⟨hx, front, y, back, rfl, hfront, hy⟩)
    · exact ⟨[], x, xs, rfl, fun _ hmem => absurd hmem List.not_mem_nil, hx⟩
    · refine ⟨x :: front, y, back, rfl, fun w hw => ?_, hy⟩
      rcases List.mem_cons.mp hw with rfl | hw
      · exact hx
      · exact hfront w hw

/-- A list without members has no first error. -/
theorem not_firstError_nil {e : ε} : ¬ FirstError hasError ([] : List α) e := by
  rintro ⟨front, x, back, hxs, -⟩
  cases front <;> cases hxs

/-- There is no first error iff no member has an error. -/
theorem forall_not_firstError_iff {xs : List α} :
    (∀ e, ¬ FirstError hasError xs e) ↔ ∀ x ∈ xs, ∀ e, ¬ hasError x e := by
  induction xs with
  | nil => exact ⟨fun _ _ hx => absurd hx List.not_mem_nil, fun _ _ => not_firstError_nil⟩
  | cons x xs ih =>
    simp only [firstError_cons, List.forall_mem_cons, not_or, not_and]
    constructor
    · intro h
      have hx : ∀ e, ¬ hasError x e := fun e => (h e).1
      exact ⟨hx, ih.mp fun e => (h e).2 hx⟩
    · rintro ⟨hx, hxs⟩ e
      exact ⟨hx e, fun _ => ih.mpr hxs e⟩

/-- The first error of two lists in a row is that of the first list, or else that of the
second. -/
theorem firstError_append {xs ys : List α} {e : ε} :
    FirstError hasError (xs ++ ys) e ↔
      FirstError hasError xs e ∨
        (∀ e', ¬ FirstError hasError xs e') ∧ FirstError hasError ys e := by
  induction xs with
  | nil =>
    have hnone : ∀ e', ¬ FirstError hasError ([] : List α) e' := fun _ => not_firstError_nil
    rw [List.nil_append, or_iff_right (hnone e), and_iff_right hnone]
  | cons x xs ih =>
    rw [List.cons_append, firstError_cons, ih, firstError_cons, or_assoc]
    refine or_congr_right ?_
    simp only [firstError_cons, not_or, not_and, forall_and]
    constructor
    · rintro ⟨hx, hxs | ⟨hnone, hys⟩⟩
      · exact Or.inl ⟨hx, hxs⟩
      · exact Or.inr ⟨⟨hx, fun e' _ => hnone e'⟩, hys⟩
    · rintro (⟨hx, hxs⟩ | ⟨⟨hx, hnone⟩, hys⟩)
      · exact ⟨hx, Or.inl hxs⟩
      · exact ⟨hx, Or.inr ⟨fun e' => hnone e' hx, hys⟩⟩

/-- The first error of a single member is its own. -/
theorem firstError_singleton {x : α} {e : ε} : FirstError hasError [x] e ↔ hasError x e := by
  rw [firstError_cons, or_iff_left]
  exact fun h => not_firstError_nil h.2

/-- A member may be replaced by members whose first error is its own. -/
theorem firstError_replace {x : α} {replacement before after : List α} {e : ε}
    (hsame : ∀ e, hasError x e ↔ FirstError hasError replacement e) :
    FirstError hasError (before ++ x :: after) e ↔
      FirstError hasError (before ++ (replacement ++ after)) e := by
  simp only [firstError_append, firstError_cons, hsame]

/-- Lists whose members have the same errors pair by pair have the same first error. -/
theorem firstError_of_forall₂ {other : β → ε → Prop} {xs : List α} {ys : List β} {e : ε}
    (hsame : List.Forall₂ (fun x y => ∀ e, hasError x e ↔ other y e) xs ys) :
    FirstError hasError xs e ↔ FirstError other ys e := by
  induction hsame with
  | nil => simp only [not_firstError_nil]
  | cons hhead _ ih => simp only [firstError_cons, hhead, ih]

/-- The first error depends only on which errors the members have. -/
theorem firstError_congr {other : α → ε → Prop} {xs : List α} {e : ε}
    (hsame : ∀ x ∈ xs, ∀ e, hasError x e ↔ other x e) :
    FirstError hasError xs e ↔ FirstError other xs e :=
  firstError_of_forall₂ (List.forall₂_same.mpr hsame)

/-- The first error of changed members is that of the members, if the change keeps their errors. -/
theorem firstError_map {other : β → ε → Prop} {change : α → β} {xs : List α} {e : ε}
    (hsame : ∀ x ∈ xs, ∀ e, hasError x e ↔ other (change x) e) :
    FirstError hasError xs e ↔ FirstError other (xs.map change) e :=
  firstError_of_forall₂ (List.forall₂_map_right_iff.mpr (List.forall₂_same.mpr hsame))

/-- The members of two lists are alike pair by pair as far as the first error. -/
inductive AlikeToError (hasError : α → ε → Prop) (alike : α → β → Prop) :
    List α → List β → Prop where
  | nil : AlikeToError hasError alike [] []
  | cons {x : α} {y : β} {xs : List α} {ys : List β} (hhead : alike x y)
    (htail : (∀ e, ¬ hasError x e) → AlikeToError hasError alike xs ys) :
    AlikeToError hasError alike (x :: xs) (y :: ys)

namespace AlikeToError

variable {alike : α → β → Prop} {x : α} {y : β} {xs : List α} {ys : List β}

/-- What follows a member that has an error may be anything. -/
theorem stop (hhead : alike x y) (herror : ∃ e, hasError x e) (xs : List α) (ys : List β) :
    AlikeToError hasError alike (x :: xs) (y :: ys) :=
  .cons hhead fun hnone => absurd herror (not_exists.mpr hnone)

/-- A list is like itself if every member is. -/
theorem refl {alike : α → α → Prop} (hself : ∀ x, alike x x) (xs : List α) :
    AlikeToError hasError alike xs xs := by
  induction xs with
  | nil => exact .nil
  | cons x xs ih => exact .cons (hself x) fun _ => ih

/-- Lists that are alike as far as the first error have the same first error. -/
theorem firstError_iff {other : β → ε → Prop} {e : ε} (hlists : AlikeToError hasError alike xs ys)
    (hsame : ∀ x y, alike x y → ∀ e, hasError x e ↔ other y e) :
    FirstError hasError xs e ↔ FirstError other ys e := by
  induction hlists with
  | nil => simp only [not_firstError_nil]
  | @cons x y xs ys hhead _ ih =>
    have hhead := hsame x y hhead
    simp only [firstError_cons, ← hhead]
    exact or_congr_right (and_congr_right ih)

end AlikeToError

end FirstError

/-- A member may be replaced by members of which one has the property iff it has. -/
theorem exists_mem_replace {P : α → Prop} {x : α} {replacement before after : List α}
    (hsame : P x ↔ ∃ y ∈ replacement, P y) :
    (∃ y ∈ before ++ x :: after, P y) ↔ ∃ y ∈ before ++ (replacement ++ after), P y := by
  simp only [List.mem_append, List.mem_cons, or_and_right, exists_or, exists_eq_left, hsame]

/-- Of lists that agree on some property pair by pair, one has a member with it iff the other
has. -/
theorem exists_mem_iff_of_forall₂ {P : α → Prop} {Q : β → Prop} {xs : List α} {ys : List β}
    (hsame : List.Forall₂ (fun x y => P x ↔ Q y) xs ys) : (∃ x ∈ xs, P x) ↔ ∃ y ∈ ys, Q y := by
  induction hsame with
  | nil => simp only [List.not_mem_nil, false_and, exists_false]
  | cons hhead _ ih => simp only [List.mem_cons, exists_eq_or_imp, hhead, ih]

/-- A list with one member changed is related to the list pair by pair, if a member is related to
itself and to what it is changed to. -/
theorem forall₂_modify {related : α → α → Prop} {change : α → α} (hself : ∀ x, related x x)
    (hchange : ∀ x, related x (change x)) (xs : List α) (index : Nat) :
    List.Forall₂ related xs (xs.modify index change) := by
  induction xs generalizing index with
  | nil =>
    rw [List.modify_nil]
    exact .nil
  | cons x xs ih =>
    cases index with
    | zero =>
      rw [List.modify_zero_cons]
      exact .cons (hchange x) (List.forall₂_same.mpr fun y _ => hself y)
    | succ index =>
      rw [List.modify_succ_cons]
      exact .cons (hself x) (ih index)

variable {f : α → Except ε β}

/-- A traversal succeeds with the results of the members, in their order. -/
theorem mapM_eq_ok_iff {xs : List α} {ys : List β} :
    xs.mapM f = .ok ys ↔ xs.map f = ys.map .ok := by
  induction xs generalizing ys with
  | nil =>
    change Except.ok [] = Except.ok ys ↔ _
    cases ys <;> simp
  | cons x xs ih =>
    rw [List.mapM_cons, bind_eq_ok_iff]
    constructor
    · rintro ⟨y, hy, hrest⟩
      obtain ⟨rest, htail, hys⟩ := bind_eq_ok_iff.mp hrest
      cases hys
      rw [List.map_cons, List.map_cons, hy, ih.mp htail]
    · intro h
      cases ys with
      | nil => cases h
      | cons y ys =>
        obtain ⟨hy, htail⟩ := List.cons.inj h
        exact ⟨y, hy, bind_eq_ok_iff.mpr ⟨ys, ih.mpr htail, rfl⟩⟩

/-- Going through two lists whose members have the same outcomes pair by pair has the same
outcome. -/
theorem mapM_sameOutcome {γ δ : Type} {alike : α → γ → Prop} {related : β → δ → Prop}
    {g : γ → Except ε δ} {xs : List α} {zs : List γ} (hlists : List.Forall₂ alike xs zs)
    (hstep : ∀ x z, alike x z → SameOutcome related (f x) (g z)) :
    SameOutcome (List.Forall₂ related) (xs.mapM f) (zs.mapM g) := by
  induction hlists with
  | nil => exact .ok .nil
  | @cons x z xs zs hhead _ ih =>
    rw [List.mapM_cons, List.mapM_cons]
    refine (hstep x z hhead).bind fun y w hresult => ?_
    refine ih.bind fun ys ws hresults => ?_
    exact .ok (.cons hresult hresults)

/-- If a change of a member changes only the result of the step, then going through the changed
members is going through the members and changing the results. -/
theorem mapM_map_eq {γ δ : Type} {next : γ → Except ε δ} {change : α → γ} {result : β → δ}
    (hstep : ∀ x, next (change x) = result <$> f x) (xs : List α) :
    (xs.map change).mapM next = List.map result <$> xs.mapM f := by
  induction xs with
  | nil => rfl
  | cons x xs ih =>
    rw [List.map_cons, List.mapM_cons, List.mapM_cons, hstep, ih]
    cases f x with
    | error e => rfl
    | ok y => cases xs.mapM f <;> rfl

/-- The result at an index is the result of the member at that index. -/
theorem getElem?_of_mapM {xs : List α} {ys : List β} (hok : xs.mapM f = .ok ys) {i : Nat} {y : β} :
    ys[i]? = some y ↔ ∃ x, xs[i]? = some x ∧ f x = .ok y := by
  have hget : (xs.map f)[i]? = (ys.map Except.ok)[i]? := by rw [mapM_eq_ok_iff.mp hok]
  rw [List.getElem?_map, List.getElem?_map] at hget
  cases hx : xs[i]? with
  | none =>
    rw [hx, Option.map_none, eq_comm, Option.map_eq_none_iff] at hget
    simp [hget]
  | some x =>
    rw [hx, Option.map_some, eq_comm, Option.map_eq_some_iff] at hget
    obtain ⟨z, hz, hfx⟩ := hget
    simp [hz, ← hfx]

/-- In a traversal that succeeds every member has a result. -/
theorem exists_ok_of_mapM {xs : List α} {ys : List β} (hok : xs.mapM f = .ok ys) {x : α}
    (hx : x ∈ xs) : ∃ y, f x = .ok y := by
  have hmem : f x ∈ ys.map Except.ok := mapM_eq_ok_iff.mp hok ▸ List.mem_map_of_mem hx
  obtain ⟨y, -, hy⟩ := List.mem_map.mp hmem
  exact ⟨y, hy.symm⟩

/-- The results are those of the members. -/
theorem mem_of_mapM {xs : List α} {ys : List β} (hok : xs.mapM f = .ok ys) {y : β} :
    y ∈ ys ↔ ∃ x ∈ xs, f x = .ok y := by
  constructor
  · intro hy
    obtain ⟨i, hi⟩ := List.mem_iff_getElem?.mp hy
    obtain ⟨x, hx, hfx⟩ := (getElem?_of_mapM hok).mp hi
    exact ⟨x, List.mem_of_getElem? hx, hfx⟩
  · rintro ⟨x, hx, hfx⟩
    obtain ⟨i, hi⟩ := List.mem_iff_getElem?.mp hx
    exact List.mem_of_getElem? ((getElem?_of_mapM hok).mpr ⟨x, hi, hfx⟩)

/-- A traversal fails with the error of the first member that has one. -/
theorem mapM_eq_error_iff {xs : List α} {e : ε} :
    xs.mapM f = .error e ↔ FirstError (fun x e => f x = .error e) xs e := by
  induction xs with
  | nil =>
    refine iff_of_false (fun h => ?_) not_firstError_nil
    cases h
  | cons x xs ih =>
    rw [List.mapM_cons, bind_eq_error_iff, firstError_cons]
    refine or_congr_right ?_
    rw [← ih]
    constructor
    · rintro ⟨y, hy, hrest⟩
      refine ⟨exists_ok_iff.mp ⟨y, hy⟩, ?_⟩
      rcases bind_eq_error_iff.mp hrest with htail | ⟨_, _, hlast⟩
      · exact htail
      · cases hlast
    · rintro ⟨hx, htail⟩
      obtain ⟨y, hy⟩ := exists_ok_iff.mpr hx
      exact ⟨y, hy, bind_eq_error_iff.mpr (Or.inl htail)⟩

/-- A traversal succeeds iff every member does. -/
theorem exists_mapM_eq_ok_iff {xs : List α} :
    (∃ ys, xs.mapM f = .ok ys) ↔ ∀ x ∈ xs, ∃ y, f x = .ok y := by
  have herror : (∀ e, xs.mapM f ≠ .error e) ↔
      ∀ e, ¬ FirstError (fun x e => f x = .error e) xs e :=
    forall_congr' fun e => not_congr mapM_eq_error_iff
  rw [exists_ok_iff, herror, forall_not_firstError_iff]
  exact forall_congr' fun x => imp_congr_right fun _ => exists_ok_iff.symm

end ResourcePolicy
