import ResourcePolicy.Ordered.Insertion

/-!
# Finite sets of texts

A set is stored as the strictly ascending list of its members, so two sets are equal exactly
when they have the same members, and listing one gives each member once in code point order.
-/

namespace ResourcePolicy

/-- A finite set of texts, as the ascending list of its members. -/
structure StringSet where
  toList : List String
  ascending : Ascending id toList
deriving DecidableEq

namespace StringSet

/-- The set without members. -/
def empty : StringSet := ⟨[], List.Pairwise.nil⟩

instance : EmptyCollection StringSet := ⟨empty⟩
instance : Inhabited StringSet := ⟨empty⟩

/-- The set with one more member. -/
def insert (members : StringSet) (text : String) : StringSet :=
  ⟨insertAscending id text members.toList, members.ascending.insertAscending text⟩

/-- The members of a list, which may repeat them in any order. -/
def ofList (texts : List String) : StringSet := texts.foldl insert ∅

/-- The members of either set. -/
def union (left right : StringSet) : StringSet := right.toList.foldl insert left

instance : Union StringSet := ⟨union⟩

instance : Membership String StringSet := ⟨fun members text => text ∈ members.toList⟩

instance (text : String) (members : StringSet) : Decidable (text ∈ members) :=
  inferInstanceAs (Decidable (text ∈ members.toList))

/-- Whether the set has no member. -/
def isEmpty (members : StringSet) : Bool := members.toList.isEmpty

theorem mem_iff {text : String} {members : StringSet} :
    text ∈ members ↔ text ∈ members.toList := Iff.rfl

@[simp] theorem not_mem_empty (text : String) : text ∉ (∅ : StringSet) := List.not_mem_nil

private theorem mem_toList_insert {text added : String} {members : List String} :
    text ∈ insertAscending id added members ↔ text = added ∨ text ∈ members := by
  refine ⟨mem_insertAscending, fun h => ?_⟩
  induction members with
  | nil => simpa [insertAscending] using h
  | cons y rest ih => grind [insertAscending]

@[simp] theorem mem_insert {text added : String} {members : StringSet} :
    text ∈ members.insert added ↔ text = added ∨ text ∈ members :=
  mem_toList_insert

private theorem mem_foldl_insert {text : String} {texts : List String} {members : StringSet} :
    text ∈ texts.foldl insert members ↔ text ∈ members ∨ text ∈ texts := by
  induction texts generalizing members with
  | nil => simp
  | cons added rest ih =>
    rw [List.foldl_cons, ih, mem_insert, List.mem_cons]
    grind

/-- A set made from a list has exactly the members of the list. -/
@[simp] theorem mem_ofList {text : String} {texts : List String} :
    text ∈ ofList texts ↔ text ∈ texts := by
  simp [ofList, mem_foldl_insert]

/-- A text is in the union of two sets iff it is in one of them. -/
@[simp] theorem mem_union {text : String} {left right : StringSet} :
    text ∈ left ∪ right ↔ text ∈ left ∨ text ∈ right :=
  mem_foldl_insert

/-- Sets with the same members are equal. -/
@[ext] theorem ext {left right : StringSet} (hmem : ∀ text, text ∈ left ↔ text ∈ right) :
    left = right := by
  cases left with
  | mk xs hxs =>
    cases right with
    | mk ys hys => congr 1; exact hxs.eq_of_mem_iff hys hmem

end StringSet

end ResourcePolicy
