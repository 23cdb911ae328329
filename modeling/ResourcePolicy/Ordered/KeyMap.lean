import ResourcePolicy.Ordered.Insertion

/-!
# Finite maps with text keys

A map is stored as its entries in strictly ascending key order, so listing it visits the keys
in code point order, and two maps are equal exactly when every key has the same value in both.
-/

namespace ResourcePolicy

/-- A finite map from texts, as its entries in ascending key order. -/
structure KeyMap (β : Type) where
  toList : List (String × β)
  ascending : Ascending Prod.fst toList
deriving DecidableEq

namespace KeyMap

variable {β γ ε : Type}

/-- The map without entries. -/
def empty : KeyMap β := ⟨[], List.Pairwise.nil⟩

instance : EmptyCollection (KeyMap β) := ⟨empty⟩
instance : Inhabited (KeyMap β) := ⟨empty⟩

/-- The map with the given value at the key, in the place of any older value. -/
def insert (map : KeyMap β) (key : String) (value : β) : KeyMap β :=
  ⟨insertAscending Prod.fst (key, value) map.toList,
    map.ascending.insertAscending (key, value)⟩

/-- The map of a list of entries, in which the last entry of a key counts. -/
def ofList (entries : List (String × β)) : KeyMap β :=
  entries.foldl (fun map entry => map.insert entry.1 entry.2) ∅

/-- The value at a key, if there is one. -/
def get? (map : KeyMap β) (key : String) : Option β := map.toList.lookup key

/-- The keys, in ascending order. -/
def keys (map : KeyMap β) : List String := map.toList.map Prod.fst

/-- Whether the map has no entry. -/
def isEmpty (map : KeyMap β) : Bool := map.toList.isEmpty

/-- Applies a function that may fail to every value, in ascending key order; the first failure
is the answer. -/
def mapM (f : β → Except ε γ) (map : KeyMap β) : Except ε (KeyMap γ) :=
  return ofList (← map.toList.mapM fun entry => return (entry.1, ← f entry.2))

private theorem lookup_insertAscending {key wanted : String} {value : β}
    {entries : List (String × β)} :
    (insertAscending Prod.fst (key, value) entries).lookup wanted =
      if wanted = key then some value else entries.lookup wanted := by
  induction entries with
  | nil => grind [insertAscending]
  | cons entry rest ih => grind [insertAscending]

@[simp] theorem get?_empty (wanted : String) : (∅ : KeyMap β).get? wanted = none := rfl

/-- Inserting at a key changes the value there and nowhere else. -/
@[simp] theorem get?_insert (map : KeyMap β) (key wanted : String) (value : β) :
    (map.insert key value).get? wanted = if wanted = key then some value else map.get? wanted :=
  lookup_insertAscending

/-- In a map made from a list the last entry of a key counts. -/
theorem get?_ofList (entries : List (String × β)) (wanted : String) :
    (ofList entries).get? wanted = entries.reverse.lookup wanted := by
  suffices h : ∀ (entries : List (String × β)) (built : KeyMap β),
      (entries.foldl (fun map entry => map.insert entry.1 entry.2) built).get? wanted =
        (entries.reverse.lookup wanted).or (built.get? wanted) by
    rw [ofList, h, get?_empty, Option.or_none]
  intro entries
  induction entries with
  | nil => intro built; rfl
  | cons entry rest ih =>
    intro built
    rw [List.foldl_cons, ih, get?_insert, List.reverse_cons, List.lookup_append]
    grind

/-- The entries of a map are its keys with their values. -/
theorem mem_toList_iff {map : KeyMap β} {key : String} {value : β} :
    (key, value) ∈ map.toList ↔ map.get? key = some value := by
  obtain ⟨entries, hentries⟩ := map
  show _ ↔ entries.lookup key = some value
  induction entries with
  | nil => simp
  | cons entry rest ih =>
    obtain ⟨other, found⟩ := entry
    obtain ⟨hother, hrest⟩ := List.pairwise_cons.mp hentries
    rw [List.mem_cons, ih hrest, List.lookup_cons]
    cases heq : key == other with
    | true =>
      have heq : key = other := eq_of_beq heq
      subst heq
      have habsent : rest.lookup key ≠ some value := fun h =>
        absurd (hother _ ((ih hrest).mpr h)) Std.lt_irrefl
      simp [habsent, eq_comm]
    | false => simp [ne_of_beq_false heq]

/-- Maps with the same values are equal. -/
@[ext] theorem ext {left right : KeyMap β} (hget : ∀ key, left.get? key = right.get? key) :
    left = right := by
  have hmem : ∀ entry, entry ∈ left.toList ↔ entry ∈ right.toList := fun (key, value) => by
    rw [mem_toList_iff, mem_toList_iff, hget]
  cases left with
  | mk xs hxs =>
    cases right with
    | mk ys hys => congr 1; exact hxs.eq_of_mem_iff hys hmem

/-- A map made from a list has the entries of the list, put in order one after the other. -/
theorem toList_ofList (entries : List (String × β)) :
    (ofList entries).toList =
      entries.foldl (fun list entry => insertAscending Prod.fst entry list) [] := by
  suffices h : ∀ (entries : List (String × β)) (built : KeyMap β),
      (entries.foldl (fun map entry => map.insert entry.1 entry.2) built).toList =
        entries.foldl (fun list entry => insertAscending Prod.fst entry list) built.toList by
    exact h entries ∅
  intro entries
  induction entries with
  | nil => intro built; rfl
  | cons entry rest ih => intro built; rw [List.foldl_cons, List.foldl_cons, ih]; rfl

/-- Making a map from its own entries gives it back. -/
theorem ofList_toList (map : KeyMap β) : ofList map.toList = map := by
  have hlist : (ofList map.toList).toList = map.toList := by
    rw [toList_ofList]
    exact foldl_insertAscending map.ascending
  generalize ofList map.toList = other at hlist
  cases other
  cases map
  cases hlist
  rfl

end KeyMap

end ResourcePolicy
