import ResourcePolicy.Ordered.KeyMap
import ResourcePolicy.Proofs.Traversal

/-!
# Changing the values of a map

A function applied to every value of a map keeps the keys, so it acts key by key. A function that
may fail succeeds on a map exactly when it succeeds on every value. Inserting adds a key, and
insertions at different keys may change places. A map made from named values, of which some may be
absent, has at each name the value that is present there.
-/

namespace ResourcePolicy

namespace KeyMap

variable {β γ δ ε : Type}

/-- The keys ascend strictly. -/
theorem ascending_keys (m : KeyMap β) : Ascending id m.keys := List.pairwise_map.mpr m.ascending

/-- A key of the map is one with a value. -/
theorem mem_keys_iff {m : KeyMap β} {key : String} :
    key ∈ m.keys ↔ ∃ value, m.get? key = some value := by
  simp only [keys, List.mem_map, Prod.exists, exists_and_right, exists_eq_right, mem_toList_iff]

/-- A map is empty iff it has no key. -/
theorem isEmpty_iff {m : KeyMap β} : m.isEmpty = true ↔ ∀ key, key ∉ m.keys := by
  rw [← List.eq_nil_iff_forall_not_mem, isEmpty, keys, List.isEmpty_iff, List.map_eq_nil_iff]

section Insert

variable {m : KeyMap β} {key other wanted : String} {value : β}

/-- Inserting at a key adds that key and no other. -/
theorem mem_keys_insert : wanted ∈ (m.insert key value).keys ↔ wanted = key ∨ wanted ∈ m.keys := by
  rw [mem_keys_iff, mem_keys_iff, get?_insert]
  by_cases hkey : wanted = key
  · simp [hkey]
  · simp [hkey]

/-- Of two insertions at one key the later one counts. -/
theorem insert_insert (later : β) :
    (m.insert key value).insert key later = m.insert key later := by
  ext1 wanted
  simp only [get?_insert]
  by_cases hkey : wanted = key
  · rw [if_pos hkey, if_pos hkey]
  · rw [if_neg hkey, if_neg hkey, if_neg hkey]

/-- Insertions at different keys may change places. -/
theorem insert_comm (hne : key ≠ other) (otherValue : β) :
    (m.insert key value).insert other otherValue =
      (m.insert other otherValue).insert key value := by
  ext1 wanted
  simp only [get?_insert]
  by_cases hkey : wanted = key
  · have hother : wanted ≠ other := fun h => hne (hkey.symm.trans h)
    rw [if_pos hkey, if_neg hother, if_pos hkey]
  · rw [if_neg hkey, if_neg hkey]

end Insert

/-- Changing the values keeps the keys in ascending order. -/
theorem ascending_map_snd (g : β → γ) (m : KeyMap β) :
    Ascending Prod.fst (m.toList.map fun entry => (entry.1, g entry.2)) :=
  List.pairwise_map.mpr m.ascending

/-- The map with a function applied to every value. -/
def map (g : β → γ) (m : KeyMap β) : KeyMap γ :=
  ⟨m.toList.map fun entry => (entry.1, g entry.2), ascending_map_snd g m⟩

/-- The entries of the changed map are the changed entries. -/
theorem toList_map (g : β → γ) (m : KeyMap β) :
    (m.map g).toList = m.toList.map fun entry => (entry.1, g entry.2) :=
  rfl

/-- Maps with the same entries are equal. -/
theorem toList_inj {left right : KeyMap β} (hentries : left.toList = right.toList) :
    left = right := by
  cases left
  cases right
  cases hentries
  rfl

/-- Looking up a key in a list whose values were changed gives the changed value. -/
theorem lookup_map_snd (g : β → γ) (entries : List (String × β)) (key : String) :
    (entries.map fun entry => (entry.1, g entry.2)).lookup key = (entries.lookup key).map g := by
  induction entries with
  | nil => rfl
  | cons entry rest ih =>
    rw [List.map_cons, List.lookup_cons, List.lookup_cons, ih]
    cases key == entry.1 <;> rfl

/-- The changed map has at every key the changed value. -/
@[simp] theorem get?_map (g : β → γ) (m : KeyMap β) (key : String) :
    (m.map g).get? key = (m.get? key).map g :=
  lookup_map_snd g m.toList key

/-- Two changes in turn are one change. -/
theorem map_map (g : γ → δ) (f : β → γ) (m : KeyMap β) :
    (m.map f).map g = m.map fun value => g (f value) := by
  ext1 key
  simp only [get?_map, Option.map_map, Function.comp_def]

/-- Changes that agree on the values of a map give the same map. -/
theorem map_congr {g f : β → γ} {m : KeyMap β}
    (hsame : ∀ key value, m.get? key = some value → g value = f value) : m.map g = m.map f := by
  ext1 key
  rw [get?_map, get?_map]
  cases hvalue : m.get? key with
  | none => rfl
  | some value => rw [Option.map_some, Option.map_some, hsame key value hvalue]

/-- A map made from a list has no value at the keys that are not in the list. -/
theorem get?_ofList_eq_none_iff {entries : List (String × β)} {key : String} :
    (ofList entries).get? key = none ↔ key ∉ entries.map Prod.fst := by
  rw [get?_ofList, List.lookup_eq_none_iff]
  constructor
  · intro habsent hkey
    obtain ⟨entry, hentry, rfl⟩ := List.mem_map.mp hkey
    exact bne_iff_ne.mp (habsent entry (List.mem_reverse.mpr hentry)) rfl
  · intro habsent entry hentry
    refine bne_iff_ne.mpr fun hkey => habsent (List.mem_map.mpr ⟨entry, ?_, hkey.symm⟩)
    exact List.mem_reverse.mp hentry

/-- The last entry of a key gives the value there. -/
theorem get?_ofList_of_last {front back : List (String × β)} {key : String} {value : β}
    (hlast : key ∉ back.map Prod.fst) :
    (ofList (front ++ (key, value) :: back)).get? key = some value := by
  have hback := get?_ofList_eq_none_iff.mpr hlast
  rw [get?_ofList] at hback
  rw [get?_ofList, List.reverse_append, List.reverse_cons, List.lookup_append, List.lookup_append,
    hback, List.lookup_cons, beq_self_eq_true]
  rfl

/-- An entry at the end of a list is inserted into the map made from the others. -/
theorem ofList_append_singleton (entries : List (String × β)) (key : String) (value : β) :
    ofList (entries ++ [(key, value)]) = (ofList entries).insert key value := by
  rw [ofList, List.foldl_append]
  rfl

/-- Another value for the last entry of a key is inserted into the map made from the list. -/
theorem ofList_set {front back : List (String × β)} {key : String}
    (hlast : key ∉ back.map Prod.fst) (old value : β) :
    ofList (front ++ (key, value) :: back) =
      (ofList (front ++ (key, old) :: back)).insert key value := by
  ext1 wanted
  rw [get?_insert]
  by_cases hkey : wanted = key
  · rw [if_pos hkey, hkey, get?_ofList_of_last hlast]
  · have hother : (wanted == key) = false := beq_eq_false_iff_ne.mpr hkey
    simp only [get?_ofList, List.reverse_append, List.reverse_cons, List.lookup_append,
      List.lookup_cons, hother, if_neg hkey]

/-- A list of entries with the keys of a map makes a map with just these entries. -/
theorem toList_ofList_of_keys {m : KeyMap β} {entries : List (String × γ)}
    (hkeys : entries.map Prod.fst = m.toList.map Prod.fst) :
    (ofList entries).toList = entries := by
  have hascending : Ascending Prod.fst entries := by
    have h : (entries.map Prod.fst).Pairwise (· < ·) := by
      rw [hkeys]
      exact List.pairwise_map.mpr m.ascending
    exact List.pairwise_map.mp h
  exact congrArg KeyMap.toList (ofList_toList ⟨entries, hascending⟩)

/-- Going through entries, keeping the keys, succeeds with the results at each key. -/
theorem mapM_entries_eq_ok_iff {f : β → Except ε γ} {entries : List (String × β)}
    {results : List (String × γ)} :
    (entries.mapM fun entry => return (entry.1, ← f entry.2)) = .ok results ↔
      (entries.map fun entry => (entry.1, f entry.2)) =
        results.map fun entry => (entry.1, Except.ok entry.2) := by
  induction entries generalizing results with
  | nil =>
    change Except.ok [] = Except.ok results ↔ _
    cases results <;> simp
  | cons entry rest ih =>
    rw [List.mapM_cons, bind_eq_ok_iff]
    constructor
    · rintro ⟨result, hresult, hrest⟩
      obtain ⟨others, hothers, hresults⟩ := bind_eq_ok_iff.mp hrest
      obtain ⟨value, hvalue, hpair⟩ := bind_eq_ok_iff.mp hresult
      cases hresults
      cases hpair
      rw [List.map_cons, List.map_cons, hvalue, ih.mp hothers]
    · intro h
      cases results with
      | nil => cases h
      | cons result others =>
        obtain ⟨hhead, hothers⟩ := List.cons.inj h
        obtain ⟨hkey, hvalue⟩ := Prod.mk.inj hhead
        refine ⟨result, bind_eq_ok_iff.mpr ⟨result.2, hvalue, ?_⟩, ?_⟩
        · exact congrArg (fun key => Except.ok (key, result.2)) hkey
        · exact bind_eq_ok_iff.mpr ⟨others, ih.mpr hothers, rfl⟩

/-- The map without the entry of a key. -/
def erase (m : KeyMap β) (key : String) : KeyMap β :=
  ⟨m.toList.filter fun entry => entry.1 ≠ key, List.Pairwise.filter _ m.ascending⟩

/-- Erasing a key takes away its value and no other. -/
theorem get?_erase_eq_some_iff {m : KeyMap β} {key wanted : String} {value : β} :
    (m.erase key).get? wanted = some value ↔ wanted ≠ key ∧ m.get? wanted = some value := by
  rw [← mem_toList_iff, ← mem_toList_iff, erase, List.mem_filter, decide_eq_true_iff, and_comm]

/-- A function that may fail takes a map to another iff it takes the value at every key to the
value there. -/
theorem mapM_eq_ok_iff {f : β → Except ε γ} {m : KeyMap β} {out : KeyMap γ} :
    m.mapM f = .ok out ↔ m.map f = out.map .ok := by
  constructor
  · intro hok
    obtain ⟨results, hresults, hout⟩ := bind_eq_ok_iff.mp hok
    cases hout
    rw [mapM_entries_eq_ok_iff] at hresults
    have hkeys := congrArg (List.map Prod.fst) hresults
    simp only [List.map_map, Function.comp_def] at hkeys
    apply toList_inj
    rw [toList_map, toList_map, toList_ofList_of_keys hkeys.symm]
    exact hresults
  · intro heq
    have hentries := congrArg KeyMap.toList heq
    refine bind_eq_ok_iff.mpr ⟨out.toList, mapM_entries_eq_ok_iff.mpr hentries, ?_⟩
    exact congrArg Except.ok (ofList_toList out)

/-- The same key by key. -/
theorem mapM_eq_ok_iff_get? {f : β → Except ε γ} {m : KeyMap β} {out : KeyMap γ} :
    m.mapM f = .ok out ↔ ∀ key, (m.get? key).map f = (out.get? key).map .ok := by
  rw [mapM_eq_ok_iff]
  constructor
  · intro hmap key
    rw [← get?_map, ← get?_map, hmap]
  · intro hget
    ext1 key
    rw [get?_map, get?_map, hget]

/-- A function that may fail succeeds on a map iff it succeeds on every value. -/
theorem exists_mapM_iff {f : β → Except ε γ} {m : KeyMap β} :
    (∃ out, m.mapM f = .ok out) ↔
      ∀ key value, m.get? key = some value → ∃ result, f value = .ok result := by
  constructor
  · rintro ⟨out, hout⟩ key value hvalue
    have hkey := mapM_eq_ok_iff_get?.mp hout key
    rw [hvalue, Option.map_some, eq_comm, Option.map_eq_some_iff] at hkey
    obtain ⟨result, -, hresult⟩ := hkey
    exact ⟨result, hresult.symm⟩
  · intro hread
    have hentries : ∃ results,
        (m.toList.mapM fun entry => return (entry.1, ← f entry.2)) = .ok results := by
      refine exists_mapM_eq_ok_iff.mpr fun entry hentry => ?_
      obtain ⟨result, hresult⟩ := hread entry.1 entry.2 (mem_toList_iff.mp hentry)
      exact ⟨(entry.1, result), bind_eq_ok_iff.mpr ⟨result, hresult, rfl⟩⟩
    obtain ⟨results, hresults⟩ := hentries
    exact ⟨ofList results, bind_eq_ok_iff.mpr ⟨results, hresults, rfl⟩⟩

/-- A function that may fail fails on a map with the error at the first key that has one. -/
theorem mapM_eq_error_iff {f : β → Except ε γ} {m : KeyMap β} {error : ε} :
    m.mapM f = .error error ↔
      FirstError (fun entry e => f entry.2 = .error e) m.toList error := by
  have hmap : m.mapM f =
      ofList <$> m.toList.mapM fun entry => return (entry.1, ← f entry.2) := rfl
  rw [hmap, map_eq_error_iff, ResourcePolicy.mapM_eq_error_iff]
  exact firstError_congr fun _ _ _ => map_eq_error_iff

/-- What a function that may fail makes of a map depends on its answers only, key by key. -/
theorem mapM_eq_of_map_eq {f : β → Except ε γ} {left right : KeyMap β}
    (hanswers : left.map f = right.map f) : left.mapM f = right.mapM f := by
  have hentries : ∀ m : KeyMap β, (m.toList.mapM fun entry => return (entry.1, ← f entry.2)) =
      (m.map f).toList.mapM fun entry => return (entry.1, ← entry.2) := by
    intro m
    rw [toList_map, List.mapM_map]
    rfl
  unfold mapM
  rw [hentries, hentries, hanswers]

/-- A new value at a key does not matter to a function that gives the same answer for it. -/
theorem mapM_insert {f : β → Except ε γ} {m : KeyMap β} {key : String} {old value : β}
    (hold : m.get? key = some old) (hanswer : f value = f old) :
    (m.insert key value).mapM f = m.mapM f := by
  apply mapM_eq_of_map_eq
  ext1 wanted
  rw [get?_map, get?_map, get?_insert]
  by_cases hkey : wanted = key
  · rw [if_pos hkey, hkey, hold, Option.map_some, Option.map_some, hanswer]
  · rw [if_neg hkey]

/-- A change that can be read back is read back from the whole map. -/
theorem mapM_map {write : β → γ} {read : γ → Except ε β}
    (hread : ∀ value, read (write value) = .ok value) (m : KeyMap β) :
    (m.map write).mapM read = .ok m := by
  rw [mapM_eq_ok_iff, map_map]
  exact map_congr fun _ value _ => hread value

/-- Those of some named values that are present. -/
def present (entries : List (String × Option β)) : List (String × β) :=
  entries.filterMap fun (name, value?) => value?.map (name, ·)

/-- From the end of the list, a name is found among later entries before the first one. -/
theorem lookup_reverse_present_cons (first : String) (value? : Option β)
    (rest : List (String × Option β)) (name : String) :
    (present ((first, value?) :: rest)).reverse.lookup name =
      ((present rest).reverse.lookup name).or (if name = first then value? else none) := by
  cases value? with
  | none =>
    rw [ite_self, Option.or_none]
    rfl
  | some value =>
    change ((first, value) :: present rest).reverse.lookup name = _
    rw [List.reverse_cons, List.lookup_append, List.lookup_cons, List.lookup_nil]
    by_cases hname : name = first
    · rw [if_pos hname, beq_iff_eq.mpr hname]
    · rw [if_neg hname, beq_eq_false_iff_ne.mpr hname]

/-- The map of those of some named values that are present. -/
def ofPresent (entries : List (String × Option β)) : KeyMap β := ofList (present entries)

/-- Of distinct names each has the value that is present under it. -/
theorem get?_ofPresent {entries : List (String × Option β)}
    (hnames : (entries.map Prod.fst).Nodup) (name : String) :
    (ofPresent entries).get? name = (entries.lookup name).join := by
  rw [ofPresent, get?_ofList]
  induction entries with
  | nil => rfl
  | cons entry rest ih =>
    obtain ⟨first, value?⟩ := entry
    obtain ⟨hfirst, hrest⟩ := List.nodup_cons.mp hnames
    rw [lookup_reverse_present_cons, ih hrest, List.lookup_cons]
    by_cases hname : name = first
    · have habsent : rest.lookup name = none := by
        refine List.lookup_eq_none_iff.mpr fun entry hentry => ?_
        refine bne_iff_ne.mpr fun h => hfirst (List.mem_map.mpr ⟨entry, hentry, ?_⟩)
        rw [← h, hname]
      rw [habsent, if_pos hname, beq_iff_eq.mpr hname]
      rfl
    · rw [if_neg hname, Option.or_none, beq_eq_false_iff_ne.mpr hname]

/-- In a map made from a list with distinct keys every entry counts. -/
theorem get?_ofList_of_nodup {entries : List (String × β)} (hkeys : (entries.map Prod.fst).Nodup)
    (key : String) : (ofList entries).get? key = entries.lookup key := by
  let given := entries.map fun entry => (entry.1, some entry.2)
  have hpresent : present given = entries := by
    unfold present given
    rw [List.filterMap_map]
    exact List.filterMap_some
  have hnames : (given.map Prod.fst).Nodup := by
    rw [List.map_map]
    exact hkeys
  have hget := get?_ofPresent hnames key
  rw [ofPresent, hpresent, lookup_map_snd some] at hget
  rw [hget]
  cases entries.lookup key <;> rfl

/-- Changing the named values changes the map made from them. -/
theorem ofPresent_map {entries : List (String × Option β)}
    (hnames : (entries.map Prod.fst).Nodup) (g : β → γ) :
    ofPresent (entries.map fun entry => (entry.1, entry.2.map g)) = (ofPresent entries).map g := by
  have hchanged : ((entries.map fun entry => (entry.1, entry.2.map g)).map Prod.fst).Nodup := by
    rw [List.map_map]
    exact hnames
  ext1 name
  rw [get?_map, get?_ofPresent hnames, get?_ofPresent hchanged, lookup_map_snd (Option.map g)]
  cases entries.lookup name <;> rfl

end KeyMap

end ResourcePolicy
