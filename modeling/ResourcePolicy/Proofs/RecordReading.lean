import ResourcePolicy.Proofs.Decoding

/-!
# Reading the fields of a record

The fields of a record are read one after the other, each from its own value. The first field
whose value cannot be read decides the error. If each field is stored in a place of its own, then
what is read does not depend on the order of the fields, so a record that is given as an array of
values is what it is with the same values under the names of the fields.
-/

namespace ResourcePolicy

variable {σ α β : Type}

namespace Field

/-- The value of the field is there and cannot be read. -/
def HasError (value? : String → Option Json) (field : Field σ) (error : ShapeError) : Prop :=
  ∃ value, value? field.name = some value ∧ field.read value = .error error

/-- Two fields are stored in different places: in either order they give the same record. -/
def Commutes (field other : Field σ) : Prop :=
  ∀ value otherValue store otherStore, field.read value = .ok store →
    other.read otherValue = .ok otherStore →
      ∀ state, store (otherStore state) = otherStore (store state)

/-- Which of two fields comes first does not matter to their being stored in different places. -/
theorem Commutes.symm {field other : Field σ} (hcommutes : field.Commutes other) :
    other.Commutes field :=
  fun _ _ _ _ hread hother state => (hcommutes _ _ _ _ hother hread state).symm

/-- Fields are stored in different places if storing two values in either order gives the same. -/
@[simp]
theorem commutes_of {name otherName : String} {read : Json → Except ShapeError α}
    {otherRead : Json → Except ShapeError β} {store : α → σ → σ} {otherStore : β → σ → σ}
    (hstores : ∀ x y state, store x (otherStore y state) = otherStore y (store x state)) :
    (Field.of name read store).Commutes (Field.of otherName otherRead otherStore) := by
  intro value otherValue set otherSet hread hother state
  obtain ⟨x, -, rfl⟩ := map_eq_ok_iff.mp hread
  obtain ⟨y, -, rfl⟩ := map_eq_ok_iff.mp hother
  exact hstores x y state

end Field

/-- Inserting an entry with a new key only adds the entry. -/
theorem insertAscending_perm {key : α → String} {x : α} {entries : List α}
    (hnew : ∀ y ∈ entries, key y ≠ key x) :
    (insertAscending key x entries).Perm (x :: entries) := by
  induction entries with
  | nil => rfl
  | cons y rest ih =>
    have hy : key x ≠ key y := (hnew y List.mem_cons_self).symm
    have hrest := ih fun z hz => hnew z (List.mem_cons_of_mem _ hz)
    unfold insertAscending
    rw [if_neg hy]
    split
    · rfl
    · exact (hrest.cons y).trans (.swap x y rest)

/-- Distinct names stay distinct when they are given to some values in turn. -/
theorem nodup_map_fst_zip {names : List String} (hnames : names.Nodup) (values : List α) :
    ((names.zip values).map Prod.fst).Nodup := by
  rw [List.zip_eq_zip_take_min, List.map_fst_zip (by simp)]
  exact (List.take_sublist _ _).nodup hnames

/-- Of names that are given to some values in turn, each has one iff there are enough values. -/
theorem forall_lookup_zip_iff {names : List String} (hnames : names.Nodup) {values : List α} :
    (∀ name ∈ names, (names.zip values).lookup name ≠ none) ↔ names.length ≤ values.length := by
  induction names generalizing values with
  | nil => simp
  | cons first rest ih =>
    obtain ⟨hfirst, hrest⟩ := List.nodup_cons.mp hnames
    cases values with
    | nil =>
      refine iff_of_false (fun hall => ?_) (Nat.not_succ_le_zero _)
      exact hall first List.mem_cons_self rfl
    | cons value values =>
      have hskip : ∀ name ∈ rest,
          ((first, value) :: rest.zip values).lookup name = (rest.zip values).lookup name := by
        intro name hname
        have hne : name ≠ first := fun h => hfirst (h ▸ hname)
        rw [List.lookup_cons, beq_eq_false_iff_ne.mpr hne]
      rw [List.zip_cons_cons, List.forall_mem_cons, List.length_cons, List.length_cons,
        Nat.succ_le_succ_iff, ← ih hrest]
      constructor
      · rintro ⟨-, hothers⟩ name hname
        exact hskip name hname ▸ hothers name hname
      · intro hothers
        refine ⟨?_, fun name hname => hskip name hname ▸ hothers name hname⟩
        rw [List.lookup_cons, beq_self_eq_true]
        exact Option.some_ne_none value

namespace Record

section Fields

variable {fields others : List (Field σ)} {value? : String → Option Json} {state result : σ}

/-- A field has an error iff its member has one. -/
theorem memberOr_eq_error_iff {field : Field σ} {error : ShapeError} :
    Json.memberOr id field.read (value? field.name) = .error error ↔
      field.HasError value? error := by
  unfold Field.HasError
  cases value? field.name with
  | none => exact iff_of_false nofun nofun
  | some value => simp only [Json.memberOr_some, Option.some.injEq, exists_eq_left']

/-- Reading some fields fails with the error of the first that has one. -/
theorem readFields_eq_error_iff {error : ShapeError} :
    readFields fields value? state = .error error ↔
      FirstError (Field.HasError value?) fields error := by
  induction fields generalizing state with
  | nil => exact iff_of_false nofun not_firstError_nil
  | cons field fields ih =>
    rw [readFields_cons_eq_bind, bind_eq_error_iff, firstError_cons, memberOr_eq_error_iff]
    refine or_congr_right ?_
    simp only [ih, exists_and_right, exists_ok_iff, ne_eq, memberOr_eq_error_iff]

/-- Some fields are read iff each of the values that are there is. -/
theorem exists_readFields_iff :
    (∃ result, readFields fields value? state = .ok result) ↔
      ∀ field ∈ fields, ∀ error, ¬ field.HasError value? error := by
  rw [exists_ok_iff, ← forall_not_firstError_iff]
  exact forall_congr' fun error => not_congr readFields_eq_error_iff

/-- What is stored for two fields, if anything, may be stored in either order. -/
theorem stores_comm {field other : Field σ} {store otherStore : σ → σ}
    (hcommutes : field.Commutes other)
    (hstore : Json.memberOr id field.read (value? field.name) = .ok store)
    (hother : Json.memberOr id other.read (value? other.name) = .ok otherStore) (state : σ) :
    store (otherStore state) = otherStore (store state) := by
  cases hvalue : value? field.name with
  | none =>
    rw [hvalue] at hstore
    cases hstore
    rfl
  | some value =>
    cases hotherValue : value? other.name with
    | none =>
      rw [hotherValue] at hother
      cases hother
      rfl
    | some otherValue =>
      rw [hvalue] at hstore
      rw [hotherValue] at hother
      exact hcommutes value otherValue store otherStore hstore hother state

/-- Two fields that are stored in different places may be read in either order. -/
theorem readFields_swap {field other : Field σ} (hcommutes : field.Commutes other) :
    readFields (field :: other :: fields) value? state = .ok result ↔
      readFields (other :: field :: fields) value? state = .ok result := by
  simp only [readFields_cons_eq_bind, bind_eq_ok_iff]
  constructor
  · rintro ⟨store, hstore, otherStore, hother, hrest⟩
    exact ⟨otherStore, hother, store, hstore, stores_comm hcommutes hstore hother state ▸ hrest⟩
  · rintro ⟨otherStore, hother, store, hstore, hrest⟩
    exact ⟨store, hstore, otherStore, hother, stores_comm hcommutes hstore hother state ▸ hrest⟩

/-- Fields that are stored in different places may be read in any order. -/
theorem readFields_perm (hperm : fields.Perm others) (hcommute : fields.Pairwise Field.Commutes) :
    readFields fields value? state = .ok result ↔
      readFields others value? state = .ok result := by
  induction hperm generalizing state with
  | nil => rfl
  | cons field _ ih =>
    simp only [readFields_cons_eq_bind, bind_eq_ok_iff, ih (List.pairwise_cons.mp hcommute).2]
  | swap field other fields =>
    exact readFields_swap ((List.pairwise_cons.mp hcommute).1 field List.mem_cons_self)
  | trans hfirst _ ihfirst ihsecond =>
    exact (ihfirst hcommute).trans (ihsecond (hfirst.pairwise hcommute Field.Commutes.symm))

end Fields

/-- The fields of the record have different names and are stored in different places. -/
structure Independent (record : Record σ) : Prop where
  names : (record.fields.map Field.name).Nodup
  commute : record.fields.Pairwise Field.Commutes

variable {record : Record σ} {members : KeyMap Json} {result : σ}

/-- Sorting the fields by their names keeps all of them. -/
theorem Independent.fieldsByName_perm (hrecord : record.Independent) :
    record.fieldsByName.Perm record.fields := by
  suffices h : ∀ fields sorted : List (Field σ), ((sorted ++ fields).map Field.name).Nodup →
      (fields.foldl (fun sorted field => insertAscending Field.name field sorted) sorted).Perm
        (sorted ++ fields) from
    h record.fields [] hrecord.names
  intro fields
  induction fields with
  | nil =>
    intro sorted _
    rw [List.append_nil]
    rfl
  | cons field fields ih =>
    intro sorted hnames
    have hnew : ∀ other ∈ sorted, other.name ≠ field.name := by
      rw [List.map_append, List.nodup_append] at hnames
      intro other hother
      exact hnames.2.2 _ (List.mem_map_of_mem hother) _ (List.mem_map_of_mem List.mem_cons_self)
    have hinsert := insertAscending_perm hnew
    have hperm : (insertAscending Field.name field sorted ++ fields).Perm
        (sorted ++ field :: fields) :=
      (hinsert.append_right fields).trans List.perm_middle.symm
    exact (ih _ ((hperm.map Field.name).nodup_iff.mpr hnames)).trans hperm

/-- A field is missing only from a record that needs all of them, and then one without a value. -/
theorem missing?_eq_some {field : Field σ} (hmissing : record.missing? members = some field) :
    record.complete = true ∧ field ∈ record.fields ∧ members.get? field.name = none := by
  unfold missing? at hmissing
  split at hmissing
  · rename_i hcomplete
    have habsent := List.find?_some hmissing
    exact ⟨hcomplete, List.mem_of_find?_eq_some hmissing, Option.isNone_iff_eq_none.mp habsent⟩
  · cases hmissing

/-- No field is missing iff all have values or need none. -/
theorem missing?_eq_none_iff :
    record.missing? members = none ↔ record.complete = true →
      ∀ name ∈ record.fields.map Field.name, members.get? name ≠ none := by
  unfold missing?
  split
  · rename_i hcomplete
    simp [hcomplete]
  · rename_i hcomplete
    exact iff_of_true rfl fun h => absurd h hcomplete

/-- A record is read from the members of an object iff its fields are and none is missing. -/
theorem ofMembers_eq_ok_iff :
    record.ofMembers members = .ok result ↔
      readFields record.fieldsByName members.get? record.initial = .ok result ∧
        record.missing? members = none := by
  unfold ofMembers
  cases hmissing : record.missing? members with
  | none =>
    rw [and_iff_left rfl]
    cases readFields record.fieldsByName members.get? record.initial <;> rfl
  | some field =>
    refine iff_of_false (fun hread => ?_) (fun h => nomatch h.2)
    obtain ⟨_, _, hlast⟩ := bind_eq_ok_iff.mp hread
    cases hlast

/-- The fields of an object may be read in order of declaration as well. -/
theorem Independent.ofMembers_eq_ok_iff_readFields (hrecord : record.Independent) :
    record.ofMembers members = .ok result ↔
      readFields record.fields members.get? record.initial = .ok result ∧
        record.missing? members = none := by
  have hcommute := hrecord.commute.perm hrecord.fieldsByName_perm.symm Field.Commutes.symm
  rw [ofMembers_eq_ok_iff, readFields_perm hrecord.fieldsByName_perm hcommute]

/-- A record that needs all its fields is not read from an object that lacks one of them. -/
theorem ofMembers_erase (hcomplete : record.complete = true) {name : String}
    (hname : name ∈ record.fields.map Field.name) (hread : record.ofMembers members = .ok result) :
    record.ofMembers (members.erase name) = .error (.missingField name) := by
  obtain ⟨hfields, hpresent⟩ := ofMembers_eq_ok_iff.mp hread
  have hreadable : ∀ field ∈ record.fieldsByName, ∀ error,
      ¬ field.HasError (members.erase name).get? error := by
    rintro field hfield error ⟨value, hvalue, herror⟩
    have hvalue := (KeyMap.get?_erase_eq_some_iff.mp hvalue).2
    exact exists_readFields_iff.mp ⟨result, hfields⟩ field hfield error ⟨value, hvalue, herror⟩
  obtain ⟨remaining, hremaining⟩ : ∃ remaining,
      readFields record.fieldsByName (members.erase name).get? record.initial = .ok remaining :=
    exists_readFields_iff.mpr hreadable
  have hmissing : record.missing? (members.erase name) ≠ none := by
    intro hnone
    refine missing?_eq_none_iff.mp hnone hcomplete name hname ?_
    exact Option.eq_none_iff_forall_ne_some.mpr fun value hvalue =>
      (KeyMap.get?_erase_eq_some_iff.mp hvalue).1 rfl
  obtain ⟨field, hfield⟩ := Option.ne_none_iff_exists'.mp hmissing
  obtain ⟨-, hmem, habsent⟩ := missing?_eq_some hfield
  have hsame : field.name = name := by
    by_contra hne
    obtain ⟨value, hvalue⟩ := Option.ne_none_iff_exists'.mp
      (missing?_eq_none_iff.mp hpresent hcomplete field.name (List.mem_map_of_mem hmem))
    rw [KeyMap.get?_erase_eq_some_iff.mpr ⟨hne, hvalue⟩] at habsent
    cases habsent
  unfold ofMembers
  rw [hremaining, hfield]
  exact congrArg (fun name => Except.error (ShapeError.missingField name)) hsame

/-- A record is read from an array iff its fields are read from the items in order and there are
neither too many items nor too few. -/
theorem ofItems_eq_ok_iff {items : List Json} :
    record.ofItems items = .ok result ↔
      readFields record.fields
          (fun name => ((record.fields.map Field.name).zip items).lookup name) record.initial =
        .ok result ∧
      items.length ≤ record.fields.length ∧
        (record.complete = true → record.fields.length ≤ items.length) := by
  unfold ofItems
  rw [bind_eq_ok_iff]
  by_cases hmany : record.fields.length < items.length
  · simp only [if_pos hmany, Nat.not_le.mpr hmany, false_and, and_false, iff_false]
    rintro ⟨_, -, hrest⟩
    cases hrest
  · by_cases hfew : record.complete = true ∧ items.length < record.fields.length
    · have hshort : ¬ (record.complete = true → record.fields.length ≤ items.length) :=
        fun h => Nat.not_lt.mpr (h hfew.1) hfew.2
      simp only [if_neg hmany, if_pos hfew, hshort, and_false, iff_false]
      rintro ⟨_, -, hrest⟩
      cases hrest
    · have henough : record.complete = true → record.fields.length ≤ items.length :=
        fun hcomplete => Nat.not_lt.mp fun h => hfew ⟨hcomplete, h⟩
      simp only [if_neg hmany, if_neg hfew]
      constructor
      · rintro ⟨_, hread, hrest⟩
        cases hrest
        exact ⟨hread, Nat.not_lt.mp hmany, henough⟩
      · rintro ⟨hread, -⟩
        exact ⟨result, hread, rfl⟩

/-- A record is read from an array iff there are not too many items and it is read from the object
that has the items under the names of the fields. -/
theorem Independent.ofItems_eq_ok_iff_ofMembers (hrecord : record.Independent)
    {items : List Json} :
    record.ofItems items = .ok result ↔
      items.length ≤ record.fields.length ∧
        record.ofMembers (KeyMap.ofList ((record.fields.map Field.name).zip items)) =
          .ok result := by
  have hlookup : ∀ name,
      (KeyMap.ofList ((record.fields.map Field.name).zip items)).get? name =
        ((record.fields.map Field.name).zip items).lookup name :=
    KeyMap.get?_ofList_of_nodup (nodup_map_fst_zip hrecord.names items)
  have hmissing : record.missing? (KeyMap.ofList ((record.fields.map Field.name).zip items)) =
      none ↔ record.complete = true → record.fields.length ≤ items.length := by
    rw [missing?_eq_none_iff]
    simp only [hlookup]
    rw [forall_lookup_zip_iff hrecord.names, List.length_map]
  rw [ofItems_eq_ok_iff, hrecord.ofMembers_eq_ok_iff_readFields, hmissing, funext hlookup,
    and_left_comm]

end Record

end ResourcePolicy
