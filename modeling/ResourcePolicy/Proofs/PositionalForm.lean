import ResourcePolicy.Evaluation
import ResourcePolicy.Policy
import ResourcePolicy.Proofs.RecordReading

/-!
# Records given by position

A policy, a statement or a row may be given as an array of the values of its fields, in order of
declaration. It is read exactly when the object with these values under the names of the fields is,
and as the same. The last fields of a policy or a statement may be left out, those of a row may
not. In a document only objects count: a policy document is never an array.
-/

namespace ResourcePolicy

/-- The names of the fields of a policy, in order of declaration. -/
def Policy.fieldNames : List String := ["Version", "Id", "Statement"]

/-- The names of the fields of a statement, in order of declaration. -/
def Statement.fieldNames : List String :=
  ["Sid", "Effect", "Principal", "NotPrincipal", "Action", "NotAction", "Resource", "NotResource",
    "Condition"]

/-- The names of the fields of a row, in order of declaration. -/
def Evaluation.fieldNames : List String :=
  ["access_level", "allowed_organization_ids", "allowed_principals",
    "allowed_principal_account_ids", "allowed_principal_federated_identities",
    "allowed_principal_services", "is_public", "public_access_levels", "shared_access_levels",
    "private_access_levels", "public_statement_ids", "shared_statement_ids"]

/-- The fields of a policy have different names and are stored in different places. -/
theorem Policy.record_independent : record.Independent :=
  ⟨by decide, by simp [record]⟩

/-- The fields of a statement have different names and are stored in different places. -/
theorem Statement.record_independent : record.Independent :=
  ⟨by decide, by simp [record]⟩

/-- The fields of a row have different names and are stored in different places. -/
theorem Evaluation.record_independent : record.Independent :=
  ⟨by decide, by simp [record]⟩

/-- A policy is read directly from a document, or from an array of up to three values that is a
document when these stand under the names of the fields. -/
theorem Policy.ofJson_eq_ok_iff {value : Json} {p : Policy} :
    ofJson value = .ok p ↔ ofDocument value = .ok p ∨
      ∃ items, value = .arr items ∧ items.length ≤ 3 ∧
        ofDocument (.obj (fieldNames.zip items)) = .ok p := by
  cases value with
  | arr items =>
    have hitems : ofJson (.arr items) = .ok p ↔ items.length ≤ 3 ∧
        ofDocument (.obj (fieldNames.zip items)) = .ok p :=
      record_independent.ofItems_eq_ok_iff_ofMembers
    have hdocument : ofDocument (.arr items) ≠ .ok p := nofun
    simp only [hitems, hdocument, false_or, Json.arr.injEq, exists_eq_left']
  | obj members =>
    have hdirect : ofJson (.obj members) = ofDocument (.obj members) := rfl
    simp only [hdirect, reduceCtorEq, false_and, exists_false, or_false]
  | _ => exact iff_of_false nofun (by rintro (h | ⟨_, h, -⟩) <;> cases h)

/-- A statement is read from an array iff it has up to nine values and the object with these under
the names of the fields is read. -/
theorem Statement.ofJson_arr_eq_ok_iff {items : List Json} {s : Statement} :
    ofJson (.arr items) = .ok s ↔ items.length ≤ 9 ∧
      ofJson (.obj (fieldNames.zip items)) = .ok s :=
  record_independent.ofItems_eq_ok_iff_ofMembers

/-- A row is read from an array iff it has twelve values and the object with these under the names
of the fields is read. -/
theorem Evaluation.ofJson_arr_eq_ok_iff {items : List Json} {row : Evaluation} :
    ofJson (.arr items) = .ok row ↔ items.length = 12 ∧
      ofJson (.obj (fieldNames.zip items)) = .ok row := by
  have hobject : ofJson (.arr items) = .ok row ↔ items.length ≤ 12 ∧
      ofJson (.obj (fieldNames.zip items)) = .ok row :=
    record_independent.ofItems_eq_ok_iff_ofMembers
  constructor
  · intro hread
    obtain ⟨-, hmany, hfew⟩ := Record.ofItems_eq_ok_iff.mp hread
    exact ⟨Nat.le_antisymm hmany (hfew rfl), (hobject.mp hread).2⟩
  · rintro ⟨hlength, hread⟩
    exact hobject.mpr ⟨Nat.le_of_eq hlength, hread⟩

/-- What is read by position is what is read by name. -/
theorem ofJson_by_position_iff :
    -- A policy is read from a document, or from the values of its first fields.
    (∀ (value : Json) (p : Policy), Policy.ofJson value = .ok p ↔
      Policy.ofDocument value = .ok p ∨
        ∃ items, value = .arr items ∧ items.length ≤ 3 ∧
          Policy.ofDocument (.obj (Policy.fieldNames.zip items)) = .ok p) ∧
    -- A document is never an array.
    (∀ (items : List Json) (p : Policy), Policy.ofDocument (.arr items) ≠ .ok p) ∧
    -- A statement is read from the values of its first fields.
    (∀ items : List Json, items.length ≤ 9 → ∀ s : Statement,
      Statement.ofJson (.arr items) = .ok s ↔
        Statement.ofJson (.obj (Statement.fieldNames.zip items)) = .ok s) ∧
    -- A row is read from the values of all its fields.
    (∀ (items : List Json) (row : Evaluation), Evaluation.ofJson (.arr items) = .ok row ↔
      items.length = 12 ∧
        Evaluation.ofJson (.obj (Evaluation.fieldNames.zip items)) = .ok row) ∧
    -- No array with more values than there are fields is read.
    (∀ items : List Json, 3 < items.length → ∀ p, Policy.ofJson (.arr items) ≠ .ok p) ∧
    (∀ items : List Json, 9 < items.length → ∀ s, Statement.ofJson (.arr items) ≠ .ok s) ∧
    ∀ items : List Json, 12 < items.length → ∀ row, Evaluation.ofJson (.arr items) ≠ .ok row := by
  refine ⟨fun _ _ => Policy.ofJson_eq_ok_iff, nofun, fun items hitems s => ?_,
    fun _ _ => Evaluation.ofJson_arr_eq_ok_iff, fun items hmany p hread => ?_,
    fun items hmany s hread => ?_, fun items hmany row hread => ?_⟩
  · rw [Statement.ofJson_arr_eq_ok_iff, and_iff_right hitems]
  · exact Nat.not_lt.mpr (Record.ofItems_eq_ok_iff.mp hread).2.1 hmany
  · exact Nat.not_lt.mpr (Statement.ofJson_arr_eq_ok_iff.mp hread).1 hmany
  · exact Nat.not_lt.mpr (Nat.le_of_eq (Evaluation.ofJson_arr_eq_ok_iff.mp hread).1) hmany

/-- A statement of which the first three values are given, and arrays that are too long. -/
theorem ofJson_by_position_of_three :
    let items : List Json := [.null, .str "Allow", .str "*"]
    let tooMany : List Json := List.replicate 13 .null
    let s : Statement := { effectText := some "Allow", principal := some .any }
    (items.length ≤ 9 ∧ Statement.ofJson (.arr items) = .ok s) ∧
      (3 < tooMany.length ∧ ∀ p, Policy.ofJson (.arr tooMany) ≠ .ok p) ∧
      (9 < tooMany.length ∧ ∀ s, Statement.ofJson (.arr tooMany) ≠ .ok s) ∧
      12 < tooMany.length ∧ ∀ row, Evaluation.ofJson (.arr tooMany) ≠ .ok row := by
  intro items tooMany s
  obtain ⟨-, -, hstatement, -, hpolicies, hstatements, hrows⟩ := ofJson_by_position_iff
  have hread : Statement.ofJson (.obj (Statement.fieldNames.zip items)) = .ok s := by
    decide +kernel
  exact ⟨⟨by decide, (hstatement items (by decide) s).mpr hread⟩,
    ⟨by decide, hpolicies tooMany (by decide)⟩, ⟨by decide, hstatements tooMany (by decide)⟩,
    by decide, hrows tooMany (by decide)⟩

end ResourcePolicy
