/-!
# Account ids

An account is named by exactly twelve decimal digits, of which only the ASCII ones count.
-/

namespace ResourcePolicy

/-- The text is twelve ASCII decimal digits. -/
def IsAccountId (text : String) : Prop :=
  text.toList.length = 12 ∧ ∀ c ∈ text.toList, c.isDigit = true

instance : DecidablePred IsAccountId := fun text =>
  decidable_of_iff (text.toList.length = 12 ∧ text.toList.all Char.isDigit = true)
    (and_congr_right fun _ => List.all_eq_true)

/-- The id of an account. -/
structure AccountId where
  text : String
  valid : IsAccountId text
deriving DecidableEq

namespace AccountId

/-- The account that a text names, if it is an account id. -/
def ofString? (text : String) : Option AccountId :=
  if hvalid : IsAccountId text then some ⟨text, hvalid⟩ else none

/-- A text names an account iff it is the text of that account. -/
theorem ofString?_eq_some_iff {text : String} {id : AccountId} :
    ofString? text = some id ↔ id.text = text := by
  unfold ofString?
  split
  · constructor
    · intro h
      cases h
      rfl
    · intro h
      cases id
      cases h
      rfl
  · rename_i hnot
    simp only [reduceCtorEq, false_iff]
    exact fun h => hnot (h ▸ id.valid)

/-- A text names no account iff it is not an account id. -/
theorem ofString?_eq_none_iff {text : String} : ofString? text = none ↔ ¬ IsAccountId text := by
  unfold ofString?
  split <;> simp_all

end AccountId

end ResourcePolicy
