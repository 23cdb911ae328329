/-!
# ARNs

An ARN is the scheme `arn` followed by a partition, a service, a region, an account and a
resource, separated by colons. The first four parts have no colon, the resource may have any
number of them, and no part is checked further. So the five separators are the first five
colons of the text, and a text is an ARN in at most one way.
-/

namespace ResourcePolicy

/-- A piece of text without a colon. -/
structure Segment where
  chars : List Char
  colonFree : ':' ∉ chars
deriving DecidableEq

namespace Segment

/-- The segment as a text. -/
def text (segment : Segment) : String := String.ofList segment.chars

/-- Cuts a text at its first colon into the segment before it and what stands after it. -/
def cut? : List Char → Option (Segment × List Char)
  | [] => none
  | c :: rest =>
    if hcolon : c = ':' then some (⟨[], List.not_mem_nil⟩, rest)
    else
      (cut? rest).map fun (segment, back) =>
        (⟨c :: segment.chars, by simp [Ne.symm hcolon, segment.colonFree]⟩, back)

/-- A text is cut into a segment and the rest iff the colon between them joins them to it. -/
theorem cut?_eq_some_iff {text rest : List Char} {segment : Segment} :
    cut? text = some (segment, rest) ↔ text = segment.chars ++ ':' :: rest := by
  induction text generalizing segment with
  | nil => simp [cut?]
  | cons c text ih =>
    obtain ⟨chars, hfree⟩ := segment
    unfold cut?
    split
    · rename_i hcolon
      subst hcolon
      cases chars with
      | nil => simp [eq_comm]
      | cons d chars =>
        have hne : d ≠ ':' := fun h => hfree (h ▸ List.mem_cons_self)
        simp [Ne.symm hne]
    · rename_i hcolon
      cases chars with
      | nil => simp [hcolon]
      | cons d chars =>
        have hchars : ':' ∉ chars := fun h => hfree (List.mem_cons_of_mem _ h)
        have ih := @ih ⟨chars, hchars⟩
        simp only [Option.map_eq_some_iff, Prod.exists, Prod.mk.injEq, Segment.mk.injEq,
          List.cons.injEq, List.cons_append]
        constructor
        · rintro ⟨⟨front, hfront⟩, back, hcut, ⟨rfl, rfl⟩, rfl⟩
          exact ⟨rfl, ih.mp hcut⟩
        · rintro ⟨rfl, htext⟩
          exact ⟨⟨chars, hchars⟩, rest, ih.mpr htext, ⟨rfl, rfl⟩, rfl⟩

end Segment

/-- The parts of an ARN. -/
structure Arn where
  partition : Segment
  service : Segment
  region : Segment
  account : Segment
  resource : List Char
deriving DecidableEq

namespace Arn

/-- The characters of an ARN. -/
def chars (arn : Arn) : List Char :=
  ['a', 'r', 'n'] ++ ':' :: (arn.partition.chars ++ ':' :: (arn.service.chars ++ ':' ::
    (arn.region.chars ++ ':' :: (arn.account.chars ++ ':' :: arn.resource))))

/-- The text of an ARN. -/
def text (arn : Arn) : String := String.ofList arn.chars

/-- Reads an ARN that takes up the whole text. -/
def ofString? (text : String) : Option Arn := do
  let (scheme, rest) ← Segment.cut? text.toList
  if scheme.chars = ['a', 'r', 'n'] then
    let (partition, rest) ← Segment.cut? rest
    let (service, rest) ← Segment.cut? rest
    let (region, rest) ← Segment.cut? rest
    let (account, resource) ← Segment.cut? rest
    return { partition, service, region, account, resource }
  else none

/-- A text is read as an ARN iff it is the text of that ARN. -/
theorem ofString?_eq_some_iff {text : String} {arn : Arn} :
    ofString? text = some arn ↔ text = arn.text := by
  have hscheme : ∀ rest : List Char, Segment.cut? (['a', 'r', 'n'] ++ ':' :: rest) =
      some (⟨['a', 'r', 'n'], by decide⟩, rest) :=
    fun rest => Segment.cut?_eq_some_iff.mpr rfl
  constructor
  · intro h
    simp only [ofString?, Option.bind_eq_bind, Option.bind_eq_some_iff, Prod.exists] at h
    obtain ⟨scheme, rest, htext, h⟩ := h
    split at h
    · rename_i hname
      simp only [Option.bind_eq_some_iff, Prod.exists, Option.pure_def, Option.some.injEq,
        Segment.cut?_eq_some_iff] at h htext
      obtain ⟨partition, rest, rfl, service, rest, rfl, region, rest, rfl, account, resource, rfl,
        rfl⟩ := h
      rw [hname] at htext
      rw [Arn.text, ← String.toList_inj, htext, String.toList_ofList, chars]
    · cases h
  · rintro rfl
    simp only [ofString?, Arn.text, chars, String.toList_ofList, hscheme, Option.bind_eq_bind,
      Option.bind_some, if_pos, Option.pure_def]
    simp only [Segment.cut?_eq_some_iff.mpr rfl, Option.bind_some]

/-- The account part of a text that is shaped like an ARN. -/
def accountSegment (text : String) : Option String :=
  (ofString? text).map fun arn => arn.account.text

end Arn

end ResourcePolicy
