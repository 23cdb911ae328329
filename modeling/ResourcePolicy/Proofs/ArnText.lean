import ResourcePolicy.AwsPrincipal
import ResourcePolicy.Condition.Narrowing

/-!
# The texts of ARNs

An ARN is read off a text exactly as it is written: five separators, the first four parts between
them without a colon, and any resource after them. So the account segment of a text is known from
the way the text is written, and with it whether a condition value leaves its account open.
-/

namespace ResourcePolicy

/-- The text of an ARN with the given parts. -/
def arnText (partition service region account resource : String) : String :=
  "arn:" ++ partition ++ ":" ++ service ++ ":" ++ region ++ ":" ++ account ++ ":" ++ resource

/-- The text has no colon. -/
def ColonFree (text : String) : Prop := ':' ∉ text.toList

/-- The text has only lower-case ASCII letters. -/
def LowerLetters (text : String) : Prop := ∀ c ∈ text.toList, c.isLower = true

instance : DecidablePred ColonFree := fun text =>
  inferInstanceAs (Decidable (':' ∉ text.toList))

instance : DecidablePred LowerLetters := fun text =>
  decidable_of_iff (text.toList.all Char.isLower = true) List.all_eq_true

/-- A text of lower-case letters has no colon. -/
theorem LowerLetters.colonFree {text : String} (hlower : LowerLetters text) : ColonFree text := by
  intro hmem
  have hcolon := hlower ':' hmem
  exact absurd hcolon (by decide)

/-- An account id has no colon. -/
theorem IsAccountId.colonFree {text : String} (hid : IsAccountId text) : ColonFree text := by
  intro hmem
  have hcolon := hid.2 ':' hmem
  exact absurd hcolon (by decide)

namespace Segment

/-- The segment of a text without a colon. -/
def ofText (text : String) (hfree : ColonFree text) : Segment := ⟨text.toList, hfree⟩

@[simp] theorem text_ofText {text : String} (hfree : ColonFree text) :
    (ofText text hfree).text = text := String.ofList_toList

theorem toList_text (segment : Segment) : segment.text.toList = segment.chars :=
  String.toList_ofList

theorem colonFree_text (segment : Segment) : ColonFree segment.text := by
  rw [ColonFree, toList_text]
  exact segment.colonFree

end Segment

namespace Arn

/-- An ARN is written as its parts with the separators between them. -/
theorem text_eq_arnText (arn : Arn) :
    arn.text = arnText arn.partition.text arn.service.text arn.region.text arn.account.text
      (String.ofList arn.resource) := by
  rw [← String.toList_inj]
  simp [Arn.text, arnText, Arn.chars, Segment.toList_text]

/-- The parts of an ARN that is written out are read off it. -/
theorem ofString?_arnText {partition service region account : String} (resource : String)
    (hpartition : ColonFree partition) (hservice : ColonFree service) (hregion : ColonFree region)
    (haccount : ColonFree account) :
    ofString? (arnText partition service region account resource) =
      some ⟨.ofText partition hpartition, .ofText service hservice, .ofText region hregion,
        .ofText account haccount, resource.toList⟩ := by
  rw [ofString?_eq_some_iff, text_eq_arnText]
  simp only [Segment.text_ofText, String.ofList_toList]

/-- The account segment of a text is the fourth part of the one ARN that the text may be. -/
theorem accountSegment_eq_some_iff {text account : String} :
    accountSegment text = some account ↔
      ∃ partition service region resource, ColonFree partition ∧ ColonFree service ∧
        ColonFree region ∧ ColonFree account ∧
        text = arnText partition service region account resource := by
  rw [accountSegment, Option.map_eq_some_iff]
  constructor
  · rintro ⟨arn, hread, rfl⟩
    refine ⟨arn.partition.text, arn.service.text, arn.region.text, String.ofList arn.resource,
      arn.partition.colonFree_text, arn.service.colonFree_text, arn.region.colonFree_text,
      arn.account.colonFree_text, ?_⟩
    rw [ofString?_eq_some_iff.mp hread]
    exact arn.text_eq_arnText
  · rintro ⟨partition, service, region, resource, hpartition, hservice, hregion, haccount, rfl⟩
    exact ⟨_, ofString?_arnText resource hpartition hservice hregion haccount,
      Segment.text_ofText haccount⟩

/-- The first character of an ARN. -/
theorem toList_text_eq_cons (arn : Arn) : ∃ rest, arn.text.toList = 'a' :: rest := by
  rw [Arn.text, String.toList_ofList]
  exact ⟨_, rfl⟩

end Arn

/-- The value leaves its account open: it is written as an ARN whose account is the wildcard. -/
def LeavesAccountOpen (value : String) : Prop :=
  ∃ partition service region resource, ColonFree partition ∧ ColonFree service ∧
    ColonFree region ∧ value = arnText partition service region "*" resource

/-- The test for an open account finds exactly the values that leave it open. -/
theorem Condition.hasOpenAccount_iff {value : String} :
    hasOpenAccount value = true ↔ LeavesAccountOpen value := by
  have hwildcard : ColonFree "*" := by decide
  rw [hasOpenAccount, beq_iff_eq, Arn.accountSegment_eq_some_iff]
  constructor
  · rintro ⟨partition, service, region, resource, hpartition, hservice, hregion, -, hvalue⟩
    exact ⟨partition, service, region, resource, hpartition, hservice, hregion, hvalue⟩
  · rintro ⟨partition, service, region, resource, hpartition, hservice, hregion, hvalue⟩
    exact ⟨partition, service, region, resource, hpartition, hservice, hregion, hwildcard, hvalue⟩

end ResourcePolicy
