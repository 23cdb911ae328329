import Mathlib.Control.Monad.Basic
import ResourcePolicy.Proofs.Classification

/-!
# Two ways of reading an ARN

A text shaped like an ARN falls into five parts, in one way only. The loose reading gives the
account part of any such text. The strict reading accepts a text as a principal if the parts are
plain and the account is an account id; besides these texts it accepts just the wildcard and the
account ids. Where both readings give an account, they give the same one.
-/

namespace ResourcePolicy

/-- The parts of an ARN as texts. -/
structure ArnParts where
  partition : String
  service : String
  region : String
  account : String
  resource : String
deriving DecidableEq

namespace ArnParts

/-- The text of an ARN with these parts. -/
def text (parts : ArnParts) : String :=
  arnText parts.partition parts.service parts.region parts.account parts.resource

/-- The first four parts have no colon; the resource may have any number of them. -/
structure Separated (parts : ArnParts) : Prop where
  partition : ColonFree parts.partition
  service : ColonFree parts.service
  region : ColonFree parts.region
  account : ColonFree parts.account

/-- The first three parts are lower-case letters, be it none, the account is an account id, and
the resource has no line feed. -/
structure Plain (parts : ArnParts) : Prop where
  partition : LowerLetters parts.partition
  service : LowerLetters parts.service
  region : LowerLetters parts.region
  account : IsAccountId parts.account
  resource : '\n' ∉ parts.resource.toList

/-- Plain parts are separated by the colons between them. -/
theorem Plain.separated {parts : ArnParts} (hplain : parts.Plain) : parts.Separated where
  partition := hplain.partition.colonFree
  service := hplain.service.colonFree
  region := hplain.region.colonFree
  account := hplain.account.colonFree

/-- Parts that are not plain have one that is out of form. -/
theorem not_plain_iff {parts : ArnParts} :
    ¬ parts.Plain ↔
      ¬ IsAccountId parts.account ∨ ¬ LowerLetters parts.partition ∨
        ¬ LowerLetters parts.service ∨ ¬ LowerLetters parts.region ∨
        '\n' ∈ parts.resource.toList := by
  constructor
  · intro hnot
    by_contra hform
    simp only [not_or, not_not] at hform
    obtain ⟨haccount, hpartition, hservice, hregion, hresource⟩ := hform
    exact hnot ⟨hpartition, hservice, hregion, haccount, hresource⟩
  · rintro (h | h | h | h | h) ⟨hpartition, hservice, hregion, haccount, hresource⟩
    · exact h haccount
    · exact h hpartition
    · exact h hservice
    · exact h hregion
    · exact hresource h

/-- The ARN with these parts. -/
def toArn (parts : ArnParts) (hseparated : parts.Separated) : Arn where
  partition := .ofText parts.partition hseparated.partition
  service := .ofText parts.service hseparated.service
  region := .ofText parts.region hseparated.region
  account := .ofText parts.account hseparated.account
  resource := parts.resource.toList

end ArnParts

namespace Arn

/-- The parts of an ARN. -/
def parts (arn : Arn) : ArnParts where
  partition := arn.partition.text
  service := arn.service.text
  region := arn.region.text
  account := arn.account.text
  resource := String.ofList arn.resource

/-- An ARN is written as its parts are. -/
@[simp] theorem text_parts (arn : Arn) : arn.parts.text = arn.text := arn.text_eq_arnText.symm

/-- An ARN is determined by its text. -/
theorem text_inj {arn other : Arn} : arn.text = other.text ↔ arn = other := by
  constructor
  · intro htext
    have hread : ofString? arn.text = some arn := ofString?_eq_some_iff.mpr rfl
    rw [ofString?_eq_some_iff.mpr htext] at hread
    exact (Option.some.inj hread).symm
  · rintro rfl
    rfl

/-- An ARN carries an account id and is plain otherwise iff its parts are plain. -/
theorem plain_parts_iff (arn : Arn) :
    arn.parts.Plain ↔ IsAccountId arn.account.text ∧ arn.isPlain = true := by
  rw [isPlain_iff]
  constructor
  · rintro ⟨hpartition, hservice, hregion, haccount, hresource⟩
    exact ⟨haccount, hpartition, hservice, hregion, hresource⟩
  · rintro ⟨haccount, hpartition, hservice, hregion, hresource⟩
    exact ⟨hpartition, hservice, hregion, haccount, hresource⟩

end Arn

namespace ArnParts

variable {parts other : ArnParts} {text : String}

/-- The ARN that is made of some parts has them. -/
@[simp] theorem parts_toArn (hseparated : parts.Separated) :
    (parts.toArn hseparated).parts = parts := by
  unfold toArn Arn.parts
  simp only [Segment.text_ofText, String.ofList_toList]

/-- The ARN that is made of some parts is written as they are. -/
theorem text_toArn (hseparated : parts.Separated) : (parts.toArn hseparated).text = parts.text := by
  rw [← Arn.text_parts, parts_toArn]

/-- A text has separated parts in one way only. -/
theorem Separated.eq_of_text (hparts : parts.Separated) (hother : other.Separated)
    (htext : parts.text = other.text) : parts = other := by
  have harns : parts.toArn hparts = other.toArn hother := by
    apply Arn.text_inj.mp
    rw [text_toArn, text_toArn, htext]
  rw [← parts_toArn hparts, ← parts_toArn hother, harns]

end ArnParts

namespace Arn

/-- The account segment of a text is the account among its separated parts. -/
theorem accountSegment_eq_some_iff_parts {text account : String} :
    accountSegment text = some account ↔
      ∃ parts : ArnParts, parts.Separated ∧ parts.text = text ∧ parts.account = account := by
  rw [accountSegment_eq_some_iff]
  constructor
  · rintro ⟨partition, service, region, resource, hpartition, hservice, hregion, haccount, rfl⟩
    exact ⟨⟨partition, service, region, account, resource⟩,
      ⟨hpartition, hservice, hregion, haccount⟩, rfl, rfl⟩
  · rintro ⟨parts, ⟨hpartition, hservice, hregion, haccount⟩, rfl, rfl⟩
    exact ⟨parts.partition, parts.service, parts.region, parts.resource, hpartition, hservice,
      hregion, haccount, rfl⟩

/-- A text has no account segment iff it has no separated parts. -/
theorem accountSegment_eq_none_iff {text : String} :
    accountSegment text = none ↔ ∀ parts : ArnParts, parts.Separated → parts.text ≠ text := by
  constructor
  · intro hnone parts hseparated htext
    have hsome := accountSegment_eq_some_iff_parts.mpr ⟨parts, hseparated, htext, rfl⟩
    rw [hnone] at hsome
    cases hsome
  · intro hno
    cases hsegment : accountSegment text with
    | none => rfl
    | some account =>
      obtain ⟨parts, hseparated, htext, -⟩ := accountSegment_eq_some_iff_parts.mp hsegment
      exact absurd htext (hno parts hseparated)

end Arn

namespace AwsPrincipal

variable {text : String} {found : Arn} {id : AccountId} {parts : ArnParts}

/-- Only the wildcard is accepted as anyone. -/
theorem classify_eq_wildcard_iff : classify text = .ok wildcard ↔ text = "*" := by
  rw [classify_eq_ok_iff]
  constructor
  · rintro (⟨-, htext⟩ | ⟨_, hkind, -⟩ | ⟨_, _, hkind, -⟩)
    · exact htext
    · cases hkind
    · cases hkind
  · intro htext
    exact Or.inl ⟨rfl, htext⟩

/-- A text is accepted as an account iff it is the text of that account. -/
theorem classify_eq_account_iff : classify text = .ok (account id) ↔ id.text = text := by
  rw [classify_eq_ok_iff]
  constructor
  · rintro (⟨hkind, -⟩ | ⟨_, hkind, rfl⟩ | ⟨_, _, hkind, -⟩)
    · cases hkind
    · cases hkind
      rfl
    · cases hkind
  · rintro rfl
    exact Or.inr (Or.inl ⟨id, rfl, rfl⟩)

/-- A text is accepted as an ARN of an account iff the parts of the ARN are plain, make up the text
and name the account. -/
theorem classify_eq_arn_iff :
    classify text = .ok (arn found id) ↔
      found.parts.Plain ∧ found.parts.text = text ∧ found.parts.account = id.text := by
  rw [classify_eq_ok_iff, Arn.plain_parts_iff, Arn.text_parts]
  constructor
  · rintro (⟨hkind, -⟩ | ⟨_, hkind, -⟩ | ⟨_, _, hkind, rfl, haccount, hplain⟩)
    · cases hkind
    · cases hkind
    · cases hkind
      exact ⟨⟨haccount ▸ id.valid, hplain⟩, rfl, haccount⟩
  · rintro ⟨⟨-, hplain⟩, rfl, haccount⟩
    exact Or.inr (Or.inr ⟨found, id, rfl, rfl, haccount, hplain⟩)

/-- Plain parts make up a text that is accepted as the ARN with these parts. -/
theorem exists_classify_eq_arn (hplain : parts.Plain) :
    ∃ found id, classify parts.text = .ok (arn found id) ∧ found.parts = parts ∧
      id.text = parts.account := by
  have hparts := ArnParts.parts_toArn hplain.separated
  refine ⟨parts.toArn hplain.separated, ⟨parts.account, hplain.account⟩, ?_, hparts, rfl⟩
  apply classify_eq_arn_iff.mpr
  rw [hparts]
  exact ⟨hplain, rfl, rfl⟩

/-- A text with separated parts is neither the wildcard nor an account id. -/
theorem not_wildcard_of_separated (hseparated : parts.Separated) :
    parts.text ≠ "*" ∧ ¬ IsAccountId parts.text := by
  rw [← ArnParts.text_toArn hseparated]
  exact ⟨Arn.text_ne_wildcard _, Arn.not_isAccountId_text _⟩

/-- A text is refused iff it has none of the three forms, and then it is named in the error. -/
theorem classify_eq_error_iff {error : PolicyError} :
    classify text = .error error ↔
      error = .unparseableArn text ∧ text ≠ "*" ∧ ¬ IsAccountId text ∧
        ∀ parts : ArnParts, parts.Plain → parts.text ≠ text := by
  constructor
  · intro hrefused
    have hnever : ∀ principal, classify text ≠ .ok principal := by
      intro principal haccepted
      rw [hrefused] at haccepted
      cases haccepted
    refine ⟨error_of_classify hrefused, fun htext => ?_, fun hid => ?_,
      fun parts hplain htext => ?_⟩
    · exact hnever _ (classify_eq_wildcard_iff.mpr htext)
    · exact hnever (account ⟨text, hid⟩) (classify_eq_account_iff.mpr rfl)
    · obtain ⟨found, id, haccepted, -⟩ := exists_classify_eq_arn hplain
      exact hnever _ (htext ▸ haccepted)
  · rintro ⟨rfl, hwildcard, hid, hparts⟩
    cases hanswer : classify text with
    | error error => rw [error_of_classify hanswer]
    | ok principal =>
      cases principal with
      | wildcard => exact absurd (classify_eq_wildcard_iff.mp hanswer) hwildcard
      | account id => exact absurd (classify_eq_account_iff.mp hanswer ▸ id.valid) hid
      | arn found id =>
        obtain ⟨hplain, htext, -⟩ := classify_eq_arn_iff.mp hanswer
        exact absurd htext (hparts found.parts hplain)

/-- A text with separated parts is refused iff they are not plain. -/
theorem exists_classify_eq_error_iff (hseparated : parts.Separated) :
    (∃ error, classify parts.text = .error error) ↔ ¬ parts.Plain := by
  constructor
  · rintro ⟨error, hrefused⟩ hplain
    obtain ⟨-, -, -, hno⟩ := classify_eq_error_iff.mp hrefused
    exact hno parts hplain rfl
  · intro hnot
    obtain ⟨hwildcard, hid⟩ := not_wildcard_of_separated hseparated
    refine ⟨_, classify_eq_error_iff.mpr ⟨rfl, hwildcard, hid, fun other hother htext => ?_⟩⟩
    -- Plain parts of the same text would be these very parts.
    have hsame := hother.separated.eq_of_text hseparated htext
    exact hnot (hsame ▸ hother)

/-- The language of AWS values: the wildcard, the account ids and the plain ARNs that carry one. -/
theorem classify_recognizes (text : String) :
    -- The wildcard, and nothing else, is anyone.
    (classify text = .ok .wildcard ↔ text = "*") ∧
    -- The account ids, and nothing else, are accounts, each under its own text.
    (∀ id, classify text = .ok (.account id) ↔ id.text = text) ∧
    ((∃ id, classify text = .ok (.account id)) ↔ IsAccountId text) ∧
    -- The texts with plain parts, and nothing else, are ARNs, each with these parts and its
    -- account.
    (∀ found id, classify text = .ok (.arn found id) →
      found.text = text ∧ found.parts.account = id.text) ∧
    (∀ parts : ArnParts, (∃ found id, classify text = .ok (.arn found id) ∧ found.parts = parts) ↔
      parts.Plain ∧ parts.text = text) ∧
    (∀ parts other : ArnParts, parts.Plain → other.Plain → parts.text = text → other.text = text →
      parts = other) ∧
    -- Any other text is refused, and the error shows it.
    (∀ error, classify text = .error error ↔
      error = .unparseableArn text ∧ text ≠ "*" ∧ ¬ IsAccountId text ∧
        ∀ parts : ArnParts, parts.Plain → parts.text ≠ text) ∧
    -- No text has two of the three forms.
    ¬ (text = "*" ∧ IsAccountId text) ∧
    ∀ parts : ArnParts, parts.Plain → parts.text = text → text ≠ "*" ∧ ¬ IsAccountId text := by
  refine ⟨classify_eq_wildcard_iff, fun _ => classify_eq_account_iff, ?_, fun found id h => ?_,
    fun parts => ?_, fun parts other hparts hother htext hsame => ?_,
    fun _ => classify_eq_error_iff, ?_, fun parts hplain htext => ?_⟩
  · constructor
    · rintro ⟨id, haccepted⟩
      exact classify_eq_account_iff.mp haccepted ▸ id.valid
    · intro hid
      exact ⟨⟨text, hid⟩, classify_eq_account_iff.mpr rfl⟩
  · obtain ⟨-, htext, haccount⟩ := classify_eq_arn_iff.mp h
    exact ⟨found.text_parts ▸ htext, haccount⟩
  · constructor
    · rintro ⟨found, id, haccepted, rfl⟩
      obtain ⟨hplain, htext, -⟩ := classify_eq_arn_iff.mp haccepted
      exact ⟨hplain, htext⟩
    · rintro ⟨hplain, rfl⟩
      obtain ⟨found, id, haccepted, hparts, -⟩ := exists_classify_eq_arn hplain
      exact ⟨found, id, haccepted, hparts⟩
  · exact hparts.separated.eq_of_text hother.separated (htext.trans hsame.symm)
  · rintro ⟨rfl, hid⟩
    exact not_isAccountId_wildcard hid
  · rw [← htext]
    exact not_wildcard_of_separated hplain.separated

/-- A resource may have colons and the region may be empty, but a line feed at the end of the same
text is refused. -/
theorem classify_recognizes_root :
    let parts : ArnParts := ⟨"aws", "iam", "", "123456789012", "role:a/b:*"⟩
    let text := "arn:aws:iam::123456789012:role:a/b:*"
    parts.Plain ∧ parts.text = text ∧
      (∃ found id, classify text = .ok (.arn found id) ∧ found.parts = parts) ∧
      (∀ other : ArnParts, other.Plain → other.text = text → parts = other) ∧
      classify "arn:aws:iam::123456789012:role:a/b:*\n" =
        .error (.unparseableArn "arn:aws:iam::123456789012:role:a/b:*\n") := by
  intro parts text
  have hplain : parts.Plain :=
    ⟨by decide, by decide, by decide, by decide, by decide⟩
  have htext : parts.text = text := by decide
  obtain ⟨-, -, -, -, harn, hunique, -⟩ := classify_recognizes text
  refine ⟨hplain, htext, (harn parts).mpr ⟨hplain, htext⟩, fun other hother hsame => ?_,
    by decide +kernel⟩
  exact hunique parts other hplain hother htext hsame

/-- The two readings of a text give the same account. -/
theorem accountSegment_agrees (text : String) :
    -- The loose reading finds the account of any text in five parts, which are unique.
    (∀ account, Arn.accountSegment text = some account ↔
      ∃ parts : ArnParts, parts.Separated ∧ parts.text = text ∧ parts.account = account) ∧
    (∀ parts other : ArnParts, parts.Separated → other.Separated → parts.text = text →
      other.text = text → parts = other) ∧
    (Arn.accountSegment text = none ↔
      ∀ parts : ArnParts, parts.Separated → parts.text ≠ text) ∧
    -- The account that the strict reading finds is the one that the loose reading finds, and it is
    -- never the wildcard.
    (∀ found id, classify text = .ok (.arn found id) →
      Arn.accountSegment text = some id.text ∧ Condition.hasOpenAccount text = false) ∧
    -- Of the texts in five parts the strict reading refuses just those with a part out of form.
    ∀ parts : ArnParts, parts.Separated → parts.text = text →
      ((∃ error, classify text = .error error) ↔
        ¬ IsAccountId parts.account ∨ ¬ LowerLetters parts.partition ∨
          ¬ LowerLetters parts.service ∨ ¬ LowerLetters parts.region ∨
          '\n' ∈ parts.resource.toList) := by
  refine ⟨fun _ => Arn.accountSegment_eq_some_iff_parts,
    fun parts other hparts hother htext hsame => ?_, Arn.accountSegment_eq_none_iff,
    fun found id haccepted => ?_, fun parts hseparated htext => ?_⟩
  · exact hparts.eq_of_text hother (htext.trans hsame.symm)
  · obtain ⟨hplain, htext, haccount⟩ := classify_eq_arn_iff.mp haccepted
    have hsegment : Arn.accountSegment text = some id.text :=
      Arn.accountSegment_eq_some_iff_parts.mpr ⟨found.parts, hplain.separated, htext, haccount⟩
    refine ⟨hsegment, ?_⟩
    rw [Condition.hasOpenAccount, hsegment, beq_eq_false_iff_ne]
    exact fun heq => id.text_ne_wildcard (Option.some.inj heq)
  · rw [← htext, exists_classify_eq_error_iff hseparated, ArnParts.not_plain_iff]

/-- A wildcard account is found by the loose reading only, which the strict one refuses for it; in a
partition with a hyphen even an account id is found by the loose reading only. -/
theorem accountSegment_agrees_on_open_account :
    let anyAccount : ArnParts := ⟨"aws", "iam", "", "*", "role/x"⟩
    let otherPartition : ArnParts := ⟨"aws-cn", "iam", "", "123456789012", "root"⟩
    anyAccount.Separated ∧ anyAccount.text = "arn:aws:iam::*:role/x" ∧
      Arn.accountSegment "arn:aws:iam::*:role/x" = some "*" ∧
      (∃ error, classify "arn:aws:iam::*:role/x" = .error error) ∧
      otherPartition.Separated ∧ otherPartition.text = "arn:aws-cn:iam::123456789012:root" ∧
      Arn.accountSegment "arn:aws-cn:iam::123456789012:root" = some "123456789012" ∧
      ∃ error, classify "arn:aws-cn:iam::123456789012:root" = .error error := by
  intro anyAccount otherPartition
  have hany : anyAccount.Separated := ⟨by decide, by decide, by decide, by decide⟩
  have hother : otherPartition.Separated := ⟨by decide, by decide, by decide, by decide⟩
  have hanyText : anyAccount.text = "arn:aws:iam::*:role/x" := by decide
  have hotherText : otherPartition.text = "arn:aws-cn:iam::123456789012:root" := by decide
  obtain ⟨hsegment, -, -, -, hrefused⟩ := accountSegment_agrees "arn:aws:iam::*:role/x"
  obtain ⟨hotherSegment, -, -, -, hotherRefused⟩ :=
    accountSegment_agrees "arn:aws-cn:iam::123456789012:root"
  refine ⟨hany, hanyText, (hsegment _).mpr ⟨anyAccount, hany, hanyText, rfl⟩, ?_, hother,
    hotherText, (hotherSegment _).mpr ⟨otherPartition, hother, hotherText, rfl⟩, ?_⟩
  · exact (hrefused anyAccount hany hanyText).mpr (Or.inl (by decide))
  · exact (hotherRefused otherPartition hother hotherText).mpr (Or.inr (Or.inl (by decide)))

end AwsPrincipal

end ResourcePolicy
