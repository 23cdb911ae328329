import ResourcePolicy.Proofs.ArnText

/-!
# Which AWS values are accepted, and for which account

An AWS value is accepted in three ways that exclude each other: as the wildcard, as an account
id, or as an ARN with plain parts that carries an account id. The account that an accepted value
belongs to is thereby known from its text.
-/

namespace ResourcePolicy

/-- The text is a plain ARN that carries the account: its partition, service and region are
lower-case letters and its resource has no line feed. -/
def CarriesAccount (text account : String) : Prop :=
  ∃ partition service region resource, LowerLetters partition ∧ LowerLetters service ∧
    LowerLetters region ∧ '\n' ∉ resource.toList ∧
    text = arnText partition service region account resource

/-- The text is an account id, or a plain ARN that carries one. -/
def NamesAccount (text account : String) : Prop :=
  IsAccountId account ∧ (text = account ∨ CarriesAccount text account)

/-- Equal texts are equal account ids. -/
theorem AccountId.text_inj {id other : AccountId} : id.text = other.text ↔ id = other := by
  cases id
  cases other
  simp

/-- The wildcard is not an account id. -/
theorem not_isAccountId_wildcard : ¬ IsAccountId wildcard := by decide

/-- No account is named like the wildcard. -/
theorem AccountId.text_ne_wildcard (id : AccountId) : id.text ≠ wildcard := fun heq =>
  not_isAccountId_wildcard (heq ▸ id.valid)

namespace Arn

/-- The parts of a plain ARN as conditions on its text. -/
theorem isPlain_iff (arn : Arn) :
    arn.isPlain = true ↔ LowerLetters arn.partition.text ∧ LowerLetters arn.service.text ∧
      LowerLetters arn.region.text ∧ '\n' ∉ (String.ofList arn.resource).toList := by
  simp only [isPlain, LowerLetters, Segment.toList_text, String.toList_ofList, Bool.and_eq_true,
    List.all_eq_true, bne_iff_ne, and_assoc]
  refine and_congr_right fun _ => and_congr_right fun _ => and_congr_right fun _ => ?_
  exact ⟨fun h hmem => h _ hmem rfl, fun h c hc heq => h (heq ▸ hc)⟩

/-- An ARN is not the wildcard. -/
theorem text_ne_wildcard (arn : Arn) : arn.text ≠ wildcard := by
  intro heq
  obtain ⟨rest, hrest⟩ := arn.toList_text_eq_cons
  rw [heq] at hrest
  exact absurd (List.cons.inj hrest).1 (by decide)

/-- An ARN is not an account id. -/
theorem not_isAccountId_text (arn : Arn) : ¬ IsAccountId arn.text := by
  intro hid
  obtain ⟨rest, hrest⟩ := arn.toList_text_eq_cons
  have ha := hid.2 'a' (hrest ▸ List.mem_cons_self)
  exact absurd ha (by decide)

end Arn

namespace AwsPrincipal

/-- The ARN principals of a text are the plain ARNs that are written so and carry an account. -/
theorem arnOfString?_eq_some_iff {text : String} {principal : AwsPrincipal} :
    arnOfString? text = some principal ↔
      ∃ found id, principal = arn found id ∧ text = found.text ∧ found.account.text = id.text ∧
        found.isPlain = true := by
  simp only [arnOfString?, Option.bind_eq_bind, Option.bind_eq_some_iff,
    Arn.ofString?_eq_some_iff, AccountId.ofString?_eq_some_iff]
  constructor
  · rintro ⟨found, htext, id, hid, h⟩
    split at h
    · rename_i hplain
      cases h
      exact ⟨found, id, rfl, htext, hid.symm, hplain⟩
    · cases h
  · rintro ⟨found, id, rfl, htext, hid, hplain⟩
    exact ⟨found, htext, id, hid.symm, if_pos hplain⟩

/-- A refused value is handed back in the error. -/
theorem error_of_classify {text : String} {error : PolicyError}
    (hrefused : classify text = .error error) : error = .unparseableArn text := by
  unfold classify at hrefused
  split at hrefused
  · cases hrefused
  · split at hrefused
    · cases hrefused
    · split at hrefused
      · cases hrefused
      · exact (Except.error.inj hrefused).symm

/-- The wildcard is accepted as anyone. -/
theorem classify_wildcard : classify ResourcePolicy.wildcard = .ok wildcard := if_pos rfl

/-- An account id is accepted as that account. -/
theorem classify_account (id : AccountId) : classify id.text = .ok (account id) := by
  have hread : AccountId.ofString? id.text = some id := AccountId.ofString?_eq_some_iff.mpr rfl
  rw [classify, if_neg id.text_ne_wildcard, hread]

/-- A plain ARN with an account id is accepted as that ARN. -/
theorem classify_arn {found : Arn} {id : AccountId} (haccount : found.account.text = id.text)
    (hplain : found.isPlain = true) : classify found.text = .ok (arn found id) := by
  have hread : arnOfString? found.text = some (arn found id) :=
    arnOfString?_eq_some_iff.mpr ⟨found, id, rfl, rfl, haccount, hplain⟩
  rw [classify, if_neg found.text_ne_wildcard,
    AccountId.ofString?_eq_none_iff.mpr found.not_isAccountId_text, hread]

/-- A value is accepted in no other way than these three. -/
theorem classify_eq_ok_iff {text : String} {principal : AwsPrincipal} :
    classify text = .ok principal ↔
      (principal = wildcard ∧ text = ResourcePolicy.wildcard) ∨
      (∃ id, principal = account id ∧ text = id.text) ∨
      ∃ found id, principal = arn found id ∧ text = found.text ∧ found.account.text = id.text ∧
        found.isPlain = true := by
  constructor
  · intro h
    unfold classify at h
    split at h
    · rename_i htext
      cases h
      exact Or.inl ⟨rfl, htext⟩
    · split at h
      · rename_i id hid
        cases h
        exact Or.inr (Or.inl ⟨id, rfl, (AccountId.ofString?_eq_some_iff.mp hid).symm⟩)
      · split at h
        · rename_i found hfound
          cases h
          exact Or.inr (Or.inr (arnOfString?_eq_some_iff.mp hfound))
        · cases h
  · rintro (⟨rfl, rfl⟩ | ⟨id, rfl, rfl⟩ | ⟨found, id, rfl, rfl, haccount, hplain⟩)
    · exact classify_wildcard
    · exact classify_account id
    · exact classify_arn haccount hplain

/-- Only the wildcard belongs to no account. -/
theorem account?_eq_none_iff {text : String} {principal : AwsPrincipal}
    (haccepted : classify text = .ok principal) :
    principal.account? = none ↔ text = ResourcePolicy.wildcard := by
  rcases classify_eq_ok_iff.mp haccepted with
    ⟨rfl, rfl⟩ | ⟨id, rfl, rfl⟩ | ⟨found, id, rfl, rfl, -, -⟩
  · exact iff_of_true rfl rfl
  · exact iff_of_false (by simp [account?]) id.text_ne_wildcard
  · exact iff_of_false (by simp [account?]) found.text_ne_wildcard

/-- A value names an account iff it is accepted and belongs to that account. -/
theorem namesAccount_iff {text name : String} :
    NamesAccount text name ↔
      ∃ principal id, classify text = .ok principal ∧ principal.account? = some id ∧
        id.text = name := by
  constructor
  · rintro ⟨hid, rfl | ⟨partition, service, region, resource, hp, hs, hr, hres, rfl⟩⟩
    · exact ⟨account ⟨text, hid⟩, ⟨text, hid⟩, classify_account ⟨text, hid⟩, rfl, rfl⟩
    · let found : Arn := ⟨.ofText partition hp.colonFree, .ofText service hs.colonFree,
        .ofText region hr.colonFree, .ofText name hid.colonFree, resource.toList⟩
      have htext : found.text = arnText partition service region name resource :=
        (Arn.ofString?_eq_some_iff.mp
          (Arn.ofString?_arnText resource hp.colonFree hs.colonFree hr.colonFree
            hid.colonFree)).symm
      have hplain : found.isPlain = true := by
        rw [Arn.isPlain_iff]
        simp only [found, Segment.text_ofText, String.ofList_toList]
        exact ⟨hp, hs, hr, hres⟩
      have haccount : found.account.text = name := Segment.text_ofText hid.colonFree
      exact ⟨arn found ⟨name, hid⟩, ⟨name, hid⟩, htext ▸ classify_arn haccount hplain, rfl, rfl⟩
  · rintro ⟨principal, id, haccepted, haccount, rfl⟩
    refine ⟨id.valid, ?_⟩
    rcases classify_eq_ok_iff.mp haccepted with
      ⟨rfl, rfl⟩ | ⟨other, rfl, rfl⟩ | ⟨found, other, rfl, rfl, hcarried, hplain⟩
    · cases haccount
    · cases haccount
      exact Or.inl rfl
    · cases haccount
      obtain ⟨hp, hs, hr, hres⟩ := found.isPlain_iff.mp hplain
      refine Or.inr ⟨_, _, _, _, hp, hs, hr, hres, ?_⟩
      rw [← hcarried]
      exact found.text_eq_arnText

/-- What an accepted value contributes to the accounts: the wildcard itself, and any account
but the owner's. -/
theorem reportedAccount?_eq_some_iff {owner : AccountId} {principal : AwsPrincipal}
    {name : String} :
    principal.reportedAccount? owner = some name ↔
      (principal.account? = none ∧ name = ResourcePolicy.wildcard) ∨
      (∃ id, principal.account? = some id ∧ id.text = name ∧ name ≠ owner.text) := by
  unfold reportedAccount?
  cases hid : principal.account? with
  | none => simp [eq_comm]
  | some id =>
    by_cases howner : id = owner
    · subst howner
      refine iff_of_false (by simp) ?_
      rintro (⟨hnone, -⟩ | ⟨other, hother, hname, hne⟩)
      · cases hnone
      · cases hother
        exact hne hname.symm
    · have hne : id.text ≠ owner.text := fun heq => howner (AccountId.text_inj.mp heq)
      simp only [if_neg howner, Option.some.injEq, reduceCtorEq, false_and, false_or]
      constructor
      · rintro rfl
        exact ⟨id, rfl, rfl, hne⟩
      · rintro ⟨_, rfl, hname, -⟩
        exact hname

end AwsPrincipal

end ResourcePolicy
