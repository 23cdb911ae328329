import Mathlib.Data.List.Forall2
import ResourcePolicy.Text.Quoted

/-!
# What is shown between quotes

How a text is shown is stated here without the function that writes it: a character has an escape of
one letter, or it could not be seen and is given by its code point, or it stands for itself. What is
written is just that. It can be read in one way only, so no two texts are shown alike, and no two
lists of texts. Printable ASCII is shown as it is, quotes and backslashes apart.
-/

namespace ResourcePolicy

/-- The characters that have an escape of one letter, each with its letter. -/
def letterEscapes : List (Char × Char) :=
  [('"', '"'), ('\\', '\\'), ('\x00', '0'), ('\t', 't'), ('\r', 'r'), ('\n', 'n')]

/-- The code point of the character lies in one of the runs. -/
def InRuns (runs : Array (Nat × Nat)) (c : Char) : Prop :=
  ∃ run ∈ runs, run.1 ≤ c.toNat ∧ c.toNat ≤ run.2

/-- The character could not be seen for itself. -/
def IsHidden (c : Char) : Prop :=
  InRuns unprintableRanges c ∨ InRuns defaultIgnorableRanges c ∨ InRuns extendingMarkRanges c

/-- The character is shown between quotes as these characters. -/
inductive IsShownAs : Char → List Char → Prop where
  | letter {c escape : Char} (hescape : (c, escape) ∈ letterEscapes) : IsShownAs c ['\\', escape]
  | codePoint {c : Char} (hescape : c ∉ letterEscapes.map Prod.fst) (hhidden : IsHidden c) :
      IsShownAs c (['\\', 'u', '\x7b'] ++ Nat.toDigits 16 c.toNat ++ ['\x7d'])
  | itself {c : Char} (hescape : c ∉ letterEscapes.map Prod.fst) (hvisible : ¬ IsHidden c) :
      IsShownAs c [c]

/-- The text is shown character by character between quotes. -/
def IsQuoted (text shown : String) : Prop :=
  ∃ pieces, List.Forall₂ IsShownAs text.toList pieces ∧
    shown = String.ofList (['"'] ++ pieces.flatten ++ ['"'])

/-- The texts are shown in brackets, each between quotes, with commas between them. -/
def IsQuotedList (texts : List String) (shown : String) : Prop :=
  ∃ quotes, List.Forall₂ IsQuoted texts quotes ∧ shown = "[" ++ ", ".intercalate quotes ++ "]"

section Writing

variable {c : Char} {shown : List Char}

/-- A table is searched for a run that has the code point in it. -/
theorem any_runs_iff {runs : Array (Nat × Nat)} :
    (runs.any fun (first, last) => first ≤ c.toNat && c.toNat ≤ last) = true ↔ InRuns runs c := by
  simp only [Array.any_eq_true', Bool.and_eq_true, decide_eq_true_eq, InRuns]

/-- The tables tell which characters are hidden. -/
theorem isHidden_iff : isHidden c = true ↔ IsHidden c := by
  simp only [isHidden, Bool.or_eq_true, isUnprintable, isDefaultIgnorable, isExtendingMark,
    any_runs_iff, IsHidden, or_assoc]

/-- The letters of escapes are used in writing. -/
theorem quotedChar_of_escape {escape : Char} (hescape : (c, escape) ∈ letterEscapes) :
    quotedChar c = ['\\', escape] := by
  have hall : ∀ pair ∈ letterEscapes, quotedChar pair.1 = ['\\', pair.2] := by
    simp only [letterEscapes, List.forall_mem_cons, List.not_mem_nil, false_imp_iff, implies_true]
    exact ⟨rfl, rfl, rfl, rfl, rfl, rfl, trivial⟩
  exact hall _ hescape

/-- Without an escape of one letter only the tables matter. -/
theorem quotedChar_of_not_mem (hescape : c ∉ letterEscapes.map Prod.fst) :
    quotedChar c = if isHidden c then codePointEscape c else [c] := by
  simp only [letterEscapes, List.map_cons, List.map_nil, List.mem_cons, List.not_mem_nil, or_false,
    not_or] at hescape
  obtain ⟨hquote, hbackslash, hnull, htab, hreturn, hnewline⟩ := hescape
  rw [quotedChar, if_neg (not_or.mpr ⟨hquote, hbackslash⟩), if_neg hnull, if_neg htab,
    if_neg hreturn, if_neg hnewline]

/-- A character is written as it is to be shown. -/
theorem isShownAs_iff : IsShownAs c shown ↔ shown = quotedChar c := by
  constructor
  · intro hshown
    cases hshown with
    | letter hescape => exact (quotedChar_of_escape hescape).symm
    | codePoint hescape hhidden =>
      rw [quotedChar_of_not_mem hescape, if_pos (isHidden_iff.mpr hhidden)]
      rfl
    | itself hescape hvisible =>
      rw [quotedChar_of_not_mem hescape, if_neg (mt isHidden_iff.mp hvisible)]
  · rintro rfl
    by_cases hescape : c ∈ letterEscapes.map Prod.fst
    · obtain ⟨⟨_, escape⟩, hpair, rfl⟩ := List.mem_map.mp hescape
      rw [quotedChar_of_escape hpair]
      exact .letter hpair
    · rw [quotedChar_of_not_mem hescape]
      split
      · rename_i hhidden
        exact .codePoint hescape (isHidden_iff.mp hhidden)
      · rename_i hvisible
        exact .itself hescape (mt isHidden_iff.mpr hvisible)

/-- If one side of a relation is computed from the other, so it is for lists. -/
theorem forall₂_iff_eq_map {α β : Type} {R : α → β → Prop} {f : α → β}
    (hcomputed : ∀ x y, R x y ↔ y = f x) {xs : List α} {ys : List β} :
    List.Forall₂ R xs ys ↔ ys = xs.map f := by
  have hrelation : R = fun x y => f x = y :=
    funext fun x => funext fun y => propext ((hcomputed x y).trans eq_comm)
  rw [hrelation, ← List.forall₂_map_left_iff, List.forall₂_eq_eq_eq]
  exact eq_comm

/-- A text is written as it is to be shown. -/
theorem isQuoted_iff {text quote : String} : IsQuoted text quote ↔ quote = quoted text := by
  have hpieces : ∀ pieces, List.Forall₂ IsShownAs text.toList pieces ↔
      pieces = text.toList.map quotedChar :=
    fun _ => forall₂_iff_eq_map (f := quotedChar) fun _ _ => isShownAs_iff
  simp only [IsQuoted, hpieces, exists_eq_left, quoted, List.flatMap]

/-- A list of texts is written as it is to be shown. -/
theorem isQuotedList_iff {texts : List String} {shown : String} :
    IsQuotedList texts shown ↔ shown = quotedList texts := by
  have hquotes : ∀ quotes, List.Forall₂ IsQuoted texts quotes ↔ quotes = texts.map quoted :=
    fun _ => forall₂_iff_eq_map (f := quoted) fun _ _ => isQuoted_iff
  simp only [IsQuotedList, hquotes, exists_eq_left, quotedList]

end Writing

section Reading

/-- The hexadecimal digits are told apart. -/
theorem digitChar_inj {m n : Nat} (hm : m < 16) (hn : n < 16)
    (hdigits : m.digitChar = n.digitChar) : m = n := by
  have hall : ∀ i j : Fin 16, i.val.digitChar = j.val.digitChar → i = j := by decide
  exact congrArg Fin.val (hall ⟨m, hm⟩ ⟨n, hn⟩ hdigits)

/-- A single digit is no number of two digits or more. -/
theorem singleton_ne_toDigits_append {n : Nat} {first last : Char} :
    [first] ≠ Nat.toDigits 16 n ++ [last] := by
  intro hdigits
  have hlength := congrArg List.length hdigits
  have hpositive : 0 < (Nat.toDigits 16 n).length := Nat.length_toDigits_pos
  simp only [List.length_append, List.length_singleton] at hlength
  omega

/-- A number is known by its hexadecimal digits. -/
theorem toDigits_sixteen_inj {m n : Nat} (hdigits : Nat.toDigits 16 m = Nat.toDigits 16 n) :
    m = n := by
  induction m using Nat.strongRecOn generalizing n with
  | ind m ih =>
    rw [Nat.toDigits_eq_if (b := 16) (n := m) (by decide),
      Nat.toDigits_eq_if (b := 16) (n := n) (by decide)] at hdigits
    split at hdigits <;> split at hdigits
    · rename_i hm hn
      exact digitChar_inj hm hn (List.singleton_inj.mp hdigits)
    · exact absurd hdigits singleton_ne_toDigits_append
    · exact absurd hdigits.symm singleton_ne_toDigits_append
    · rename_i hm hn
      obtain ⟨hfront, hlast⟩ := List.append_inj' hdigits rfl
      have hquotient : m / 16 = n / 16 := ih _ (by omega) hfront
      have hremainder : m % 16 = n % 16 :=
        digitChar_inj (by omega) (by omega) (List.singleton_inj.mp hlast)
      omega

/-- A brace is no hexadecimal digit. -/
theorem brace_not_mem_toDigits (n : Nat) : '\x7d' ∉ Nat.toDigits 16 n := by
  induction n using Nat.strongRecOn with
  | ind n ih =>
    have hdigit : ∀ m : Nat, '\x7d' ≠ m.digitChar := fun m => (Nat.digitChar_ne _ rfl).symm
    rw [Nat.toDigits_eq_if (by decide)]
    split
    · simp [hdigit]
    · rename_i hn
      have hfront := ih (n / 16) (by omega)
      simp [hdigit, hfront]

/-- Lists that end before a mark which is in neither of them are told apart by it. -/
theorem append_mark_inj {α : Type} {mark : α} {xs ys rest otherRest : List α} (hxs : mark ∉ xs)
    (hys : mark ∉ ys) (hsame : xs ++ mark :: rest = ys ++ mark :: otherRest) :
    xs = ys ∧ rest = otherRest := by
  induction xs generalizing ys with
  | nil =>
    cases ys with
    | nil => exact ⟨rfl, (List.cons.inj hsame).2⟩
    | cons y ys => exact absurd (List.cons.inj hsame).1 (List.ne_of_not_mem_cons hys)
  | cons x xs ih =>
    cases ys with
    | nil => exact absurd (List.cons.inj hsame).1.symm (List.ne_of_not_mem_cons hxs)
    | cons y ys =>
      obtain ⟨rfl, htail⟩ := List.cons.inj hsame
      obtain ⟨rfl, hrest⟩ := ih (List.not_mem_of_not_mem_cons hxs)
        (List.not_mem_of_not_mem_cons hys) htail
      exact ⟨rfl, hrest⟩

variable {c d : Char} {shown other rest otherRest : List Char}

/-- A character is known by what it is shown as, and so is where that ends. -/
theorem IsShownAs.append_inj (hc : IsShownAs c shown) (hd : IsShownAs d other)
    (hsame : shown ++ rest = other ++ otherRest) : c = d ∧ rest = otherRest := by
  have hletters : ∀ pair ∈ letterEscapes, pair.2 ≠ 'u' ∧
      ∀ other ∈ letterEscapes, pair.2 = other.2 → pair.1 = other.1 := by decide
  have hbackslash : ∀ {e : Char}, e ∉ letterEscapes.map Prod.fst → e ≠ '\\' := by
    rintro _ hescape rfl
    exact hescape (by decide)
  cases hc with
  | letter hescape =>
    cases hd with
    | letter hother =>
      obtain ⟨hletter, hrest⟩ := List.cons.inj (List.cons.inj hsame).2
      exact ⟨(hletters _ hescape).2 _ hother hletter, hrest⟩
    | codePoint =>
      have hletter := (List.cons.inj (List.cons.inj hsame).2).1
      exact absurd hletter (hletters _ hescape).1
    | itself hescape => exact absurd (List.cons.inj hsame).1.symm (hbackslash hescape)
  | codePoint =>
    cases hd with
    | letter hescape =>
      have hletter := (List.cons.inj (List.cons.inj hsame).2).1
      exact absurd hletter.symm (hletters _ hescape).1
    | codePoint =>
      have hdigits : Nat.toDigits 16 c.toNat ++ '\x7d' :: rest =
          Nat.toDigits 16 d.toNat ++ '\x7d' :: otherRest := by simpa using hsame
      obtain ⟨hnumber, hrest⟩ := append_mark_inj (brace_not_mem_toDigits _)
        (brace_not_mem_toDigits _) hdigits
      exact ⟨Char.toNat_inj.mp (toDigits_sixteen_inj hnumber), hrest⟩
    | itself hescape => exact absurd (List.cons.inj hsame).1.symm (hbackslash hescape)
  | itself hescape =>
    cases hd with
    | letter => exact absurd (List.cons.inj hsame).1 (hbackslash hescape)
    | codePoint => exact absurd (List.cons.inj hsame).1 (hbackslash hescape)
    | itself => exact List.cons.inj hsame

/-- No character is shown by a quote alone. -/
theorem IsShownAs.append_ne_quote (hc : IsShownAs c shown) :
    shown ++ rest ≠ '"' :: otherRest := by
  intro hsame
  cases hc with
  | letter => exact absurd (List.cons.inj hsame).1 (by decide)
  | codePoint => exact absurd (List.cons.inj hsame).1 (by decide)
  | itself hescape =>
    obtain ⟨rfl, -⟩ := List.cons.inj hsame
    exact hescape (by decide)

/-- Characters are known by what they are shown as up to the closing quote. -/
theorem flatten_append_inj {cs ds : List Char} {pieces others : List (List Char)}
    (hcs : List.Forall₂ IsShownAs cs pieces) (hds : List.Forall₂ IsShownAs ds others)
    (hsame : pieces.flatten ++ '"' :: rest = others.flatten ++ '"' :: otherRest) :
    cs = ds ∧ rest = otherRest := by
  induction hcs generalizing ds others with
  | nil =>
    cases hds with
    | nil => exact ⟨rfl, (List.cons.inj hsame).2⟩
    | cons hd hds =>
      rw [List.flatten_cons, List.append_assoc] at hsame
      exact absurd hsame.symm hd.append_ne_quote
  | cons hc hcs ih =>
    cases hds with
    | nil =>
      rw [List.flatten_cons, List.append_assoc] at hsame
      exact absurd hsame hc.append_ne_quote
    | cons hd hds =>
      simp only [List.flatten_cons, List.append_assoc] at hsame
      obtain ⟨rfl, htail⟩ := hc.append_inj hd hsame
      obtain ⟨rfl, hrest⟩ := ih hds htail
      exact ⟨rfl, hrest⟩

/-- A text is known by what it is shown as, and so is where that ends. -/
theorem IsQuoted.append_inj {text otherText quote otherQuote : String}
    (hquoted : IsQuoted text quote) (hother : IsQuoted otherText otherQuote)
    (hsame : quote.toList ++ rest = otherQuote.toList ++ otherRest) :
    text = otherText ∧ rest = otherRest := by
  obtain ⟨pieces, hpieces, rfl⟩ := hquoted
  obtain ⟨others, hothers, rfl⟩ := hother
  have hinner : pieces.flatten ++ '"' :: rest = others.flatten ++ '"' :: otherRest := by
    simpa using hsame
  obtain ⟨htext, hrest⟩ := flatten_append_inj hpieces hothers hinner
  exact ⟨String.toList_inj.mp htext, hrest⟩

/-- No text is shown by a closing bracket alone. -/
theorem IsQuoted.append_ne_bracket {text quote : String} (hquoted : IsQuoted text quote) :
    quote.toList ++ rest ≠ [']'] := by
  obtain ⟨_, -, rfl⟩ := hquoted
  simp

/-- What follows an item of a list that is shown: the bracket, or a comma and the next item. -/
def afterItem : List String → List Char
  | [] => [']']
  | quote :: quotes => ',' :: ' ' :: (quote.toList ++ afterItem quotes)

/-- A list that is not empty is shown as its first item and what follows it. -/
theorem intercalate_append (quote : String) (quotes : List String) :
    [',', ' '].intercalate ((quote :: quotes).map String.toList) ++ [']'] =
      quote.toList ++ afterItem quotes := by
  induction quotes generalizing quote with
  | nil => simp [afterItem]
  | cons next quotes ih =>
    rw [List.map_cons, List.map_cons, List.intercalate_cons_cons, ← List.map_cons,
      List.append_assoc, List.append_assoc, ih]
    rfl

/-- The further texts are known by what they are shown as. -/
theorem afterItem_inj {texts otherTexts quotes otherQuotes : List String}
    (hquotes : List.Forall₂ IsQuoted texts quotes)
    (hothers : List.Forall₂ IsQuoted otherTexts otherQuotes)
    (hsame : afterItem quotes = afterItem otherQuotes) : texts = otherTexts := by
  induction hquotes generalizing otherTexts otherQuotes with
  | nil =>
    cases hothers with
    | nil => rfl
    | cons => exact absurd (List.cons.inj hsame).1 (by decide)
  | cons hquote hquotes ih =>
    cases hothers with
    | nil => exact absurd (List.cons.inj hsame).1 (by decide)
    | cons hother hothers =>
      have hitems := (List.cons.inj (List.cons.inj hsame).2).2
      obtain ⟨rfl, hrest⟩ := hquote.append_inj hother hitems
      rw [ih hothers hrest]

/-- The list of texts is known by what it is shown as. -/
theorem IsQuotedList.inj {texts otherTexts : List String} {shown : String}
    (hshown : IsQuotedList texts shown) (hother : IsQuotedList otherTexts shown) :
    texts = otherTexts := by
  obtain ⟨quotes, hquotes, rfl⟩ := hshown
  obtain ⟨otherQuotes, hothers, hsame⟩ := hother
  have hitems : [',', ' '].intercalate (quotes.map String.toList) ++ [']'] =
      [',', ' '].intercalate (otherQuotes.map String.toList) ++ [']'] := by
    simpa [String.toList_intercalate] using congrArg String.toList hsame
  cases hquotes with
  | nil =>
    cases hothers with
    | nil => rfl
    | cons hquote =>
      rw [intercalate_append] at hitems
      exact absurd hitems.symm hquote.append_ne_bracket
  | cons hquote hquotes =>
    rw [intercalate_append] at hitems
    cases hothers with
    | nil => exact absurd hitems hquote.append_ne_bracket
    | cons hother hothers =>
      rw [intercalate_append] at hitems
      obtain ⟨rfl, hrest⟩ := hquote.append_inj hother hitems
      rw [afterItem_inj hquotes hothers hrest]

end Reading

section PrintableAscii

/-- The character is printable ASCII, and neither a quote nor a backslash. -/
def IsPlainAscii (c : Char) : Prop := 32 ≤ c.toNat ∧ c.toNat ≤ 126 ∧ c ≠ '"' ∧ c ≠ '\\'

instance : DecidablePred IsPlainAscii := fun c =>
  inferInstanceAs (Decidable (32 ≤ c.toNat ∧ c.toNat ≤ 126 ∧ c ≠ '"' ∧ c ≠ '\\'))

variable {c : Char}

/-- A character is not in a table whose runs lie outside printable ASCII. -/
theorem IsPlainAscii.not_inRuns (hplain : IsPlainAscii c) {runs : Array (Nat × Nat)}
    (houtside : ∀ run ∈ runs.toList, run.2 < 32 ∨ 126 < run.1) : ¬ InRuns runs c := by
  obtain ⟨hfrom, hto, -, -⟩ := hplain
  rintro ⟨run, hrun, hin⟩
  have hrunOutside := houtside run (Array.mem_toList_iff.mpr hrun)
  omega

/-- Printable ASCII is in none of the tables. -/
theorem IsPlainAscii.not_isHidden (hplain : IsPlainAscii c) : ¬ IsHidden c := by
  rintro (h | h | h)
  · exact hplain.not_inRuns (by decide +kernel) h
  · exact hplain.not_inRuns (by decide +kernel) h
  · exact hplain.not_inRuns (by decide +kernel) h

/-- Printable ASCII is shown as it is, quotes and backslashes apart. -/
theorem IsPlainAscii.isShownAs (hplain : IsPlainAscii c) : IsShownAs c [c] := by
  have hescapes : ∀ pair ∈ letterEscapes, ¬ IsPlainAscii pair.1 := by decide
  refine .itself (fun hescape => ?_) hplain.not_isHidden
  obtain ⟨pair, hpair, rfl⟩ := List.mem_map.mp hescape
  exact hescapes pair hpair hplain

/-- A text of such characters is shown as it is. -/
theorem isQuoted_of_plain {text : String} (hplain : text.toList.all (IsPlainAscii ·) = true) :
    IsQuoted text ("\"" ++ text ++ "\"") := by
  refine ⟨text.toList.map ([·]), ?_, ?_⟩
  · rw [List.forall₂_map_right_iff, List.forall₂_same]
    intro c hc
    have hc : IsPlainAscii c := of_decide_eq_true (List.all_eq_true.mp hplain c hc)
    exact hc.isShownAs
  · rw [← String.toList_inj]
    simp [← List.flatMap_def]

end PrintableAscii

end ResourcePolicy
