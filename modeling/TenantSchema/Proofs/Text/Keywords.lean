import TenantSchema.Proofs.Text.Trimming
import TenantSchema.Text.Keyword

namespace TenantSchema.Text

/-!
# Letters of keywords

A keyword is found letter by letter.  A character that stands for a letter is one of its two
cases, apart from the few characters beyond the seven-bit range that fold to `i`, `s` or `k`.
Without those letters a keyword that a pattern finds is also found at the start of a line.
-/

theorem toNat_toUpper (character : Char) :
    character.toUpper.toNat =
      if 97 ≤ character.toNat ∧ character.toNat ≤ 122 then
        character.toNat - 32
      else
        character.toNat := by
  have bounds :
      ('a'.val ≤ character.val ∧ character.val ≤ 'z'.val) ↔
        97 ≤ character.toNat ∧ character.toNat ≤ 122 := by
    simp only [UInt32.le_iff_toNat_le]
    rfl
  unfold Char.toUpper
  by_cases small : 97 ≤ character.toNat ∧ character.toNat ≤ 122
  · rw [dif_pos (bounds.mpr small), if_pos small]
    have shift : ('A'.val - 'a'.val).toNat = 2 ^ 32 - 32 := rfl
    have sameCode : character.val.toNat = character.toNat := rfl
    rw [← Char.toNat_val, UInt32.toNat_add, shift, sameCode]
    omega
  · rw [dif_neg (small ∘ bounds.mp), if_neg small]

theorem toNat_toLower (character : Char) :
    character.toLower.toNat =
      if 65 ≤ character.toNat ∧ character.toNat ≤ 90 then
        character.toNat + 32
      else
        character.toNat := by
  have bounds :
      ('A'.val ≤ character.val ∧ character.val ≤ 'Z'.val) ↔
        65 ≤ character.toNat ∧ character.toNat ≤ 90 := by
    simp only [UInt32.le_iff_toNat_le]
    rfl
  unfold Char.toLower
  by_cases capital : 65 ≤ character.toNat ∧ character.toNat ≤ 90
  · rw [dif_pos (bounds.mpr capital), if_pos capital]
    have shift : ('a'.val - 'A'.val).toNat = 32 := rfl
    have sameCode : character.val.toNat = character.toNat := rfl
    rw [← Char.toNat_val, UInt32.toNat_add, shift, sameCode]
    omega
  · rw [dif_neg (capital ∘ bounds.mp), if_neg capital]

/-- A character is its upper-case form or the small letter of it. -/
theorem eq_or_eq_toLower_of_toUpper
    {character capital : Char}
    (upper : character.toUpper = capital) :
    character = capital ∨ character = capital.toLower := by
  subst upper
  simp only [← Char.toNat_inj, toNat_toLower, toNat_toUpper]
  grind

/-- A character is its lower-case form or the capital letter of it. -/
theorem eq_or_eq_toUpper_of_toLower
    {character small : Char}
    (lower : character.toLower = small) :
    character = small ∨ character = small.toUpper := by
  subst lower
  simp only [← Char.toNat_inj, toNat_toLower, toNat_toUpper]
  grind

theorem toUpper_toLower (character : Char) :
    character.toLower.toUpper = character.toUpper := by
  simp only [← Char.toNat_inj, toNat_toLower, toNat_toUpper]
  grind

/-- Whether no character beyond the seven-bit range folds to a letter. -/
def IsPlainLetter (letter : Char) : Prop :=
  letter ≠ 'i' ∧ letter ≠ 's' ∧ letter ≠ 'k'

instance : DecidablePred IsPlainLetter :=
  fun letter => inferInstanceAs (Decidable (letter ≠ 'i' ∧ letter ≠ 's' ∧ letter ≠ 'k'))

theorem toLower_of_foldsTo
    {letter character : Char}
    (plain : IsPlainLetter letter)
    (folds : foldsTo letter character = true) :
    character.toLower = letter := by
  obtain ⟨notI, notS, notK⟩ := plain
  unfold foldsTo at folds
  split at folds
  · exact (notI rfl).elim
  · exact (notS rfl).elim
  · exact (notK rfl).elim
  · simpa using folds

/-- What a pattern takes for a plain letter, a line start takes for its capital. -/
theorem capitalizesTo_of_foldsTo
    {letter character : Char}
    (plain : IsPlainLetter letter)
    (folds : foldsTo letter character = true) :
    capitalizesTo letter.toUpper character = true := by
  have upper : character.toUpper = letter.toUpper := by
    rw [← toLower_of_foldsTo plain folds, toUpper_toLower]
  simp [capitalizesTo, upper]

theorem exists_cons_of_dropKeyword?
    {letter : Char}
    {keyword text after : Text}
    (found : dropKeyword? (letter :: keyword) text = some after) :
    ∃ first rest,
      text = first :: rest ∧
        foldsTo letter first = true ∧
        dropKeyword? keyword rest = some after := by
  cases text with
  | nil =>
      cases found
  | cons first rest =>
      rw [dropKeyword?] at found
      split at found
      case isTrue folds =>
        exact ⟨first, rest, rfl, folds, found⟩
      case isFalse =>
        cases found

theorem exists_cons_of_startsWithCapitals
    {capital : Char}
    {keyword text : Text}
    (starts : startsWithCapitals (capital :: keyword) text = true) :
    ∃ first rest,
      text = first :: rest ∧
        capitalizesTo capital first = true ∧
        startsWithCapitals keyword rest = true := by
  cases text with
  | nil =>
      cases starts
  | cons first rest =>
      rw [startsWithCapitals, Bool.and_eq_true] at starts
      exact ⟨first, rest, rfl, starts⟩

/-- What follows a keyword is the text without as many characters. -/
theorem eq_drop_of_dropKeyword?
    {keyword text after : Text}
    (found : dropKeyword? keyword text = some after) :
    after = text.drop keyword.length := by
  obtain ⟨lead, rfl, sameLength⟩ := dropKeyword?_suffix found
  rw [← sameLength, List.drop_left]

/-- The characters whose upper-case form is a capital. -/
theorem cases_of_capitalizesTo
    {capital character : Char}
    (capitalizes : capitalizesTo capital character = true) :
    character = capital ∨ character = capital.toLower ∨ character = 'ı' ∨ character = 'ſ' := by
  unfold capitalizesTo at capitalizes
  rw [Bool.or_eq_true, beq_iff_eq] at capitalizes
  rcases capitalizes with upper | special
  · rcases eq_or_eq_toLower_of_toUpper upper with same | small
    · exact .inl same
    · exact .inr (.inl small)
  · split at special
    · exact .inr (.inr (.inl (beq_iff_eq.mp special)))
    · exact .inr (.inr (.inr (beq_iff_eq.mp special)))
    · cases special

/-- A cut that spares the characters of a keyword leaves the keyword at the start. -/
theorem startsWithCapitals_takeWhile
    {test : Char → Bool}
    {keyword text : Text}
    (spared :
      ∀ capital ∈ keyword, ∀ character, capitalizesTo capital character = true →
        test character = true)
    (starts : startsWithCapitals keyword text = true) :
    startsWithCapitals keyword (text.takeWhile test) = true := by
  induction keyword generalizing text with
  | nil =>
      rfl
  | cons capital keyword inductionHypothesis =>
      rw [List.forall_mem_cons] at spared
      obtain ⟨character, rest, rfl, capitalizes, more⟩ :=
        exists_cons_of_startsWithCapitals starts
      rw [List.takeWhile_cons_of_pos (spared.1 character capitalizes), startsWithCapitals,
        capitalizes, Bool.true_and]
      exact inductionHypothesis spared.2 more

/-- A keyword that does not end in white space is not trimmed off. -/
theorem startsWithCapitals_trimRight
    {keyword text : Text}
    (solid :
      ∀ capital, keyword.getLast? = some capital →
        ∀ character, capitalizesTo capital character = true → isBlank character = false)
    (starts : startsWithCapitals keyword text = true) :
    startsWithCapitals keyword (trimRight text) = true := by
  induction keyword generalizing text with
  | nil =>
      rfl
  | cons capital keyword inductionHypothesis =>
      obtain ⟨character, rest, rfl, capitalizes, more⟩ :=
        exists_cons_of_startsWithCapitals starts
      cases keyword with
      | nil =>
          have notBlank : allBlank (character :: rest) = false := by
            rw [allBlank, List.all_cons, solid capital rfl character capitalizes,
              Bool.false_and]
          rw [trimRight_cons_of_not_allBlank notBlank, startsWithCapitals, capitalizes]
          rfl
      | cons next others =>
          rw [List.getLast?_cons_cons] at solid
          have kept := inductionHypothesis solid more
          have notBlank : allBlank (character :: rest) = false := by
            rw [Bool.eq_false_iff]
            intro blank
            rw [allBlank, List.all_cons, Bool.and_eq_true] at blank
            rw [trimRight_eq_nil_iff.mpr blank.2] at kept
            cases kept
          rw [trimRight_cons_of_not_allBlank notBlank, startsWithCapitals, capitalizes,
            Bool.true_and]
          exact kept

theorem startsWithCapitals_drop
    (first : Text)
    {second text : Text}
    (starts : startsWithCapitals (first ++ second) text = true) :
    startsWithCapitals second (text.drop first.length) = true := by
  induction first generalizing text with
  | nil =>
      exact starts
  | cons capital keyword inductionHypothesis =>
      obtain ⟨character, rest, rfl, _, more⟩ := exists_cons_of_startsWithCapitals starts
      exact inductionHypothesis more

theorem startsWithCapitals_of_append
    {first second text : Text}
    (starts : startsWithCapitals (first ++ second) text = true) :
    startsWithCapitals first text = true := by
  induction first generalizing text with
  | nil =>
      rfl
  | cons capital keyword inductionHypothesis =>
      obtain ⟨character, rest, rfl, capitalizes, more⟩ :=
        exists_cons_of_startsWithCapitals starts
      rw [startsWithCapitals, capitalizes, Bool.true_and]
      exact inductionHypothesis more

/-- A keyword of plain letters that a pattern finds is found by its capitals. -/
theorem startsWithCapitals_of_dropKeyword?
    {keyword text after : Text}
    (plain : ∀ letter ∈ keyword, IsPlainLetter letter)
    (found : dropKeyword? keyword text = some after) :
    startsWithCapitals (keyword.map Char.toUpper) text = true := by
  induction keyword generalizing text with
  | nil =>
      rfl
  | cons letter keyword inductionHypothesis =>
      rw [List.forall_mem_cons] at plain
      obtain ⟨character, rest, rfl, folds, more⟩ := exists_cons_of_dropKeyword? found
      rw [List.map_cons, startsWithCapitals, Bool.and_eq_true]
      constructor
      · exact capitalizesTo_of_foldsTo plain.1 folds
      · exact inductionHypothesis plain.2 more

/-- What follows a text follows what its keyword leaves. -/
theorem dropKeyword?_append
    {keyword text after : Text}
    (found : dropKeyword? keyword text = some after)
    (later : Text) :
    dropKeyword? keyword (text ++ later) = some (after ++ later) := by
  induction keyword generalizing text with
  | nil =>
      cases found
      rfl
  | cons letter keyword inductionHypothesis =>
      obtain ⟨first, rest, rfl, folds, more⟩ := exists_cons_of_dropKeyword? found
      rw [List.cons_append, dropKeyword?, if_pos folds]
      exact inductionHypothesis more

/-- The characters that stand for a letter. -/
theorem cases_of_foldsTo
    {letter character : Char}
    (folds : foldsTo letter character = true) :
    character = letter ∨ character = letter.toUpper ∨
      (letter = 'i' ∧ (character = 'ı' ∨ character = 'İ')) ∨
      (letter = 's' ∧ character = 'ſ') ∨
      (letter = 'k' ∧ character = '\u212A') := by
  unfold foldsTo at folds
  rw [Bool.or_eq_true, beq_iff_eq] at folds
  rcases folds with lower | special
  · rcases eq_or_eq_toUpper_of_toLower lower with same | capital
    · exact .inl same
    · exact .inr (.inl capital)
  · refine .inr (.inr ?_)
    split at special
    · rw [Bool.or_eq_true, beq_iff_eq, beq_iff_eq] at special
      exact .inl ⟨rfl, special⟩
    · exact .inr (.inl ⟨rfl, beq_iff_eq.mp special⟩)
    · exact .inr (.inr ⟨rfl, beq_iff_eq.mp special⟩)
    · cases special

theorem not_isBlank_of_foldsTo
    {letter character : Char}
    (small : isBlank letter = false)
    (capital : isBlank letter.toUpper = false)
    (folds : foldsTo letter character = true) :
    isBlank character = false := by
  rcases cases_of_foldsTo folds with
    rfl | rfl | ⟨_, rfl | rfl⟩ | ⟨_, rfl⟩ | ⟨_, rfl⟩
  · exact small
  · exact capital
  all_goals decide

theorem isWord_of_foldsTo
    {letter character : Char}
    (small : isWord letter = true)
    (capital : isWord letter.toUpper = true)
    (folds : foldsTo letter character = true) :
    isWord character = true := by
  rcases cases_of_foldsTo folds with
    rfl | rfl | ⟨_, rfl | rfl⟩ | ⟨_, rfl⟩ | ⟨_, rfl⟩
  · exact small
  · exact capital
  all_goals decide +kernel

theorem toNat_of_isLower
    {letter : Char}
    (small : letter.isLower = true) :
    97 ≤ letter.toNat ∧ letter.toNat ≤ 122 := by
  unfold Char.isLower at small
  simp only [Bool.and_eq_true, decide_eq_true_eq, UInt32.le_iff_toNat_le] at small
  exact small

theorem toNat_of_isUpper
    {capital : Char}
    (isCapital : capital.isUpper = true) :
    65 ≤ capital.toNat ∧ capital.toNat ≤ 90 := by
  unfold Char.isUpper at isCapital
  simp only [decide_eq_true_eq, UInt32.le_iff_toNat_le, ge_iff_le] at isCapital
  exact isCapital

theorem isAlpha_iff
    {character : Char} :
    character.isAlpha = true ↔
      (65 ≤ character.toNat ∧ character.toNat ≤ 90) ∨
        (97 ≤ character.toNat ∧ character.toNat ≤ 122) := by
  unfold Char.isAlpha Char.isUpper Char.isLower
  simp only [Bool.or_eq_true, Bool.and_eq_true, decide_eq_true_eq, UInt32.le_iff_toNat_le,
    ge_iff_le]
  rfl

/-- A character stands for one small letter at most. -/
theorem foldsTo_unique
    {first second character : Char}
    (firstSmall : first.isLower = true)
    (secondSmall : second.isLower = true)
    (firstFolds : foldsTo first character = true)
    (secondFolds : foldsTo second character = true) :
    first = second := by
  have firstRange := toNat_of_isLower firstSmall
  have secondRange := toNat_of_isLower secondSmall
  have firstCases := cases_of_foldsTo firstFolds
  have secondCases := cases_of_foldsTo secondFolds
  simp only [← Char.toNat_inj, toNat_toUpper, firstRange, secondRange, and_self,
    if_true, Char.reduceToNat] at firstCases secondCases ⊢
  omega

/-- White space at the end of a text is no part of a keyword. -/
theorem dropKeyword?_append_of_allBlank
    {keyword blanks : Text}
    (solid :
      ∀ letter ∈ keyword, isBlank letter = false ∧ isBlank letter.toUpper = false)
    (blank : allBlank blanks = true)
    (text : Text) :
    dropKeyword? keyword (text ++ blanks) =
      (dropKeyword? keyword text).map (· ++ blanks) := by
  induction keyword generalizing text with
  | nil =>
      rfl
  | cons letter keyword inductionHypothesis =>
      rw [List.forall_mem_cons] at solid
      cases text with
      | cons first rest =>
          rw [List.cons_append, dropKeyword?, dropKeyword?]
          split
          · exact inductionHypothesis solid.2 rest
          · rfl
      | nil =>
          cases blanks with
          | nil =>
              rfl
          | cons first others =>
              have different : ¬ foldsTo letter first = true := by
                intro folds
                have notBlank := not_isBlank_of_foldsTo solid.1.1 solid.1.2 folds
                rw [allBlank, List.all_cons, notBlank] at blank
                cases blank
              exact if_neg different

/-- No white space belongs to a word. -/
theorem isWord_of_isBlank
    {character : Char}
    (blank : isBlank character = true) :
    isWord character = false := by
  have beyond :
      ∀ code ∈
        [0x85, 0xA0, 0x1680, 0x2000, 0x2001, 0x2002, 0x2003, 0x2004, 0x2005, 0x2006, 0x2007,
          0x2008, 0x2009, 0x200A, 0x2028, 0x2029, 0x202F, 0x205F, 0x3000],
        inRanges wordRanges code = false := by
    decide +kernel
  simp only [isBlank, Bool.or_eq_true, Bool.and_eq_true, decide_eq_true_eq,
    beq_iff_eq] at blank
  unfold isWord
  split
  case isTrue small =>
    rw [Bool.or_eq_false_iff]
    constructor
    · rw [Bool.eq_false_iff]
      intro alphanumeric
      have range := toNat_of_isAlphanum alphanumeric
      omega
    · rw [beq_eq_false_iff_ne]
      rintro rfl
      have code : '_'.toNat = 95 := rfl
      omega
  case isFalse large =>
    apply beyond
    simp only [List.mem_cons, List.not_mem_nil, or_false]
    omega

theorem wordEndsAt_append
    {text later : Text}
    (ends : wordEndsAt text = true)
    (laterEnds : wordEndsAt later = true) :
    wordEndsAt (text ++ later) = true := by
  cases text with
  | nil =>
      exact laterEnds
  | cons first rest =>
      exact ends

theorem wordEndsAt_of_allBlank
    {text : Text}
    (blank : allBlank text = true) :
    wordEndsAt text = true := by
  cases text with
  | nil =>
      rfl
  | cons first rest =>
      rw [allBlank, List.all_cons, Bool.and_eq_true] at blank
      rw [wordEndsAt, isWord_of_isBlank blank.1]
      rfl

/-- Whether a word starts with some character of a text is not changed by white space after it. -/
theorem anyWordStart_append_of_allBlank
    {accepts : Text → Bool}
    (nothing : accepts [] = false)
    (blind :
      ∀ text blanks, allBlank blanks = true → accepts (text ++ blanks) = accepts text)
    {blanks : Text}
    (blank : allBlank blanks = true)
    (afterWord : Bool)
    (text : Text) :
    anyWordStart accepts afterWord (text ++ blanks) = anyWordStart accepts afterWord text := by
  induction text generalizing afterWord with
  | cons first rest inductionHypothesis =>
      rw [List.cons_append, anyWordStart, anyWordStart, inductionHypothesis,
        ← List.cons_append, blind _ _ blank]
  | nil =>
      rw [List.nil_append, anyWordStart]
      induction blanks generalizing afterWord with
      | nil =>
          rfl
      | cons first others inductionHypothesis =>
          have refused : accepts (first :: others) = false := by
            rw [← nothing]
            exact blind [] _ blank
          rw [allBlank, List.all_cons, Bool.and_eq_true] at blank
          rw [anyWordStart, refused, inductionHypothesis blank.2, Bool.and_false,
            Bool.or_false]

end TenantSchema.Text
