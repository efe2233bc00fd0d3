import TenantSchema.Proofs.Text.Patterns

namespace TenantSchema.Text

/-!
# Words in capitals

The words at the start of a line are given in capitals and spelt in any case.  Such a word is
made of word characters, it is found where a pattern looks for the same word, and a pattern
for another word does not match there.
-/

/-- Whether a text is a word, given in capitals, in any case. -/
def SpellsCapitals (keyword text : Text) : Prop :=
  List.Forall₂ (fun capital character => capitalizesTo capital character = true)
    keyword text

instance (keyword text : Text) : Decidable (SpellsCapitals keyword text) :=
  inferInstanceAs
    (Decidable (List.Forall₂ (fun capital character => capitalizesTo capital character = true)
      keyword text))

/-- A character beyond the seven-bit range that stands for a capital has no upper-case form. -/
theorem toUpper_or_special_of_capitalizesTo
    {capital character : Char}
    (capitalizes : capitalizesTo capital character = true) :
    character.toUpper = capital ∨
      (capital = 'I' ∧ character = 'ı') ∨ (capital = 'S' ∧ character = 'ſ') := by
  unfold capitalizesTo at capitalizes
  rw [Bool.or_eq_true, beq_iff_eq] at capitalizes
  refine capitalizes.imp_right fun special => ?_
  split at special
  · exact .inl ⟨rfl, beq_iff_eq.mp special⟩
  · exact .inr ⟨rfl, beq_iff_eq.mp special⟩
  · cases special

/-- A character that stands for a letter and for a capital stands for two cases of one letter. -/
theorem toUpper_eq_of_foldsTo
    {letter capital character : Char}
    (small : letter.isLower = true)
    (isCapital : capital.isUpper = true)
    (folds : foldsTo letter character = true)
    (capitalizes : capitalizesTo capital character = true) :
    letter.toUpper = capital := by
  have smallRange := toNat_of_isLower small
  have capitalRange := toNat_of_isUpper isCapital
  have foldCases := cases_of_foldsTo folds
  have capitalCases := toUpper_or_special_of_capitalizesTo capitalizes
  simp only [← Char.toNat_inj, toNat_toUpper, smallRange, and_self, if_true,
    Char.reduceToNat] at foldCases capitalCases ⊢
  grind

/-- A plain letter of a pattern matches what stands for its capital. -/
theorem foldsTo_of_capitalizesTo
    {letter character : Char}
    (small : letter.isLower = true)
    (plain : IsPlainLetter letter)
    (capitalizes : capitalizesTo letter.toUpper character = true) :
    foldsTo letter character = true := by
  have smallRange := toNat_of_isLower small
  have capitalCases := toUpper_or_special_of_capitalizesTo capitalizes
  have same : character.toLower = letter := by
    obtain ⟨notI, notS, _⟩ := plain
    simp only [ne_eq, ← Char.toNat_inj, toNat_toUpper, toNat_toLower, smallRange, and_self,
      if_true, Char.reduceToNat] at notI notS capitalCases ⊢
    grind
  unfold foldsTo
  rw [same, beq_self_eq_true, Bool.true_or]

theorem isWord_of_capitalizesTo
    {capital character : Char}
    (isCapital : capital.isUpper = true)
    (capitalizes : capitalizesTo capital character = true) :
    isWord character = true := by
  have capitalRange := toNat_of_isUpper isCapital
  rcases toUpper_or_special_of_capitalizesTo capitalizes with upper | ⟨_, rfl⟩ | ⟨_, rfl⟩
  · apply isWord_of_isAlphanum
    have letter : character.isAlpha = true := by
      rw [← Char.toNat_inj, toNat_toUpper] at upper
      rw [isAlpha_iff]
      grind
    rw [Char.isAlphanum, letter, Bool.true_or]
  all_goals decide +kernel

/-- A character stands for one capital at most. -/
theorem capitalizesTo_unique
    {first second character : Char}
    (firstCapital : first.isUpper = true)
    (secondCapital : second.isUpper = true)
    (firstCapitalizes : capitalizesTo first character = true)
    (secondCapitalizes : capitalizesTo second character = true) :
    first = second := by
  have firstRange := toNat_of_isUpper firstCapital
  have secondRange := toNat_of_isUpper secondCapital
  have firstCases := toUpper_or_special_of_capitalizesTo firstCapitalizes
  have secondCases := toUpper_or_special_of_capitalizesTo secondCapitalizes
  simp only [← Char.toNat_inj, toNat_toUpper, Char.reduceToNat] at firstCases secondCases ⊢
  grind

theorem capitalizesTo_space_iff
    {character : Char} :
    capitalizesTo ' ' character = true ↔ character = ' ' := by
  constructor
  · intro capitalizes
    rcases toUpper_or_special_of_capitalizesTo capitalizes with upper | ⟨isI, _⟩ | ⟨isS, _⟩
    · exact (eq_or_eq_toLower_of_toUpper upper).elim id id
    · cases isI
    · cases isS
  · rintro rfl
    rfl

/-- Whether two words differ in a letter that both of them have. -/
def differInLetter : Text → Text → Bool
  | first :: firstRest, second :: secondRest =>
      first != second || differInLetter firstRest secondRest
  | _, _ =>
      false

/-- A pattern for one word does not match where another one is spelt. -/
theorem dropKeyword?_eq_none_of_differ
    {keyword capitals text : Text}
    (small : ∀ letter ∈ keyword, letter.isLower = true)
    (areCapitals : ∀ capital ∈ capitals, capital.isUpper = true)
    (spells : SpellsCapitals capitals text)
    (differ : differInLetter (keyword.map Char.toUpper) capitals = true)
    (later : Text) :
    dropKeyword? keyword (text ++ later) = none := by
  induction spells generalizing keyword with
  | nil =>
      cases keyword <;> cases differ
  | cons capitalizes _ inductionHypothesis =>
      cases keyword with
      | nil =>
          cases differ
      | cons letter keyword =>
          rw [List.forall_mem_cons] at small areCapitals
          rw [List.cons_append, dropKeyword?]
          split
          case isTrue folds =>
            rw [List.map_cons, differInLetter,
              toUpper_eq_of_foldsTo small.1 areCapitals.1 folds capitalizes, bne_self_eq_false,
              Bool.false_or] at differ
            exact inductionHypothesis small.2 areCapitals.2 differ
          case isFalse =>
            rfl

/-- Whether a keyword is made of small letters that no character beyond them folds to. -/
def IsPlainKeyword (keyword : Text) : Prop :=
  ∀ letter ∈ keyword, letter.isLower = true ∧ IsPlainLetter letter

instance : DecidablePred IsPlainKeyword :=
  fun keyword => List.decidableBAll _ keyword

/-- A pattern for a word matches where the word is spelt. -/
theorem dropKeyword?_of_spellsCapitals
    {keyword text : Text}
    (plain : IsPlainKeyword keyword)
    (spells : SpellsCapitals (keyword.map Char.toUpper) text)
    (later : Text) :
    dropKeyword? keyword (text ++ later) = some later := by
  induction keyword generalizing text with
  | nil =>
      cases spells
      rfl
  | cons letter keyword inductionHypothesis =>
      obtain ⟨⟨small, plainLetter⟩, plainRest⟩ := List.forall_mem_cons.mp plain
      cases spells with
      | cons capitalizes more =>
          rw [List.cons_append, dropKeyword?,
            if_pos (foldsTo_of_capitalizesTo small plainLetter capitalizes)]
          exact inductionHypothesis plainRest more

section

variable
  {keyword text : Text}
  (spells : SpellsCapitals keyword text)

include spells

/-- Behind a word that a line starts with, the rest of the words has to be found. -/
theorem SpellsCapitals.startsWithCapitals_append (moreKeyword later : Text) :
    startsWithCapitals (keyword ++ moreKeyword) (text ++ later) =
      startsWithCapitals moreKeyword later := by
  induction spells with
  | nil =>
      rfl
  | cons capitalizes _ inductionHypothesis =>
      rw [List.cons_append, List.cons_append, startsWithCapitals, capitalizes,
        Bool.true_and, inductionHypothesis]

theorem SpellsCapitals.ne_nil
    (nonempty : keyword ≠ []) :
    text ≠ [] := by
  rintro rfl
  cases spells
  exact nonempty rfl

theorem SpellsCapitals.isWord
    (areCapitals : ∀ capital ∈ keyword, capital.isUpper = true) :
    ∀ character ∈ text, isWord character = true := by
  induction spells with
  | nil =>
      exact nofun
  | cons capitalizes _ inductionHypothesis =>
      rw [List.forall_mem_cons] at areCapitals ⊢
      exact ⟨isWord_of_capitalizesTo areCapitals.1 capitalizes,
        inductionHypothesis areCapitals.2⟩

end

/-- Two words with one space between them are looked for, so no other white space is found. -/
theorem startsWithCapitals_space
    {capital : Char}
    {keyword blanks : Text}
    (isCapital : capital.isUpper = true)
    (run : IsBlankRun blanks)
    (later : Text) :
    startsWithCapitals (' ' :: capital :: keyword) (blanks ++ later) = true ↔
      blanks = [' '] ∧ startsWithCapitals (capital :: keyword) later = true := by
  obtain ⟨nonempty, blank⟩ := run
  obtain ⟨first, rest, rfl⟩ := List.exists_cons_of_ne_nil nonempty
  rw [List.cons_append, startsWithCapitals, Bool.and_eq_true, capitalizesTo_space_iff]
  cases rest with
  | nil =>
      rw [List.nil_append, List.cons_eq_cons]
      simp
  | cons next others =>
      simp only [allBlank, List.all_cons, Bool.and_eq_true] at blank
      have refuses : capitalizesTo capital next = false := by
        rw [Bool.eq_false_iff]
        intro capitalizes
        have word := isWord_of_capitalizesTo isCapital capitalizes
        rw [isWord_of_isBlank blank.2.1] at word
        cases word
      rw [List.cons_append, startsWithCapitals, refuses]
      simp

/-- A keyword does not start with white space. -/
theorem dropKeyword?_of_isBlank
    {letter character : Char}
    (solid : isBlank letter = false ∧ isBlank letter.toUpper = false)
    (blank : isBlank character = true)
    (keyword rest : Text) :
    dropKeyword? (letter :: keyword) (character :: rest) = none := by
  rw [dropKeyword?, if_neg]
  intro folds
  rw [not_isBlank_of_foldsTo solid.1 solid.2 folds] at blank
  cases blank

theorem isBlank_of_isWord
    {character : Char}
    (word : isWord character = true) :
    isBlank character = false := by
  rw [Bool.eq_false_iff]
  intro blank
  rw [isWord_of_isBlank blank] at word
  cases word

section

variable {accepts : Text → Bool}

/-- Within a word no other word starts. -/
theorem anyWordStart_append_of_word
    {word : Text}
    (inside : ∀ character ∈ word, isWord character = true)
    (later : Text) :
    anyWordStart accepts true (word ++ later) = anyWordStart accepts true later := by
  induction word with
  | nil =>
      rfl
  | cons first rest inductionHypothesis =>
      rw [List.forall_mem_cons] at inside
      rw [List.cons_append, anyWordStart, inside.1, inductionHypothesis inside.2]
      rfl

/-- No word starts with white space. -/
theorem anyWordStart_append_of_blank
    (refuses : ∀ character rest, isBlank character = true → accepts (character :: rest) = false)
    {blanks : Text}
    (run : IsBlankRun blanks)
    (afterWord : Bool)
    (later : Text) :
    anyWordStart accepts afterWord (blanks ++ later) = anyWordStart accepts false later := by
  obtain ⟨nonempty, blank⟩ := run
  induction blanks generalizing afterWord with
  | nil =>
      exact (nonempty rfl).elim
  | cons first rest inductionHypothesis =>
      rw [allBlank, List.all_cons, Bool.and_eq_true] at blank
      rw [List.cons_append, anyWordStart, refuses first _ blank.1, Bool.and_false,
        Bool.false_or, isWord_of_isBlank blank.1]
      cases rest with
      | nil =>
          rfl
      | cons next others =>
          exact inductionHypothesis false (List.cons_ne_nil _ _) blank.2

end

end TenantSchema.Text
