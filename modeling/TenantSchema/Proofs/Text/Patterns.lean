import Mathlib.Data.List.Forall2
import Mathlib.Data.List.Infix
import TenantSchema.Proofs.Text.Keywords

namespace TenantSchema.Text

/-!
# What patterns match

A pattern is read part by part: a keyword in any case, a run of white space, a run of word
characters.  Every part is described by the texts that it matches, and by what has to stop it,
so that a text made of such parts is taken apart in one way only.  A keyword that does not
start again within itself cannot match twice with an overlap.
-/

/-- Whether a text is a keyword, given in small letters, in any case. -/
def Spells (keyword text : Text) : Prop :=
  List.Forall₂ (fun letter character => foldsTo letter character = true)
    keyword text

/-- Whether a text is a run of white space. -/
structure IsBlankRun (text : Text) : Prop where
  nonempty : text ≠ []
  blank : allBlank text = true

/-- Whether a text is a run of word characters. -/
structure IsWordRun (text : Text) : Prop where
  nonempty : text ≠ []
  word : ∀ character ∈ text, isWord character = true

/-- A keyword is found exactly where it is spelt. -/
theorem dropKeyword?_eq_some_iff
    {keyword text rest : Text} :
    dropKeyword? keyword text = some rest ↔
      ∃ spelling, Spells keyword spelling ∧ text = spelling ++ rest := by
  induction keyword generalizing text with
  | nil =>
      constructor
      · rintro ⟨⟩
        exact ⟨[], .nil, rfl⟩
      · rintro ⟨_, ⟨⟩, rfl⟩
        rfl
  | cons letter keyword inductionHypothesis =>
      constructor
      · intro found
        obtain ⟨first, others, rfl, folds, more⟩ := exists_cons_of_dropKeyword? found
        obtain ⟨spelling, spells, rfl⟩ := inductionHypothesis.mp more
        exact ⟨first :: spelling, .cons folds spells, rfl⟩
      · rintro ⟨_, _ | ⟨folds, spells⟩, rfl⟩
        rw [List.cons_append, dropKeyword?, if_pos folds]
        exact inductionHypothesis.mpr ⟨_, spells, rfl⟩

/-- The spelling of two keywords behind each other consists of their spellings. -/
theorem exists_append_of_spells
    {keyword first second : Text}
    (spells : Spells keyword (first ++ second)) :
    ∃ firstKeyword secondKeyword,
      keyword = firstKeyword ++ secondKeyword ∧
        Spells firstKeyword first ∧
        Spells secondKeyword second := by
  induction first generalizing keyword with
  | nil =>
      exact ⟨[], keyword, rfl, .nil, spells⟩
  | cons character first inductionHypothesis =>
      cases spells with
      | cons folds more =>
          obtain ⟨firstKeyword, secondKeyword, rfl, spellsFirst, spellsSecond⟩ :=
            inductionHypothesis more
          exact ⟨_ :: firstKeyword, secondKeyword, rfl, .cons folds spellsFirst,
            spellsSecond⟩

theorem Spells.exists_cons
    {keyword text : Text}
    (spells : Spells keyword text)
    (nonempty : keyword ≠ []) :
    ∃ first others, text = first :: others := by
  cases spells with
  | nil =>
      exact (nonempty rfl).elim
  | cons _ _ =>
      exact ⟨_, _, rfl⟩

/-- A text spells one keyword of small letters at most. -/
theorem Spells.unique
    {first second text : Text}
    (firstSpells : Spells first text)
    (secondSpells : Spells second text)
    (firstSmall : ∀ letter ∈ first, letter.isLower = true)
    (secondSmall : ∀ letter ∈ second, letter.isLower = true) :
    first = second := by
  induction firstSpells generalizing second with
  | nil =>
      cases secondSpells
      rfl
  | cons folds _ inductionHypothesis =>
      cases secondSpells with
      | cons otherFolds otherSpells =>
          rw [List.forall_mem_cons] at firstSmall secondSmall
          rw [foldsTo_unique firstSmall.1 secondSmall.1 folds otherFolds,
            inductionHypothesis otherSpells firstSmall.2 secondSmall.2]

/-- A keyword of word characters is spelt by word characters. -/
theorem Spells.isWord
    {keyword text : Text}
    (spells : Spells keyword text)
    (word :
      ∀ letter ∈ keyword,
        isWord letter = true ∧ isWord letter.toUpper = true) :
    ∀ character ∈ text, isWord character = true := by
  induction spells with
  | nil =>
      simp
  | cons folds _ inductionHypothesis =>
      rw [List.forall_mem_cons] at word ⊢
      exact ⟨isWord_of_foldsTo word.1.1 word.1.2 folds, inductionHypothesis word.2⟩

/-- Whether nothing shorter than a keyword is both at its start and at its end. -/
def IsBorderless (keyword : Text) : Prop :=
  ∀ border ∈ keyword.tails, border <+: keyword → border = [] ∨ border = keyword

instance (keyword : Text) : Decidable (IsBorderless keyword) :=
  inferInstanceAs (Decidable (∀ border ∈ keyword.tails, _))

/-- Such a keyword is not found again where a part of its spelling is left. -/
theorem dropKeyword?_eq_none_of_spells
    {keyword first second : Text}
    (borderless : IsBorderless keyword)
    (small : ∀ letter ∈ keyword, letter.isLower = true)
    (spells : Spells keyword (first ++ second))
    (firstNonempty : first ≠ [])
    (secondNonempty : second ≠ [])
    (later : Text) :
    dropKeyword? keyword (second ++ later) = none := by
  rw [Option.eq_none_iff_forall_ne_some]
  intro rest found
  obtain ⟨spelling, again, split⟩ := dropKeyword?_eq_some_iff.mp found
  obtain ⟨front, border, rfl, spellsFirst, spellsSecond⟩ := exists_append_of_spells spells
  have firstLength : front.length = first.length := spellsFirst.length_eq
  have secondLength : border.length = second.length := spellsSecond.length_eq
  have wholeLength : (front ++ border).length = spelling.length := again.length_eq
  have firstPositive := List.length_pos_iff.mpr firstNonempty
  have secondPositive := List.length_pos_iff.mpr secondNonempty
  -- What is left is shorter than the keyword, so the second spelling starts with it.
  obtain ⟨more, rfl⟩ : second <+: spelling := by
    apply List.prefix_of_prefix_length_le (List.prefix_append second later)
    · rw [split]
      exact List.prefix_append spelling rest
    · rw [List.length_append] at wholeLength
      omega
  obtain ⟨start, others, shape, spellsStart, _⟩ := exists_append_of_spells again
  have startSmall : ∀ letter ∈ start, letter.isLower = true := by
    intro letter member
    apply small
    rw [shape]
    exact List.mem_append_left _ member
  have sameBorder : start = border :=
    spellsStart.unique spellsSecond startSmall
      (fun letter member => small letter (List.mem_append_right _ member))
  have isBorder : border <+: front ++ border :=
    ⟨others, by rw [← sameBorder, ← shape, sameBorder]⟩
  rcases borderless border
      ((List.mem_tails _ _).mpr (List.suffix_append front border)) isBorder with
    nothing | whole
  · rw [nothing, List.length_nil] at secondLength
    omega
  · have sameLength := congrArg List.length whole
    rw [List.length_append] at sameLength
    omega

/-- A run is told from what follows it by the first character that is not of its class. -/
theorem takeWhile_append_of_ends
    {test : Char → Bool}
    {lead rest : Text}
    (inside : ∀ character ∈ lead, test character = true)
    (ends : ∀ character ∈ rest.head?, test character = false) :
    (lead ++ rest).takeWhile test = lead ∧
      (lead ++ rest).dropWhile test = rest := by
  rw [List.takeWhile_append_of_pos inside, List.dropWhile_append_of_pos inside]
  cases rest with
  | nil =>
      simp
  | cons next others =>
      simp [ends next rfl]

/-- A text that starts with a run of a class is cut behind it in one way only. -/
theorem append_inj_of_ends
    {test : Char → Bool}
    {first firstRest second secondRest : Text}
    (same : first ++ firstRest = second ++ secondRest)
    (firstInside : ∀ character ∈ first, test character = true)
    (secondInside : ∀ character ∈ second, test character = true)
    (firstEnds : ∀ character ∈ firstRest.head?, test character = false)
    (secondEnds : ∀ character ∈ secondRest.head?, test character = false) :
    first = second ∧ firstRest = secondRest := by
  obtain ⟨firstTaken, firstDropped⟩ := takeWhile_append_of_ends firstInside firstEnds
  obtain ⟨secondTaken, secondDropped⟩ := takeWhile_append_of_ends secondInside secondEnds
  rw [same] at firstTaken firstDropped
  exact ⟨firstTaken.symm.trans secondTaken, firstDropped.symm.trans secondDropped⟩

/-- White space is passed over up to the first character that is none. -/
theorem dropBlanks?_append
    {blanks : Text}
    (run : IsBlankRun blanks)
    (text : Text) :
    dropBlanks? (blanks ++ text) = some (trimLeft text) := by
  cases blanks with
  | nil =>
      exact (run.nonempty rfl).elim
  | cons first others =>
      have blank := run.blank
      rw [allBlank, List.all_cons, Bool.and_eq_true] at blank
      rw [List.cons_append, dropBlanks?, if_pos blank.1,
        trimLeft_append_of_allBlank blank.2]

theorem exists_of_dropBlanks?
    {text rest : Text}
    (found : dropBlanks? text = some rest) :
    ∃ blanks, IsBlankRun blanks ∧ text = blanks ++ rest := by
  cases text with
  | nil =>
      cases found
  | cons first others =>
      rw [dropBlanks?] at found
      split at found
      case isTrue blank =>
        cases found
        obtain ⟨blanks, allBlanks, split⟩ := exists_eq_append_trimLeft others
        refine ⟨first :: blanks, ⟨by simp, ?_⟩, ?_⟩
        · rw [allBlank, List.all_cons, blank, Bool.true_and]
          exact allBlanks
        · rw [List.cons_append, ← split]
      case isFalse =>
        cases found

theorem wordEndsAt_iff
    {text : Text} :
    wordEndsAt text = true ↔
      ∀ character ∈ text.head?, isWord character = false := by
  cases text <;> simp [wordEndsAt]

theorem IsBlankRun.wordEndsAt_append
    {blanks : Text}
    (run : IsBlankRun blanks)
    (text : Text) :
    wordEndsAt (blanks ++ text) = true := by
  cases blanks with
  | nil =>
      exact (run.nonempty rfl).elim
  | cons first others =>
      have ends : wordEndsAt (first :: others) = true :=
        wordEndsAt_of_allBlank run.blank
      exact ends

theorem IsWordRun.exists_cons
    {word : Text}
    (run : IsWordRun word) :
    ∃ first others, word = first :: others ∧ isWord first = true := by
  obtain ⟨first, others, rfl⟩ := List.exists_cons_of_ne_nil run.nonempty
  exact ⟨first, others, rfl, run.word first List.mem_cons_self⟩

theorem IsWordRun.trimLeft_append
    {word : Text}
    (run : IsWordRun word)
    (text : Text) :
    trimLeft (word ++ text) = word ++ text := by
  obtain ⟨first, others, rfl, inside⟩ := run.exists_cons
  apply trimLeft_cons_of_not_isBlank
  rw [Bool.eq_false_iff]
  intro blank
  rw [isWord_of_isBlank blank] at inside
  cases inside

/-- A word is taken exactly if it is a run that no word character follows. -/
theorem takeWord?_eq_some_iff
    {text word rest : Text} :
    takeWord? text = some (word, rest) ↔
      IsWordRun word ∧ wordEndsAt rest = true ∧ text = word ++ rest := by
  constructor
  · intro taken
    have split : text.takeWhile isWord ++ text.dropWhile isWord = text :=
      List.takeWhile_append_dropWhile
    unfold takeWord? at taken
    split at taken
    case h_1 =>
      cases taken
    case h_2 first others run =>
      cases taken
      rw [run] at split
      refine ⟨⟨by simp, ?_⟩, ?_, split.symm⟩
      · rw [← run]
        exact fun character member => List.mem_takeWhile_imp member
      · rw [wordEndsAt_iff]
        intro character isHead
        have stopped := List.head?_dropWhile_not isWord text
        rw [Option.mem_def.mp isHead] at stopped
        exact stopped
  · rintro ⟨run, ends, rfl⟩
    obtain ⟨taken, dropped⟩ :=
      takeWhile_append_of_ends run.word (wordEndsAt_iff.mp ends)
    unfold takeWord?
    rw [taken, dropped]
    cases word with
    | nil =>
        exact (run.nonempty rfl).elim
    | cons first others =>
        rfl

end TenantSchema.Text
