import Mathlib.Data.List.Chain
import TenantSchema.Proofs.Text.JoinedLines

namespace TenantSchema.Text

/-!
# Words

The words of a text are its runs without white space, and only white space stands between them.
Joined by spaces they make the text with its white space collapsed: every white-space character of
that is a space, and no two of them are neighbours.
-/

/-- Which words a text has, read from the left: each one reaches to the next white space. -/
inductive HasWords : Text → List Text → Prop
  | blank {text : Text} (blank : allBlank text = true) :
      HasWords text []
  | word
      {blanks word rest : Text}
      {others : List Text}
      (blank : allBlank blanks = true)
      (nonempty : word ≠ [])
      (solid : ∀ character ∈ word, isBlank character = false)
      (ends : ∀ character ∈ rest.head?, isBlank character = true)
      (later : HasWords rest others) :
      HasWords (blanks ++ word ++ rest) (word :: others)

/-- Whether one text is another one with its white space collapsed. -/
def Collapses (text flat : Text) : Prop :=
  ∃ parts, HasWords text parts ∧ flat = joinWith [' '] parts

/-- Whether all the white space in a text is single spaces. -/
structure SingleSpaced (text : Text) : Prop where
  spaces :
    ∀ character ∈ text, isBlank character = true → character = ' '
  single :
    text.IsChain fun first second => isBlank first = true → isBlank second = false

/-- White space in front of a text is no part of its words. -/
theorem HasWords.cons_blank
    {character : Char}
    {text : Text}
    {parts : List Text}
    (blankFirst : isBlank character = true)
    (has : HasWords text parts) :
    HasWords (character :: text) parts := by
  have allBlank_cons {blanks : Text} (blank : allBlank blanks = true) :
      allBlank (character :: blanks) = true := by
    rw [allBlank, List.all_cons, blankFirst, ← allBlank, blank]
    rfl
  cases has with
  | blank blank =>
      exact .blank (allBlank_cons blank)
  | word blank nonempty solid ends later =>
      exact .word (allBlank_cons blank) nonempty solid ends later

/-- A text may start with a word. -/
theorem HasWords.of_word
    {word rest : Text}
    {others : List Text}
    (nonempty : word ≠ [])
    (solid : ∀ character ∈ word, isBlank character = false)
    (ends : ∀ character ∈ rest.head?, isBlank character = true)
    (later : HasWords rest others) :
    HasWords (word ++ rest) (word :: others) := by
  have blank : allBlank [] = true := rfl
  exact .word blank nonempty solid ends later

/--
Splitting a text goes on with the word that was begun before it; `begun` holds the characters of
that word, last one first.
-/
theorem hasWords_wordsFrom
    {begun : Text}
    (solid : ∀ character ∈ begun, isBlank character = false)
    (text : Text) :
    HasWords (begun.reverse ++ text) (wordsFrom begun text) := by
  have solidWord {begun : Text} (solid : ∀ character ∈ begun, isBlank character = false) :
      ∀ character ∈ begun.reverse, isBlank character = false := fun character member =>
    solid character (List.mem_reverse.mp member)
  fun_induction wordsFrom begun text with
  | case1 begun isNil =>
      rw [List.isEmpty_iff.mp isNil]
      exact .blank rfl
  | case2 begun nonempty =>
      rw [List.isEmpty_iff, ← List.reverse_eq_nil_iff] at nonempty
      exact .of_word nonempty (solidWord solid) (by simp) (.blank rfl)
  | case3 begun character rest blank isNil inductionHypothesis =>
      rw [List.isEmpty_iff.mp isNil]
      exact .cons_blank blank (inductionHypothesis (by simp))
  | case4 begun character rest blank nonempty inductionHypothesis =>
      rw [List.isEmpty_iff, ← List.reverse_eq_nil_iff] at nonempty
      have later : HasWords (character :: rest) (wordsFrom [] rest) :=
        .cons_blank blank (inductionHypothesis (by simp))
      exact .of_word nonempty (solidWord solid) (by simp [blank]) later
  | case5 begun character rest goesOn inductionHypothesis =>
      rw [Bool.not_eq_true] at goesOn
      have longer := inductionHypothesis (List.forall_mem_cons.mpr ⟨goesOn, solid⟩)
      rwa [List.reverse_cons, List.append_assoc] at longer

theorem hasWords_words (text : Text) :
    HasWords text (words text) := by
  have nothing : ∀ character ∈ ([] : Text), isBlank character = false := by
    simp
  exact hasWords_wordsFrom nothing text

theorem collapses_flatten (text : Text) :
    Collapses text (flatten text) :=
  ⟨words text, hasWords_words text, rfl⟩

/-- Words hold something, and no white space. -/
theorem HasWords.solid_of_mem
    {text word : Text}
    {parts : List Text}
    (has : HasWords text parts)
    (member : word ∈ parts) :
    word ≠ [] ∧ ∀ character ∈ word, isBlank character = false := by
  induction has with
  | blank =>
      cases member
  | word _ nonempty solid _ _ inductionHypothesis =>
      rcases List.mem_cons.mp member with rfl | later
      · exact ⟨nonempty, solid⟩
      · exact inductionHypothesis later

namespace SingleSpaced

theorem of_solid
    {text : Text}
    (solid : ∀ character ∈ text, isBlank character = false) :
    SingleSpaced text where
  spaces := fun character member blank => by
    rw [solid character member] at blank
    cases blank
  single :=
    List.Pairwise.isChain <|
      List.pairwise_of_forall_mem_list fun _ _ second member _ => solid second member

theorem of_prefix
    {front text : Text}
    (spaced : SingleSpaced text)
    (isFront : front <+: text) :
    SingleSpaced front where
  spaces := fun character member => spaced.spaces character (isFront.subset member)
  single := spaced.single.prefix isFront

/-- Texts may be joined where white space does not meet white space. -/
theorem append
    {first second : Text}
    (firstSpaced : SingleSpaced first)
    (secondSpaced : SingleSpaced second)
    (seam :
      ∀ last ∈ first.getLast?, ∀ next ∈ second.head?,
        isBlank last = true → isBlank next = false) :
    SingleSpaced (first ++ second) where
  spaces := fun character member => by
    rcases List.mem_append.mp member with inFirst | inSecond
    · exact firstSpaced.spaces character inFirst
    · exact secondSpaced.spaces character inSecond
  single := firstSpaced.single.append secondSpaced.single seam

end SingleSpaced

/-- Words that are joined by spaces have no white space in front. -/
theorem not_isBlank_head_joinWith
    {parts : List Text}
    (solid : ∀ part ∈ parts, part ≠ [] ∧ ∀ character ∈ part, isBlank character = false) :
    ∀ character ∈ (joinWith [' '] parts).head?, isBlank character = false := by
  intro character isHead
  cases parts with
  | nil =>
      cases isHead
  | cons part rest =>
      obtain ⟨⟨nonempty, solidPart⟩, _⟩ := List.forall_mem_cons.mp solid
      cases part with
      | nil =>
          exact (nonempty rfl).elim
      | cons first others =>
          have isFirst : first = character := by
            cases rest with
            | nil | cons next later =>
                exact Option.some.inj isHead
          rw [← isFirst]
          exact solidPart first List.mem_cons_self

theorem singleSpaced_joinWith
    {parts : List Text}
    (solid : ∀ part ∈ parts, part ≠ [] ∧ ∀ character ∈ part, isBlank character = false) :
    SingleSpaced (joinWith [' '] parts) := by
  induction parts with
  | nil =>
      exact .of_solid (by simp [joinWith])
  | cons part rest inductionHypothesis =>
      obtain ⟨⟨_, solidPart⟩, solidRest⟩ := List.forall_mem_cons.mp solid
      have spacedPart : SingleSpaced part := .of_solid solidPart
      cases rest with
      | nil =>
          exact spacedPart
      | cons next later =>
          have space : SingleSpaced [' '] := ⟨by simp, .singleton ' '⟩
          have behind : SingleSpaced ([' '] ++ joinWith [' '] (next :: later)) := by
            refine space.append (inductionHypothesis solidRest) ?_
            intro _ _ character isHead _
            exact not_isBlank_head_joinWith solidRest character isHead
          rw [joinWith_cons_of_ne_nil (List.cons_ne_nil next later), List.append_assoc]
          refine spacedPart.append behind ?_
          intro last isLast _ _ blank
          rw [solidPart last (List.mem_of_getLast? isLast)] at blank
          cases blank

theorem singleSpaced_flatten (text : Text) :
    SingleSpaced (flatten text) :=
  singleSpaced_joinWith fun _ member => (hasWords_words text).solid_of_mem member

end TenantSchema.Text
