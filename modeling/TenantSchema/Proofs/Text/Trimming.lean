import Mathlib.Data.List.TakeWhile
import TenantSchema.Text.Blank

namespace TenantSchema.Text

/-!
# Trimming

White space at the end of a text is trimmed whatever it consists of, and nothing is trimmed
from a text without white space.
-/

/-- White space at the end does not matter to trimming on the right. -/
theorem trimRight_append_of_allBlank
    {text blanks : Text}
    (blank : allBlank blanks = true) :
    trimRight (text ++ blanks) = trimRight text := by
  induction text with
  | nil =>
      exact trimRight_eq_nil_iff.mpr blank
  | cons character rest inductionHypothesis =>
      rw [List.cons_append, trimRight_cons, trimRight_cons, inductionHypothesis]

/-- The first character stays if white space is not all that there is. -/
theorem trimRight_cons_of_not_allBlank
    {character : Char}
    {rest : Text}
    (solid : allBlank (character :: rest) = false) :
    trimRight (character :: rest) = character :: trimRight rest := by
  rw [trimRight_cons, if_neg]
  intro dropped
  rw [Bool.and_eq_true, List.isEmpty_iff, trimRight_eq_nil_iff] at dropped
  rw [allBlank, List.all_cons, ← allBlank, dropped.1, dropped.2] at solid
  cases solid

/-- What trimming on the right takes off is white space. -/
theorem exists_eq_trimRight_append (text : Text) :
    ∃ blanks, text = trimRight text ++ blanks ∧ allBlank blanks = true := by
  induction text with
  | nil =>
      exact ⟨[], rfl, rfl⟩
  | cons character rest inductionHypothesis =>
      cases blank : allBlank (character :: rest) with
      | true =>
          refine ⟨character :: rest, ?_, blank⟩
          rw [trimRight_eq_nil_iff.mpr blank, List.nil_append]
      | false =>
          obtain ⟨blanks, split, blanksBlank⟩ := inductionHypothesis
          refine ⟨blanks, ?_, blanksBlank⟩
          rw [trimRight_cons_of_not_allBlank blank, List.cons_append, ← split]

/-- Trimming on the right a second time takes off nothing. -/
theorem trimRight_trimRight (text : Text) :
    trimRight (trimRight text) = trimRight text := by
  obtain ⟨blanks, split, blank⟩ := exists_eq_trimRight_append text
  calc trimRight (trimRight text)
    _ = trimRight (trimRight text ++ blanks) := (trimRight_append_of_allBlank blank).symm
    _ = trimRight text := by rw [← split]

theorem mem_of_mem_trimRight
    {character : Char}
    {text : Text}
    (member : character ∈ trimRight text) :
    character ∈ text := by
  obtain ⟨blanks, split, _⟩ := exists_eq_trimRight_append text
  rw [split]
  exact List.mem_append_left _ member

theorem allBlank_trimRight (text : Text) :
    allBlank (trimRight text) = allBlank text := by
  obtain ⟨blanks, split, blank⟩ := exists_eq_trimRight_append text
  have parts : allBlank text = allBlank (trimRight text ++ blanks) := by
    rw [← split]
  rw [parts, allBlank, allBlank, List.all_append, ← allBlank, ← allBlank, blank,
    Bool.and_true]

/-- White space at the end does not matter to what a cut leaves, once that is trimmed. -/
theorem trimRight_takeWhile_trimRight
    (test : Char → Bool)
    (text : Text) :
    trimRight ((trimRight text).takeWhile test) = trimRight (text.takeWhile test) := by
  obtain ⟨blanks, split, blank⟩ := exists_eq_trimRight_append text
  have cutBlank : allBlank (blanks.takeWhile test) = true := by
    rw [allBlank, List.all_eq_true] at blank ⊢
    exact fun character member =>
      blank character ((List.takeWhile_prefix test).subset member)
  have cut :
      trimRight (text.takeWhile test) =
        trimRight ((trimRight text ++ blanks).takeWhile test) := by
    rw [← split]
  rw [cut, List.takeWhile_append]
  split
  case isTrue whole =>
    have kept : (trimRight text).takeWhile test = trimRight text :=
      (List.takeWhile_prefix _).eq_of_length whole
    rw [trimRight_append_of_allBlank cutBlank, kept]
  case isFalse =>
    rfl

theorem trimRight_of_forall_not_blank
    {text : Text}
    (solid : ∀ character ∈ text, isBlank character = false) :
    trimRight text = text := by
  induction text with
  | nil =>
      rfl
  | cons character rest inductionHypothesis =>
      rw [List.forall_mem_cons] at solid
      rw [trimRight_cons, inductionHypothesis solid.2, solid.1, Bool.false_and]
      rfl

theorem exists_eq_append_trimLeft (text : Text) :
    ∃ blanks, allBlank blanks = true ∧ text = blanks ++ trimLeft text := by
  refine ⟨text.takeWhile isBlank, ?_, List.takeWhile_append_dropWhile.symm⟩
  exact List.all_eq_true.mpr fun character member => List.mem_takeWhile_imp member

theorem trimLeft_cons_of_not_isBlank
    {character : Char}
    (solid : isBlank character = false)
    (rest : Text) :
    trimLeft (character :: rest) = character :: rest := by
  simp [trimLeft, solid]

/-- White space in front does not matter to trimming on the left. -/
theorem trimLeft_append_of_allBlank
    {blanks : Text}
    (blank : allBlank blanks = true)
    (text : Text) :
    trimLeft (blanks ++ text) = trimLeft text := by
  rw [allBlank, List.all_eq_true] at blank
  rw [trimLeft, List.dropWhile_append_of_pos blank, ← trimLeft]

/-- White space in front does not matter to trimming. -/
theorem trim_append_of_allBlank_left
    {blanks : Text}
    (blank : allBlank blanks = true)
    (text : Text) :
    trim (blanks ++ text) = trim text := by
  rw [trim, trim, trimLeft_append_of_allBlank blank]

/-- A text that starts with solid characters is left as it is on the left. -/
theorem trimLeft_append_of_forall_not_blank
    {text rest : Text}
    (nonempty : text ≠ [])
    (solid : ∀ character ∈ text, isBlank character = false) :
    trimLeft (text ++ rest) = text ++ rest := by
  cases text with
  | nil =>
      exact (nonempty rfl).elim
  | cons first others =>
      exact trimLeft_cons_of_not_isBlank (solid first List.mem_cons_self) _

/-- Trimming a text without white space takes off what white space follows it. -/
theorem trim_append_of_allBlank
    {text blanks : Text}
    (nonempty : text ≠ [])
    (solid : ∀ character ∈ text, isBlank character = false)
    (blank : allBlank blanks = true) :
    trim (text ++ blanks) = text := by
  rw [trim, trimLeft_append_of_forall_not_blank nonempty solid,
    trimRight_append_of_allBlank blank, trimRight_of_forall_not_blank solid]

/-- Trimming leaves nothing exactly of the texts that hold only white space. -/
theorem trim_eq_nil_iff
    {text : Text} :
    trim text = [] ↔ allBlank text = true := by
  rw [trim, trimRight_eq_nil_iff]
  induction text with
  | nil =>
      rfl
  | cons character rest inductionHypothesis =>
      by_cases blank : isBlank character = true
      · simpa [trimLeft, allBlank, blank] using inductionHypothesis
      · simp [trimLeft, allBlank, blank]

/-- What follows a text that is not blank does not matter to trimming on the left. -/
theorem trimLeft_append_of_not_allBlank
    {text : Text}
    (solid : allBlank text = false)
    (later : Text) :
    trimLeft (text ++ later) = trimLeft text ++ later := by
  induction text with
  | nil =>
      cases solid
  | cons character rest inductionHypothesis =>
      by_cases blank : isBlank character = true
      · rw [allBlank, List.all_cons, blank, Bool.true_and] at solid
        simpa [trimLeft, blank] using inductionHypothesis solid
      · simp [trimLeft, blank]

theorem trimLeft_eq_nil_iff
    {text : Text} :
    trimLeft text = [] ↔ allBlank text = true := by
  simp [trimLeft, allBlank]

/-- White space at the end is trimmed on the left only together with everything before it. -/
theorem trimLeft_append_cases
    {blanks : Text}
    (blank : allBlank blanks = true)
    (text : Text) :
    (trimLeft (text ++ blanks) = [] ∧ trimLeft text = []) ∨
      ∃ first rest,
        trimLeft text = first :: rest ∧ trimLeft (text ++ blanks) = first :: (rest ++ blanks) := by
  cases solid : allBlank text with
  | true =>
      left
      rw [trimLeft_eq_nil_iff, trimLeft_eq_nil_iff, allBlank, List.all_append, ← allBlank,
        ← allBlank, solid, blank]
      exact ⟨rfl, rfl⟩
  | false =>
      right
      cases kept : trimLeft text with
      | nil =>
          rw [trimLeft_eq_nil_iff.mp kept] at solid
          cases solid
      | cons first rest =>
          refine ⟨first, rest, rfl, ?_⟩
          rw [trimLeft_append_of_not_allBlank solid, kept, List.cons_append]

/-- What stands before a text that is not blank does not matter to trimming on the right. -/
theorem trimRight_append_of_not_allBlank
    {later : Text}
    (solid : allBlank later = false)
    (text : Text) :
    trimRight (text ++ later) = text ++ trimRight later := by
  induction text with
  | nil =>
      rfl
  | cons character rest inductionHypothesis =>
      have wholeSolid : allBlank (character :: (rest ++ later)) = false := by
        rw [allBlank, List.all_cons, List.all_append, ← allBlank, ← allBlank, solid,
          Bool.and_false, Bool.and_false]
      rw [List.cons_append, trimRight_cons_of_not_allBlank wholeSolid, inductionHypothesis,
        List.cons_append]

theorem not_allBlank_of_trimmed
    {text : Text}
    (trimmed : trimRight text = text)
    (nonempty : text ≠ []) :
    allBlank text = false := by
  rw [Bool.eq_false_iff]
  intro blank
  rw [trimRight_eq_nil_iff.mpr blank] at trimmed
  exact nonempty trimmed.symm

theorem trimmed_of_cons
    {character : Char}
    {rest : Text}
    (trimmed : trimRight (character :: rest) = character :: rest) :
    trimRight rest = rest := by
  have solid := not_allBlank_of_trimmed trimmed (List.cons_ne_nil _ _)
  rw [trimRight_cons_of_not_allBlank solid] at trimmed
  exact (List.cons.inj trimmed).2

/-- A trimmed text behind another trimmed one is trimmed with it. -/
theorem trimRight_append_of_trimmed
    {text later : Text}
    (trimmed : trimRight text = text)
    (laterTrimmed : trimRight later = later) :
    trimRight (text ++ later) = text ++ later := by
  cases blank : allBlank later with
  | true =>
      rw [trimRight_append_of_allBlank blank, trimmed]
      rw [← laterTrimmed, trimRight_eq_nil_iff.mpr blank, List.append_nil]
  | false =>
      rw [trimRight_append_of_not_allBlank blank, laterTrimmed]

/-- White space at the end does not matter to trimming at both ends. -/
theorem trim_trimRight (text : Text) :
    trim (trimRight text) = trim text := by
  obtain ⟨blanks, split, blank⟩ := exists_eq_trimRight_append text
  cases solid : allBlank (trimRight text) with
  | true =>
      rw [trim_eq_nil_iff.mpr solid, trim_eq_nil_iff.mpr ((allBlank_trimRight text).symm.trans solid)]
  | false =>
      have parts : trimLeft text = trimLeft (trimRight text) ++ blanks := by
        rw [← trimLeft_append_of_not_allBlank solid, ← split]
      rw [trim, trim, parts, trimRight_append_of_allBlank blank]

end TenantSchema.Text
