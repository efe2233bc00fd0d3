import Mathlib.Data.List.TakeWhile
import TenantSchema.Proofs.Text.JoinedLines

namespace TenantSchema.Text

/-!
# Where lines end

A newline ends the line before it whatever follows, so a text that ends in one is split into
lines apart from the text behind it.  The first line of a text is what stands before its first
boundary.
-/

/-- Whether a text is over at the end of a line. -/
def EndsLine (text : Text) : Prop :=
  text = [] ∨ text.getLast? = some '\n'

instance (text : Text) : Decidable (EndsLine text) :=
  instDecidableOr

theorem EndsLine.tail
    {character : Char}
    {rest : Text}
    (ends : EndsLine (character :: rest)) :
    EndsLine rest := by
  rcases ends with isNil | isLast
  · cases isNil
  · cases rest with
    | nil =>
        exact .inl rfl
    | cons next others =>
        rw [List.getLast?_cons_cons] at isLast
        exact .inr isLast

/-- A text that ends within a line does not end with a character that is no newline. -/
theorem EndsLine.ne_nil
    {character : Char}
    {rest : Text}
    (ends : EndsLine (character :: rest))
    (other : character ≠ '\n') :
    rest ≠ [] := by
  rintro rfl
  rcases ends with isNil | isLast
  · cases isNil
  · exact other (Option.some.inj isLast)

theorem lines_ne_nil
    {text : Text}
    (nonempty : text ≠ []) :
    lines text ≠ [] := by
  fun_cases lines text with
  | case1 =>
      exact (nonempty rfl).elim
  | case2 rest =>
      exact List.cons_ne_nil _ _
  | case3 character rest _ breaks =>
      exact List.cons_ne_nil _ _
  | case4 character rest _ breaks =>
      cases lines rest <;>
        exact List.cons_ne_nil _ _

theorem consToFirst_append
    (character : Char)
    {source : List Text}
    (nonempty : source ≠ [])
    (later : List Text) :
    consToFirst character (source ++ later) = consToFirst character source ++ later := by
  cases source with
  | nil =>
      exact (nonempty rfl).elim
  | cons line rest =>
      rfl

/-- What follows the end of a line does not complete a boundary that was begun before it. -/
theorem EndsLine.single_append
    {character : Char}
    {rest : Text}
    (ends : EndsLine (character :: rest))
    (single : ∀ later, character = '\r' → rest = '\n' :: later → False)
    (second : Text) :
    ∀ later, character = '\r' → rest ++ second = '\n' :: later → False := by
  rintro later rfl follows
  cases rest with
  | nil =>
      exact ends.ne_nil (by decide) rfl
  | cons next others =>
      rw [List.cons_append] at follows
      obtain ⟨rfl, _⟩ := List.cons.inj follows
      exact single others rfl rfl

/-- A text that ends in a newline is split into lines apart from what follows it. -/
theorem lines_append_of_endsLine
    {first : Text}
    (ends : EndsLine first)
    (second : Text) :
    lines (first ++ second) = lines first ++ lines second := by
  fun_induction lines first with
  | case1 =>
      rfl
  | case2 rest inductionHypothesis =>
      rw [List.cons_append, List.cons_append, lines, inductionHypothesis ends.tail.tail]
      rfl
  | case3 character rest single breaks inductionHypothesis =>
      rw [List.cons_append, lines.eq_3 _ _ (ends.single_append single second), if_pos breaks,
        inductionHypothesis ends.tail]
      rfl
  | case4 character rest single goesOn inductionHypothesis =>
      have other : character ≠ '\n' := by
        rintro rfl
        exact goesOn rfl
      rw [List.cons_append, lines.eq_3 _ _ (ends.single_append single second), if_neg goesOn,
        inductionHypothesis ends.tail]
      exact consToFirst_append character (lines_ne_nil (ends.ne_nil other)) _

/-- What stands before the first boundary in a text. -/
def firstLine (text : Text) : Text :=
  text.takeWhile fun character => !isLineBreak character

theorem firstLine_eq_self_iff
    {text : Text} :
    firstLine text = text ↔ Unbroken text := by
  simp [firstLine, Unbroken, List.takeWhile_eq_self_iff]

theorem unbroken_firstLine (text : Text) :
    Unbroken (firstLine text) := by
  intro character member
  simpa using List.mem_takeWhile_imp member

theorem firstLine_cons
    {character : Char}
    (goesOn : isLineBreak character = false)
    (rest : Text) :
    firstLine (character :: rest) = character :: firstLine rest :=
  List.takeWhile_cons_of_pos (by simp [goesOn])

theorem firstLine_append_of_unbroken
    {text : Text}
    (unbroken : Unbroken text)
    (later : Text) :
    firstLine (text ++ later) = text ++ firstLine later :=
  List.takeWhile_append_of_pos fun character member => by
    simp [unbroken character member]

/-- What stands behind a newline does not matter to the first line. -/
theorem firstLine_append_of_newline
    (text : Text)
    {later : Text}
    (ends : later = [] ∨ later.head? = some '\n') :
    firstLine (text ++ later) = firstLine text := by
  have nothing : firstLine later = [] := by
    cases later with
    | nil =>
        rfl
    | cons character rest =>
        rcases ends with isNil | isFirst
        · cases isNil
        · cases isFirst
          rfl
  rw [firstLine, List.takeWhile_append]
  split
  case isTrue whole =>
    have kept : firstLine text = text := (List.takeWhile_prefix _).eq_of_length whole
    rw [← firstLine, nothing, List.append_nil, kept]
  case isFalse =>
    rfl

theorem exists_lines_eq_cons
    {text : Text}
    (nonempty : text ≠ []) :
    ∃ later, lines text = firstLine text :: later := by
  fun_induction lines text with
  | case1 =>
      exact (nonempty rfl).elim
  | case2 rest _ =>
      exact ⟨_, rfl⟩
  | case3 character rest _ breaks _ =>
      refine ⟨lines rest, ?_⟩
      rw [firstLine, List.takeWhile_cons_of_neg (by simpa using breaks)]
  | case4 character rest _ goesOn inductionHypothesis =>
      rw [firstLine_cons (by simpa using goesOn)]
      cases rest with
      | nil =>
          exact ⟨_, rfl⟩
      | cons next others =>
          obtain ⟨later, split⟩ := inductionHypothesis (List.cons_ne_nil _ _)
          rw [split]
          exact ⟨later, rfl⟩

/-- A character that ends no line is in front of the first one. -/
theorem consToFirst_lines
    {character : Char}
    (goesOn : isLineBreak character = false)
    (rest : Text) :
    consToFirst character (lines rest) =
      firstLine (character :: rest) :: (lines rest).drop 1 := by
  rw [firstLine_cons goesOn]
  cases rest with
  | nil =>
      rfl
  | cons next others =>
      obtain ⟨later, split⟩ := exists_lines_eq_cons (List.cons_ne_nil next others)
      rw [split]
      rfl

/--
The boundaries in the front of a text end lines that are made of the front alone; what comes
after the last of them opens the next line.
-/
theorem exists_lines_append
    {front : Text}
    (noReturn : '\r' ∉ front)
    (text : Text) :
    ∃ skipped opening,
      lines (front ++ text) = skipped ++ lines (opening ++ text) ∧
        Unbroken opening ∧
        ∀ line ∈ opening :: skipped, line ⊆ front := by
  induction front with
  | nil =>
      exact ⟨[], [], rfl, by simp [Unbroken], by simp⟩
  | cons character rest inductionHypothesis =>
      rw [List.mem_cons, not_or] at noReturn
      obtain ⟨notReturn, noReturnRest⟩ := noReturn
      obtain ⟨skipped, opening, split, unbroken, parts⟩ := inductionHypothesis noReturnRest
      have partsHere : ∀ line ∈ opening :: skipped, line ⊆ character :: rest :=
        fun line member => List.subset_cons_of_subset _ (parts line member)
      rw [List.cons_append]
      by_cases breaks : isLineBreak character = true
      · refine ⟨[] :: skipped, opening, ?_, unbroken, ?_⟩
        · rw [lines.eq_3 _ _ fun _ isReturn _ => notReturn isReturn.symm, if_pos breaks,
            split, List.cons_append]
        · rw [List.forall_mem_cons] at partsHere ⊢
          exact ⟨partsHere.1, List.forall_mem_cons.mpr ⟨List.nil_subset _, partsHere.2⟩⟩
      · have goesOn : isLineBreak character = false := by
          rwa [Bool.not_eq_true] at breaks
        rw [lines_cons_of_unbroken goesOn, split]
        cases skipped with
        | nil =>
            refine ⟨[], character :: opening, ?_, ?_, ?_⟩
            · rw [List.nil_append, List.nil_append, List.cons_append,
                lines_cons_of_unbroken goesOn]
            · exact List.forall_mem_cons.mpr ⟨goesOn, unbroken⟩
            · rw [List.forall_mem_singleton] at parts ⊢
              exact List.cons_subset_cons _ parts
        | cons first others =>
            refine ⟨(character :: first) :: others, opening, rfl, unbroken, ?_⟩
            simp only [List.forall_mem_cons] at parts partsHere ⊢
            exact ⟨partsHere.1, List.cons_subset_cons _ parts.2.1, partsHere.2.2⟩

end TenantSchema.Text
