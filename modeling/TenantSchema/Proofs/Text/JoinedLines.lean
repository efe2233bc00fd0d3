import TenantSchema.Text.Blank
import TenantSchema.Text.Lines

namespace TenantSchema.Text

/-!
# Joined lines

Lines without a boundary in them, joined by newlines, are the lines of the text that comes out.
Only an empty line at the end is lost, because a newline at the end of a text opens no line.
-/

/-- Whether a line holds no line boundary. -/
def Unbroken (line : Text) : Prop :=
  ∀ character ∈ line, isLineBreak character = false

instance (line : Text) : Decidable (Unbroken line) :=
  List.decidableBAll _ _

theorem lines_cons_of_unbroken
    {character : Char}
    (unbroken : isLineBreak character = false)
    (rest : Text) :
    lines (character :: rest) = consToFirst character (lines rest) := by
  have notReturn : character ≠ '\r' := by
    rintro rfl
    cases unbroken
  rw [lines]
  · simp [unbroken]
  · intro later isReturn
    exact (notReturn isReturn).elim

/-- A newline ends the line before it. -/
theorem lines_append_newline
    {line : Text}
    (unbroken : Unbroken line)
    (rest : Text) :
    lines (line ++ '\n' :: rest) = line :: lines rest := by
  induction line with
  | nil =>
      rw [List.nil_append, lines.eq_3]
      · rfl
      · intro later isReturn
        cases isReturn
  | cons character others inductionHypothesis =>
      have unbrokenRest : Unbroken others := fun other member =>
        unbroken other (List.mem_cons_of_mem _ member)
      rw [List.cons_append,
        lines_cons_of_unbroken (unbroken character List.mem_cons_self),
        inductionHypothesis unbrokenRest, consToFirst]

/-- A text without a boundary is one line. -/
theorem lines_of_unbroken
    {line : Text}
    (unbroken : Unbroken line)
    (nonempty : line ≠ []) :
    lines line = [line] := by
  induction line with
  | nil =>
      exact (nonempty rfl).elim
  | cons character others inductionHypothesis =>
      have unbrokenRest : Unbroken others := fun other member =>
        unbroken other (List.mem_cons_of_mem _ member)
      rw [lines_cons_of_unbroken (unbroken character List.mem_cons_self)]
      cases others with
      | nil =>
          rfl
      | cons next more =>
          rw [inductionHypothesis unbrokenRest (by simp), consToFirst]

theorem joinWith_cons_of_ne_nil
    {separator part : Text}
    {rest : List Text}
    (more : rest ≠ []) :
    joinWith separator (part :: rest) = part ++ separator ++ joinWith separator rest := by
  rw [joinWith]
  exact more

theorem joinWith_append
    {separator : Text}
    {parts later : List Text}
    (nonempty : parts ≠ [])
    (more : later ≠ []) :
    joinWith separator (parts ++ later) =
      joinWith separator parts ++ separator ++ joinWith separator later := by
  induction parts with
  | nil =>
      exact (nonempty rfl).elim
  | cons part rest inductionHypothesis =>
      cases rest with
      | nil =>
          rw [List.singleton_append, joinWith_cons_of_ne_nil more]
          rfl
      | cons next others =>
          have nonemptyRest : next :: others ≠ [] := List.cons_ne_nil _ _
          rw [List.cons_append, joinWith_cons_of_ne_nil (by simp),
            inductionHypothesis nonemptyRest, joinWith_cons_of_ne_nil nonemptyRest]
          simp only [List.append_assoc]

/-- Joined lines are blank exactly if each of them is. -/
theorem allBlank_joinWith
    (source : List Text) :
    allBlank (joinWith ['\n'] source) = source.all allBlank := by
  induction source with
  | nil =>
      rfl
  | cons line rest inductionHypothesis =>
      cases rest with
      | nil =>
          simp [joinWith]
      | cons next others =>
          have newline : isBlank '\n' = true := by
            decide
          rw [joinWith_cons_of_ne_nil (by simp), List.all_cons, ← inductionHypothesis]
          simp [allBlank, newline]

/-- Lines that are joined by newlines are found again, if the last one is not empty. -/
theorem lines_joinWith
    {source : List Text}
    (unbroken : ∀ line ∈ source, Unbroken line)
    (ends : ∀ line, source.getLast? = some line → line ≠ []) :
    lines (joinWith ['\n'] source) = source := by
  induction source with
  | nil =>
      rfl
  | cons line rest inductionHypothesis =>
      rw [List.forall_mem_cons] at unbroken
      cases rest with
      | nil =>
          exact lines_of_unbroken unbroken.1 (ends line rfl)
      | cons next others =>
          rw [joinWith_cons_of_ne_nil (by simp), List.append_assoc, List.singleton_append,
            lines_append_newline unbroken.1, inductionHypothesis unbroken.2]
          intro last isLast
          apply ends
          rw [List.getLast?_cons_cons, isLast]

/-- An empty line at the end leaves no trace in the lines of the text. -/
theorem lines_joinWith_concat_nil
    {source : List Text}
    (unbroken : ∀ line ∈ source, Unbroken line) :
    lines (joinWith ['\n'] (source ++ [[]])) = source := by
  induction source with
  | nil =>
      rfl
  | cons line rest inductionHypothesis =>
      rw [List.forall_mem_cons] at unbroken
      rw [List.cons_append, joinWith_cons_of_ne_nil (by simp), List.append_assoc,
        List.singleton_append, lines_append_newline unbroken.1,
        inductionHypothesis unbroken.2]

theorem mem_joinWith
    {character : Char}
    {separator : Text}
    {parts : List Text}
    (member : character ∈ joinWith separator parts) :
    character ∈ separator ∨ ∃ part ∈ parts, character ∈ part := by
  induction parts with
  | nil =>
      cases member
  | cons part rest inductionHypothesis =>
      cases rest with
      | nil =>
          exact .inr ⟨part, List.mem_cons_self, member⟩
      | cons next others =>
          rw [joinWith_cons_of_ne_nil (by simp), List.mem_append, List.mem_append] at member
          rcases member with (inPart | inSeparator) | later
          · exact .inr ⟨part, List.mem_cons_self, inPart⟩
          · exact .inl inSeparator
          · rcases inductionHypothesis later with inSeparator | ⟨other, isPart, inOther⟩
            · exact .inl inSeparator
            · exact .inr ⟨other, List.mem_cons_of_mem part isPart, inOther⟩

/-- No line of a text holds a line boundary. -/
theorem unbroken_of_mem_lines
    {text line : Text}
    (member : line ∈ lines text) :
    Unbroken line := by
  fun_induction lines text generalizing line with
  | case1 =>
      cases member
  | case2 rest inductionHypothesis | case3 character rest _ _ inductionHypothesis =>
      rcases List.mem_cons.mp member with rfl | later
      · intro character isNil
        cases isNil
      · exact inductionHypothesis later
  | case4 character rest _ goesOn inductionHypothesis =>
      have unbroken : isLineBreak character = false := by
        rwa [Bool.not_eq_true] at goesOn
      cases split : lines rest with
      | nil =>
          rw [split] at member
          cases List.mem_singleton.mp member
          exact List.forall_mem_singleton.mpr unbroken
      | cons first others =>
          rw [split] at member inductionHypothesis
          rcases List.mem_cons.mp member with rfl | later
          · exact List.forall_mem_cons.mpr
              ⟨unbroken, inductionHypothesis List.mem_cons_self⟩
          · exact inductionHypothesis (List.mem_cons_of_mem first later)

end TenantSchema.Text
