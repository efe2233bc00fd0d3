import TenantSchema.Proofs.Script.Division

namespace TenantSchema.Script

open Text

/-!
# The line that an error reports

One line keeps a script from being cut into blocks.  It is met outside every block, and it
creates the database without the placeholder or opens a section that no later line closes.  An
error reports that line and its delimiter, unless the section has a body: then the line after the
marker is reported, which is the first of the body.
-/

/--
Whether a line that is met outside every block keeps a script from being cut into blocks, given
the lines after it: without a delimiter because it creates the database and lacks the placeholder,
with one because it opens a section of this delimiter that is never closed.
-/
def Offends (placeholder line : Text) (later : List Text) : (token? : Option Text) → Prop
  | none =>
      LineClass.ofLine (statementLine line) = .database ∧
        occursIn placeholder (statementLine line) = false
  | some token =>
      LineClass.ofLine (statementLine line) = .sectionStart token ∧
        ∀ other ∈ later, isClosingMarker other = false

/-- Whether the line of a number, counted from one, is met outside every block and offends. -/
def IsOffender
    (placeholder : Text)
    (source : List Text)
    (number : Nat)
    (token? : Option Text) :
    Prop :=
  ∃ passages line later,
    source = linesOf passages ++ line :: later ∧
      (∀ passage ∈ passages, passage.IsComplete placeholder) ∧
      number = (linesOf passages).length + 1 ∧
      Offends placeholder line later token?

/-- The error about an offending line in a script of so many lines. -/
def errorAbout (placeholder : Text) (lineCount number : Nat) : Option Text → ScriptError
  | none =>
      .missingPlaceholder number placeholder
  | some token =>
      if number < lineCount then .openSection (number + 1) token else .emptySection number token

/-- The error about an opened section reports the line after it, if there is one. -/
theorem line_errorAbout
    (placeholder : Text)
    (lineCount number : Nat)
    (token? : Option Text) :
    (errorAbout placeholder lineCount number token?).line =
      if token? ≠ none ∧ number < lineCount then number + 1 else number := by
  cases token? with
  | none =>
      rfl
  | some token =>
      simp only [errorAbout, ne_eq, reduceCtorEq, not_false_eq_true, true_and]
      split <;> rfl

theorem errorAbout_injective
    {placeholder : Text}
    {lineCount first second : Nat}
    {token? : Option Text}
    (same :
      errorAbout placeholder lineCount first token? =
        errorAbout placeholder lineCount second token?) :
    first = second := by
  cases token? with
  | none =>
      exact (ScriptError.missingPlaceholder.inj same).1
  | some token =>
      simp only [errorAbout] at same
      split at same <;> split at same
      · exact Nat.succ.inj (ScriptError.openSection.inj same).1
      · cases same
      · cases same
      · exact (ScriptError.emptySection.inj same).1

section

variable
  {substitution : Substitution}
  {placeholder script : Text}
  {source : List Text}
  {number : Nat}
  {token? : Option Text}
  {failure : ScriptError}

/-- The line that offends is a line of the script. -/
theorem IsOffender.le_length
    (offender : IsOffender placeholder source number token?) :
    number ≤ source.length := by
  obtain ⟨passages, line, later, rfl, _, rfl, _⟩ := offender
  simp

/-- An offending line ends the scan with the error about it. -/
theorem failure_of_offends
    {line : Text}
    {later : List Text}
    (number : Nat)
    (offends : Offends substitution.placeholder line later token?) :
    (scanLines substitution .outside number (line :: later)).failure =
      some (errorAbout substitution.placeholder (number + later.length) number token?) := by
  cases token? with
  | none =>
      have ends : (Ending.withoutPlaceholder line later).Occurs substitution.placeholder :=
        offends
      have scanned :
          scanLines substitution .outside number (line :: later) =
            .stop .outside (.missingPlaceholder number substitution.placeholder) :=
        scanLines_ending ends
      rw [scanned]
      rfl
  | some token =>
      have ends : (Ending.openSection token line later).Occurs substitution.placeholder :=
        offends
      have scanned :
          scanLines substitution .outside number (line :: later) =
            finish (sectionState number token later) :=
        scanLines_ending ends
      rw [scanned]
      cases later with
      | nil =>
          simp [sectionState, finish, Scan.stop, errorAbout]
      | cons first rest =>
          simp [sectionState, finish, Scan.stop, errorAbout]

/-- A script with an offending line has no blocks but the error about that line. -/
theorem blocks_of_isOffender
    (offender : IsOffender substitution.placeholder (Text.lines script) number token?) :
    (read substitution script).blocks =
      .error
        (errorAbout substitution.placeholder (Text.lines script).length number token?) := by
  obtain ⟨passages, line, later, covers, complete, rfl, offends⟩ := offender
  have ends := failure_of_offends (1 + (linesOf passages).length) offends
  apply blocks_eq_error_iff.mpr
  rw [covers, scanLines_passages _ complete]
  dsimp only
  rw [ends, List.length_append, List.length_cons, Nat.add_comm 1, Nat.add_right_comm]
  rfl

/-- A script without blocks has an offending line, and its error is about that line. -/
theorem exists_isOffender
    (refused : (read substitution script).blocks = .error failure) :
    ∃ number, IsOffender substitution.placeholder (Text.lines script) number failure.token? := by
  obtain ⟨passages, ending, divides⟩ :=
    exists_divides substitution.placeholder (Text.lines script)
  have covers := divides.covers
  have ends := divides.ends
  rw [blocks_of_divides divides] at refused
  cases ending with
  | complete | cutShort =>
      cases refused
  | withoutPlaceholder line rest =>
      cases refused
      exact ⟨_, passages, line, rest, covers, divides.complete, rfl, ends⟩
  | openSection token marker body =>
      have sameToken : failure.token? = some token := by
        cases body <;> cases refused <;> rfl
      rw [sameToken]
      exact ⟨_, passages, marker, body, covers, divides.complete, rfl, ends⟩

/--
An error reports the one line that offends and its delimiter, exactly if that line creates the
database or is the last of the script; for a section with a body it reports the line after.
-/
theorem error_reports_offender_iff
    (refused : (read substitution script).blocks = .error failure) :
    ∃ number,
      (∀ other,
        IsOffender substitution.placeholder (Text.lines script) other failure.token? ↔
          other = number) ∧
        (failure.line = number ↔
          failure.token? = none ∨ number = (Text.lines script).length) ∧
        (failure.line = number ∨ failure.line = number + 1) := by
  obtain ⟨number, offender⟩ := exists_isOffender refused
  have about (other : Nat)
      (offends :
        IsOffender substitution.placeholder (Text.lines script) other failure.token?) :
      failure =
        errorAbout substitution.placeholder (Text.lines script).length other
          failure.token? := by
    rw [blocks_of_isOffender offends] at refused
    exact (Except.error.inj refused).symm
  have reported := congrArg ScriptError.line (about number offender)
  rw [line_errorAbout] at reported
  have isLine := offender.le_length
  refine ⟨number, fun other => ⟨?_, ?_⟩, ?_, ?_⟩
  · intro offends
    exact errorAbout_injective ((about other offends).symm.trans (about number offender))
  · rintro rfl
    exact offender
  · rw [reported]
    split
    case isTrue goesOn =>
      simp only [goesOn.1, false_or]
      omega
    case isFalse ends =>
      rw [not_and_or, not_not] at ends
      exact iff_of_true rfl (ends.imp_right fun isLast => by omega)
  · rw [reported]
    split
    · exact .inr rfl
    · exact .inl rfl

/-- A section with a body that is never closed: the table before it is whole. -/
theorem unclosed_routine_is_reported_behind_marker :
    let substitution : Substitution :=
      { placeholder := defaultPlaceholder, target := "acme".toList }
    let script : Text :=
      "CREATE TABLE t (\n  id INT) ENGINE=InnoDB;\nDELIMITER $$\nBEGIN\nEND $$".toList
    let failure : ScriptError := .openSection 4 "$$".toList
    (read substitution script).blocks = .error failure ∧
      IsOffender substitution.placeholder (Text.lines script) 3 failure.token? ∧
      ∃ number,
        (∀ other,
          IsOffender substitution.placeholder (Text.lines script) other failure.token? ↔
            other = number) ∧
          (failure.line = number ↔
            failure.token? = none ∨ number = (Text.lines script).length) ∧
          (failure.line = number ∨ failure.line = number + 1) := by
  intro substitution script failure
  have refused : (read substitution script).blocks = .error failure := rfl
  let table : Passage :=
    .definition .table "CREATE TABLE t (".toList ["  id INT) ENGINE=InnoDB;".toList]
  have complete : table.IsComplete substitution.placeholder := ⟨rfl, by decide⟩
  have offends :
      Offends substitution.placeholder "DELIMITER $$".toList
        ["BEGIN".toList, "END $$".toList] failure.token? :=
    ⟨rfl, by decide⟩
  have offender :
      IsOffender substitution.placeholder (Text.lines script) 3 failure.token? :=
    ⟨[table], _, _, rfl, List.forall_mem_singleton.mpr complete, rfl, offends⟩
  exact ⟨refused, offender, error_reports_offender_iff refused⟩

/-- The line that the error about an open section reports is no marker and creates no database. -/
theorem error_of_open_section_misses_marker :
    let substitution : Substitution :=
      { placeholder := defaultPlaceholder, target := "acme".toList }
    let script : Text := "DELIMITER ;;\nSELECT 1;;\n".toList
    let reported : Text := "SELECT 1;;".toList
    ∃ failure,
      (read substitution script).blocks = .error failure ∧
        (Text.lines script)[failure.line - 1]? = some reported ∧
        startsWithCapitals "CREATE DATABASE".toList (statementLine reported) = false ∧
        delimiterToken? (statementLine reported) = none := by
  intro substitution script reported
  exact ⟨.openSection 2 ";;".toList, rfl, by decide, by decide, by decide⟩

end

end TenantSchema.Script
