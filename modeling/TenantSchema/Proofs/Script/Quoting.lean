import TenantSchema.Proofs.Script.InsertLines
import TenantSchema.Proofs.Script.Likeness
import TenantSchema.Proofs.Script.Terminators

namespace TenantSchema.Script

open Text

/-!
# Back quotes of a script

Back quotes are deleted from every line after a script is split into lines.  Deleting them
from the script itself leaves the same lines, except that a last line of nothing but back
quotes is lost with them.  Such a line is blank: it does not show in the text of a block that
is still open, and it closes no section.
-/

/-- Scans that are both stopped by an error, or that finish the same blocks. -/
inductive Scan.SameBlocks (first second : Scan) : Prop
  | refused
      (firstFails : first.failure.isSome = true)
      (secondFails : second.failure.isSome = true)
  | finished
      (firstReads : first.failure = none)
      (secondReads : second.failure = none)
      (drafts : first.drafts = second.drafts)

theorem unquoteIdentifiers_unquoteIdentifiers (line : Text) :
    unquoteIdentifiers (unquoteIdentifiers line) = unquoteIdentifiers line := by
  simp [unquoteIdentifiers]

theorem map_unquoteIdentifiers_consToFirst
    {character : Char}
    (plain : character ≠ '\x60')
    (source : List Text) :
    (consToFirst character source).map unquoteIdentifiers =
      consToFirst character (source.map unquoteIdentifiers) := by
  cases source with
  | nil =>
      exact congrArg (fun line => [line]) (unquoteIdentifiers_cons plain [])
  | cons line rest =>
      exact congrArg (fun first => first :: rest.map unquoteIdentifiers)
        (unquoteIdentifiers_cons plain line)

/-- Without its back quotes a text has the same lines, or all but a last one without content. -/
theorem map_unquoteIdentifiers_lines
    {text : Text}
    (noReturn : '\r' ∉ text) :
    (lines text).map unquoteIdentifiers = lines (unquoteIdentifiers text) ∨
      (lines text).map unquoteIdentifiers = lines (unquoteIdentifiers text) ++ [[]] := by
  induction text with
  | nil =>
      exact .inl rfl
  | cons character rest inductionHypothesis =>
      rw [List.mem_cons, not_or] at noReturn
      obtain ⟨notReturn, noReturnRest⟩ := noReturn
      have sameLines := inductionHypothesis noReturnRest
      by_cases quote : character = '\x60'
      · subst quote
        have unbroken : isLineBreak '\x60' = false := rfl
        have dropped : unquoteIdentifiers ('\x60' :: rest) = unquoteIdentifiers rest := rfl
        rw [lines_cons_of_unbroken unbroken, dropped]
        cases split : lines rest with
        | nil =>
            -- The back quote is all that there is on the last line.
            right
            cases rest with
            | nil =>
                rfl
            | cons next others =>
                exact (lines_ne_nil (List.cons_ne_nil next others) split).elim
        | cons line others =>
            rw [split] at sameLines
            exact sameLines
      · rw [unquoteIdentifiers_cons quote]
        cases breaks : isLineBreak character with
        | true =>
            have single (text : Text) :
                ∀ later, character = '\r' → text = '\n' :: later → False :=
              fun _ isReturn _ => notReturn isReturn.symm
            rw [lines.eq_3 _ _ (single _), lines.eq_3 _ _ (single _), if_pos breaks,
              if_pos breaks, List.map_cons]
            exact sameLines.imp (congrArg (List.cons [])) (congrArg (List.cons []))
        | false =>
            rw [lines_cons_of_unbroken breaks, lines_cons_of_unbroken breaks,
              map_unquoteIdentifiers_consToFirst quote]
            rcases sameLines with same | oneMore
            · exact .inl (congrArg (consToFirst character) same)
            · rw [oneMore]
              cases lines (unquoteIdentifiers rest) with
              | nil =>
                  exact .inl rfl
              | cons line others =>
                  exact .inr rfl

section

variable
  {substitution : Substitution}
  {state : ScanState}
  {lineNumber : Nat}

theorem readLine_unquoteIdentifiers (line : Text) :
    readLine substitution state lineNumber (unquoteIdentifiers line) =
      readLine substitution state lineNumber line := by
  unfold readLine
  rw [unquoteIdentifiers_unquoteIdentifiers]

/-- Lines are scanned as they are without their back quotes. -/
theorem scanLines_map_unquoteIdentifiers (source : List Text) :
    scanLines substitution state lineNumber (source.map unquoteIdentifiers) =
      scanLines substitution state lineNumber source := by
  induction source generalizing state lineNumber with
  | nil =>
      rfl
  | cons line rest inductionHypothesis =>
      rw [List.map_cons, scanLines, scanLines, readLine_unquoteIdentifiers]
      simp only [inductionHypothesis]

/-- An empty line does not show in the block that it ends. -/
theorem closeBlock_concat_nil
    (kind : Kind)
    (startLine : Nat)
    (source : List Text) :
    closeBlock kind startLine (source ++ [[]]) = closeBlock kind startLine source := by
  have sameBlank : (source ++ [[]]).all allBlank = source.all allBlank := by
    rw [List.all_append, List.all_cons]
    exact Bool.and_true _
  unfold closeBlock
  rw [sameBlank]
  split
  case isTrue =>
    rfl
  case isFalse notBlank =>
    have solid : ∃ line ∈ source, allBlank line = false := by
      simpa using notBlank
    rw [blockText_append_of_blank solid (List.forall_mem_singleton.mpr rfl)]

theorem finish_concat_nil (state : ScanState) (lineNumber : Nat) :
    (scanLines substitution state lineNumber [[]]).SameBlocks (finish state) := by
  cases state with
  | outside =>
      exact .finished rfl rfl rfl
  | inTable startLine collected =>
      exact .finished rfl rfl
        (congrArg Option.toList (closeBlock_concat_nil .createTable startLine collected))
  | inStatement startLine collected =>
      exact .finished rfl rfl
        (congrArg Option.toList (closeBlock_concat_nil .other startLine collected))
  | atSection | inRoutine =>
      exact .refused rfl rfl

/-- An empty line at the end of a script changes none of its blocks. -/
theorem scanLines_concat_nil (source : List Text) :
    (scanLines substitution state lineNumber (source ++ [[]])).SameBlocks
      (scanLines substitution state lineNumber source) := by
  induction source generalizing state lineNumber with
  | nil =>
      exact finish_concat_nil state lineNumber
  | cons line rest inductionHypothesis =>
      rw [List.cons_append, scanLines, scanLines]
      cases readLine substitution state lineNumber line with
      | error failure =>
          exact .refused rfl rfl
      | ok progress =>
          cases @inductionHypothesis progress.next (lineNumber + 1) with
          | refused firstFails secondFails =>
              exact .refused firstFails secondFails
          | finished firstReads secondReads drafts =>
              exact .finished firstReads secondReads
                (congrArg (progress.finished.toList ++ ·) drafts)

theorem Scan.SameBlocks.likeOutcome
    {first second : Text}
    (scans :
      (scanLines substitution .outside 1 (Text.lines first)).SameBlocks
        (scanLines substitution .outside 1 (Text.lines second))) :
    LikeOutcome Eq (read substitution first).blocks (read substitution second).blocks := by
  cases scans with
  | refused firstFails secondFails =>
      obtain ⟨firstFailure, firstFails⟩ := Option.isSome_iff_exists.mp firstFails
      obtain ⟨secondFailure, secondFails⟩ := Option.isSome_iff_exists.mp secondFails
      rw [blocks_eq_error_iff.mpr firstFails, blocks_eq_error_iff.mpr secondFails]
      exact .refused firstFailure secondFailure
  | finished firstReads secondReads drafts =>
      rw [blocks_eq_ok_iff.mpr ⟨firstReads, rfl⟩, blocks_eq_ok_iff.mpr ⟨secondReads, rfl⟩,
        drafts]
      exact .ok rfl

/--
A script without carriage returns and the script without its back quotes have the same blocks,
or both have none.
-/
theorem back_quotes_are_invisible
    {script : Text}
    (noReturn : '\r' ∉ script) :
    LikeOutcome Eq
      (read substitution script).blocks
      (read substitution (unquoteIdentifiers script)).blocks := by
  apply Scan.SameBlocks.likeOutcome
  rw [← scanLines_map_unquoteIdentifiers (Text.lines script)]
  rcases map_unquoteIdentifiers_lines noReturn with same | oneMore
  · rw [same]
    cases fails :
        (scanLines substitution .outside 1 (lines (unquoteIdentifiers script))).failure with
    | none =>
        exact .finished fails fails rfl
    | some failure =>
        exact .refused (Option.isSome_of_eq_some fails) (Option.isSome_of_eq_some fails)
  · rw [oneMore]
    exact scanLines_concat_nil _

/-- Back quotes within keywords and names, and one for itself behind a table that stays open. -/
theorem quoted_table_is_read_without_quotes :
    let substitution : Substitution :=
      { placeholder := defaultPlaceholder, target := "acme".toList }
    let script : Text :=
      "CREATE DATA\x60BASE __database\x60_name__;\nCREATE\x60 TABLE\x60 t (\n\x60id\x60 INT\n\x60".toList
    let blocks : List Block :=
      [
        { kind := .createDatabase, text := "CREATE DATABASE acme;".toList, order := 0,
          lineNumber := 1 },
        { kind := .createTable, text := "CREATE TABLE t (\nid INT".toList, order := 1,
          lineNumber := 2 }
      ]
    '\r' ∉ script ∧
      (Text.lines script).length = 4 ∧
      (Text.lines (unquoteIdentifiers script)).length = 3 ∧
      (read substitution script).blocks = .ok blocks ∧
      LikeOutcome Eq
        (read substitution script).blocks
        (read substitution (unquoteIdentifiers script)).blocks := by
  intro substitution script blocks
  have noReturn : '\r' ∉ script := by
    decide
  exact ⟨noReturn, rfl, rfl, rfl, back_quotes_are_invisible noReturn⟩

end

end TenantSchema.Script
