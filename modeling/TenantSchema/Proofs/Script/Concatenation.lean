import TenantSchema.Proofs.Script.Division
import TenantSchema.Proofs.Text.LineEnds

namespace TenantSchema

open Text

/-!
# Scripts one after the other

Nothing of a closed block is left in the state of a scan.  So a script that leaves no block open
can be followed by any other: the blocks of both are those of the first and then those of the
second, moved behind them, and an error in the second is reported on the line that it has in
both.
-/

/-- A block that stands so many places and lines further on. -/
def Block.moved (places lines : Nat) (block : Block) : Block :=
  {
    block with
    order := block.order + places
    lineNumber := block.lineNumber + lines
  }

namespace Script

/-- A finished block that stands so many lines further on. -/
def Draft.moved (lines : Nat) (draft : Draft) : Draft :=
  { draft with lineNumber := draft.lineNumber + lines }

/-- An error that occurs so many lines further on. -/
def ScriptError.moved (lines : Nat) : ScriptError → ScriptError
  | .missingPlaceholder line placeholder =>
      .missingPlaceholder (line + lines) placeholder
  | .emptySection line token =>
      .emptySection (line + lines) token
  | .openSection startLine token =>
      .openSection (startLine + lines) token

/-- An error that is moved reports another line. -/
@[simp] theorem ScriptError.line_moved
    (lines : Nat)
    (failure : ScriptError) :
    (failure.moved lines).line = failure.line + lines := by
  cases failure <;> rfl

/-- An error that is moved is about the same delimiter. -/
@[simp] theorem ScriptError.token?_moved
    (lines : Nat)
    (failure : ScriptError) :
    (failure.moved lines).token? = failure.token? := by
  cases failure <;> rfl

/-- The state that lines leave a scan in, unless one of them is an error. -/
def stateAfter
    (substitution : Substitution)
    (state : ScanState)
    (lineNumber : Nat) :
    List Text → Except ScriptError ScanState
  | [] =>
      .ok state
  | line :: rest =>
      match readLine substitution state lineNumber line with
      | .error failure =>
          .error failure
      | .ok progress =>
          stateAfter substitution progress.next (lineNumber + 1) rest

/-- Whether a script can be read to its end and leaves no block open there. -/
def LeavesNothingOpen (substitution : Substitution) (script : Text) : Prop :=
  stateAfter substitution .outside 1 (Text.lines script) = .ok .outside

/-- A scan that goes on with another one. -/
def Scan.followedBy (first second : Scan) : Scan :=
  {
    second with
    drafts := first.drafts ++ second.drafts
    notes := first.notes ++ second.notes
  }

theorem Scan.after_followedBy
    (progress : Progress)
    (first second : Scan) :
    (Scan.after progress first).followedBy second =
      .after progress (first.followedBy second) := by
  simp [Scan.after, Scan.followedBy, List.append_assoc]

section

variable
  {substitution : Substitution}
  {state : ScanState}
  {lineNumber : Nat}
  {first : List Text}

/-- Lines behind others are read from the state that those lead to. -/
theorem stateAfter_append
    (state : ScanState)
    (lineNumber : Nat)
    (first second : List Text) :
    stateAfter substitution state lineNumber (first ++ second) =
      (stateAfter substitution state lineNumber first).bind fun middle =>
        stateAfter substitution middle (lineNumber + first.length) second := by
  induction first generalizing state lineNumber with
  | nil =>
      rfl
  | cons line rest inductionHypothesis =>
      rw [List.cons_append, stateAfter, stateAfter]
      cases readLine substitution state lineNumber line with
      | error failure =>
          rfl
      | ok progress =>
          rw [List.length_cons, Nat.add_comm rest.length, ← Nat.add_assoc]
          exact inductionHypothesis progress.next (lineNumber + 1)

/-- Lines that leave no block open are scanned without an error. -/
theorem failure_of_stateAfter
    (closed : stateAfter substitution state lineNumber first = .ok .outside) :
    (scanLines substitution state lineNumber first).failure = none := by
  induction first generalizing state lineNumber with
  | nil =>
      cases closed
      rfl
  | cons line rest inductionHypothesis =>
      rw [stateAfter] at closed
      cases reads : readLine substitution state lineNumber line with
      | error failure =>
          rw [reads] at closed
          cases closed
      | ok progress =>
          rw [reads] at closed
          rw [scanLines_cons_of_ok reads]
          exact inductionHypothesis closed

/-- The lines after those that leave no block open are scanned for themselves. -/
theorem scanLines_append
    (closed : stateAfter substitution state lineNumber first = .ok .outside)
    (second : List Text) :
    scanLines substitution state lineNumber (first ++ second) =
      (scanLines substitution state lineNumber first).followedBy
        (scanLines substitution .outside (lineNumber + first.length) second) := by
  induction first generalizing state lineNumber with
  | nil =>
      cases closed
      rfl
  | cons line rest inductionHypothesis =>
      rw [stateAfter] at closed
      cases reads : readLine substitution state lineNumber line with
      | error failure =>
          rw [reads] at closed
          cases closed
      | ok progress =>
          rw [reads] at closed
          rw [List.cons_append, scanLines_cons_of_ok reads, scanLines_cons_of_ok reads,
            inductionHypothesis closed, Scan.after_followedBy, List.length_cons,
            Nat.add_assoc, Nat.add_comm 1]

/-- The block of a passage starts so many lines further on if the passage does. -/
theorem Passage.draft?_moved
    (passage : Passage)
    (moved : Nat) :
    passage.draft? substitution (lineNumber + moved) =
      (passage.draft? substitution lineNumber).map (.moved moved) := by
  cases passage with
  | skipped | database | insert | definition =>
      rfl
  | delimited token marker body closing =>
      rw [Passage.draft?, Passage.draft?]
      split
      · rfl
      · rw [Option.map_some, Draft.moved, Nat.add_right_comm]

theorem draftsOf_moved
    (passages : List Passage)
    (moved : Nat) :
    draftsOf substitution (lineNumber + moved) passages =
      (draftsOf substitution lineNumber passages).map (.moved moved) := by
  induction passages generalizing lineNumber with
  | nil =>
      rfl
  | cons passage rest inductionHypothesis =>
      rw [draftsOf, draftsOf, passage.draft?_moved, Nat.add_right_comm, inductionHypothesis,
        List.map_append, Option.toList_map]

/-- What is left of a script ends it in the same way so many lines further on. -/
theorem Ending.scan_moved
    (placeholder : Text)
    (ending : Ending)
    (lineNumber moved : Nat) :
    (ending.scan placeholder (lineNumber + moved)).drafts =
        (ending.scan placeholder lineNumber).drafts.map (.moved moved) ∧
      (ending.scan placeholder (lineNumber + moved)).failure =
        (ending.scan placeholder lineNumber).failure.map (.moved moved) := by
  cases ending with
  | complete | withoutPlaceholder =>
      exact ⟨rfl, rfl⟩
  | cutShort form first rest =>
      refine ⟨?_, rfl⟩
      simp only [Ending.scan, Scan.cutShort, closeBlock]
      split <;> rfl
  | openSection token marker body =>
      cases body with
      | nil =>
          exact ⟨rfl, rfl⟩
      | cons line rest =>
          refine ⟨rfl, ?_⟩
          simp [Ending.scan, sectionState, finish, Scan.stop, ScriptError.moved,
            Nat.add_right_comm]

/-- Lines lead to the same blocks, and to the same error if any, wherever they stand. -/
theorem scanLines_moved
    (substitution : Substitution)
    (lineNumber moved : Nat)
    (source : List Text) :
    (scanLines substitution .outside (lineNumber + moved) source).drafts =
        (scanLines substitution .outside lineNumber source).drafts.map (.moved moved) ∧
      (scanLines substitution .outside (lineNumber + moved) source).failure =
        (scanLines substitution .outside lineNumber source).failure.map (.moved moved) := by
  obtain ⟨passages, ending, divides⟩ := exists_divides substitution.placeholder source
  obtain ⟨sameDrafts, sameFailure⟩ :=
    ending.scan_moved substitution.placeholder (lineNumber + (linesOf passages).length) moved
  rw [scanLines_of_divides divides, scanLines_of_divides divides, Nat.add_right_comm]
  refine ⟨?_, sameFailure⟩
  simp only [draftsOf_moved, sameDrafts, List.map_append]

end

theorem numberDrafts_append
    (place : Nat)
    (drafts later : List Draft) :
    numberDrafts place (drafts ++ later) =
      numberDrafts place drafts ++ numberDrafts (place + drafts.length) later := by
  induction drafts generalizing place with
  | nil =>
      rfl
  | cons draft rest inductionHypothesis =>
      rw [List.cons_append, numberDrafts, numberDrafts, inductionHypothesis, List.length_cons,
        Nat.add_assoc, Nat.add_comm 1, List.cons_append]

theorem numberDrafts_moved
    (place places lines : Nat)
    (drafts : List Draft) :
    numberDrafts (place + places) (drafts.map (.moved lines)) =
      (numberDrafts place drafts).map (.moved places lines) := by
  induction drafts generalizing place with
  | nil =>
      rfl
  | cons draft rest inductionHypothesis =>
      rw [List.map_cons, numberDrafts, numberDrafts, List.map_cons, Nat.add_right_comm,
        inductionHypothesis]
      rfl

/--
A script that is over at the end of a line and leaves no block open has blocks, and a script
behind it has the blocks and the errors that it has for itself, moved behind the first one.
-/
theorem read_append
    {substitution : Substitution}
    {first : Text}
    (ends : EndsLine first)
    (closed : LeavesNothingOpen substitution first)
    (second : Text) :
    ∃ blocks,
      (read substitution first).blocks = .ok blocks ∧
        (∀ later,
          (read substitution second).blocks = .ok later →
          (read substitution (first ++ second)).blocks =
            .ok (blocks ++
              later.map (.moved blocks.length (Text.lines first).length))) ∧
        ∀ failure,
          (read substitution second).blocks = .error failure →
          (read substitution (first ++ second)).blocks =
            .error (failure.moved (Text.lines first).length) := by
  have whole := scanLines_append closed (Text.lines second)
  rw [← lines_append_of_endsLine ends] at whole
  obtain ⟨movedDrafts, movedFailure⟩ :=
    scanLines_moved substitution 1 (Text.lines first).length (Text.lines second)
  refine ⟨_, blocks_eq_ok_iff.mpr ⟨failure_of_stateAfter closed, rfl⟩, ?_, ?_⟩
  · intro later readable
    obtain ⟨noFailure, rfl⟩ := blocks_eq_ok_iff.mp readable
    rw [blocks_eq_ok_iff, whole]
    constructor
    · rw [Scan.followedBy, movedFailure, noFailure]
      rfl
    · rw [Scan.followedBy, movedDrafts, numberDrafts_append, numberDrafts_moved,
        length_numberDrafts]
  · intro failure refused
    rw [blocks_eq_error_iff, whole, Scan.followedBy, movedFailure,
      blocks_eq_error_iff.mp refused]
    rfl

/-- A section with a routine, with a table and with an open section behind it. -/
theorem section_is_read_apart_from_what_follows :
    let substitution : Substitution :=
      { placeholder := defaultPlaceholder, target := "acme".toList }
    let first : Text :=
      joinWith ['\n']
        [
          "DELIMITER ;;".toList, "CREATE PROCEDURE p()".toList, "SELECT 1;;".toList,
          "DELIMITER ;".toList, []
        ]
    let procedure : Block :=
      {
        kind := .procedureBody
        text := "CREATE PROCEDURE p()\nSELECT 1".toList
        order := 0
        lineNumber := 2
      }
    let table : Block :=
      {
        kind := .createTable
        text := "CREATE TABLE t (id INT) ENGINE=InnoDB;".toList
        order := 1
        lineNumber := 5
      }
    EndsLine first ∧
      LeavesNothingOpen substitution first ∧
      (read substitution (first ++ table.text)).blocks = .ok [procedure, table] ∧
      (read substitution (first ++ "\nDELIMITER $$".toList)).blocks =
        .error (.emptySection 6 "$$".toList) := by
  intro substitution first procedure table
  have ends : EndsLine first := by
    decide
  have closed : LeavesNothingOpen substitution first := rfl
  have alone : (read substitution first).blocks = .ok [procedure] := rfl
  obtain ⟨blocks, readable, joined, _⟩ := read_append ends closed table.text
  obtain ⟨_, _, _, refused⟩ := read_append ends closed "\nDELIMITER $$".toList
  cases readable.symm.trans alone
  exact ⟨ends, closed, joined [{ table with order := 0, lineNumber := 1 }] rfl,
    refused (.emptySection 2 "$$".toList) rfl⟩

end Script

end TenantSchema
