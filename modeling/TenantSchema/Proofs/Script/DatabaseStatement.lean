import TenantSchema.Proofs.Text.Trimming
import TenantSchema.Script.Blocks

namespace TenantSchema.Script

open Text

/-!
# Statements that create the database

A block that creates a database is one line of the script, with the trimmed name in the place
of the placeholder.  No block that takes several lines is of that kind.
-/

/-- The statement on a line: the line without back quotes and outer white space. -/
def statementLine (line : Text) : Text :=
  trim (unquoteIdentifiers line)

/-- Whether a line creates the database that the placeholder stands for. -/
structure CreatesDatabase (placeholder line : Text) : Prop where
  opens :
    LineClass.ofLine (statementLine line) = .database
  carriesPlaceholder :
    occursIn placeholder (statementLine line) = true

/-- The statement of a line with a name in the place of the placeholder. -/
def databaseStatement (placeholder target line : Text) : Text :=
  replaceAll placeholder target (statementLine line)

theorem Substitution.of?_eq_ok_iff
    {target placeholder : Text}
    {substitution : Substitution} :
    Substitution.of? target placeholder = .ok substitution ↔
      allBlank target = false ∧
        placeholder ≠ [] ∧
        substitution = { placeholder := placeholder, target := trim target } := by
  unfold Substitution.of?
  by_cases blank : allBlank target = true
  · simp [blank]
  · by_cases empty : placeholder.isEmpty = true
    · simp [blank, List.isEmpty_iff.mp empty]
    · rw [if_neg blank, if_neg empty]
      rw [List.isEmpty_iff] at empty
      simp [blank, empty, eq_comm]

/-- Whether the block that is open, if any, creates no database. -/
def ScanState.OpensNoDatabase : ScanState → Prop
  | .inRoutine _ kind _ _ =>
      kind ≠ .createDatabase
  | .outside | .inTable .. | .inStatement .. | .atSection .. =>
      True

/-- What a line leads to that finishes and opens no block that creates a database. -/
structure Progress.CreatesNoDatabase (progress : Progress) : Prop where
  finished :
    ∀ draft, progress.finished = some draft → draft.kind ≠ .createDatabase
  next :
    progress.next.OpensNoDatabase

theorem kind_of_closeBlock
    {kind : Kind}
    {startLine : Nat}
    {lines : List Text}
    {draft : Draft}
    (closed : closeBlock kind startLine lines = some draft) :
    draft.kind = kind := by
  unfold closeBlock at closed
  split at closed
  · cases closed
  · cases closed
    rfl

namespace Progress

theorem createsNoDatabase_close
    {kind : Kind}
    (startLine : Nat)
    (lines : List Text)
    (other : kind ≠ .createDatabase) :
    (Progress.close kind startLine lines).CreatesNoDatabase where
  finished := by
    intro draft closed
    rw [kind_of_closeBlock closed]
    exact other
  next := trivial

theorem createsNoDatabase_continue
    {next : ScanState}
    (opens : next.OpensNoDatabase) :
    (Progress.continue next).CreatesNoDatabase where
  finished := by
    intro draft finished
    cases finished
  next := opens

theorem createsNoDatabase_remark
    (note : Note) :
    (Progress.remark note).CreatesNoDatabase where
  finished := by
    intro draft finished
    cases finished
  next := trivial

theorem createsNoDatabase_emit
    {kind : Kind}
    (text : Text)
    (lineNumber : Nat)
    (other : kind ≠ .createDatabase) :
    (Progress.emit kind text lineNumber).CreatesNoDatabase where
  finished := by
    intro draft finished
    cases finished
    exact other
  next := trivial

theorem createsNoDatabase_extendTable
    (startLine : Nat)
    (lines : List Text)
    (line : Text) :
    (extendTable startLine lines line).CreatesNoDatabase := by
  unfold extendTable
  split
  · exact createsNoDatabase_close _ _ (by decide)
  · exact createsNoDatabase_continue trivial

theorem createsNoDatabase_extendStatement
    (startLine : Nat)
    (lines : List Text)
    (line : Text) :
    (extendStatement startLine lines line).CreatesNoDatabase := by
  unfold extendStatement
  split
  · exact createsNoDatabase_close _ _ (by decide)
  · exact createsNoDatabase_continue trivial

theorem createsNoDatabase_extendRoutine
    {kind : Kind}
    (token : Text)
    (startLine : Nat)
    (lines : List Text)
    (line : Text)
    (other : kind ≠ .createDatabase) :
    (extendRoutine token kind startLine lines line).CreatesNoDatabase := by
  unfold extendRoutine
  split
  · exact createsNoDatabase_close _ _ other
  · exact createsNoDatabase_continue other

end Progress

theorem sectionKind_ne_createDatabase
    (line : Text) :
    sectionKind line ≠ .createDatabase := by
  unfold sectionKind
  split <;> decide

section

variable
  {substitution : Substitution}
  {lineNumber : Nat}
  {line : Text}
  {progress : Progress}

/-- Outside every block a line creates the database, or it finishes and opens another block. -/
theorem readOutside_cases
    (read : readOutside substitution lineNumber (unquoteIdentifiers line) = .ok progress) :
    progress.CreatesNoDatabase ∨
      CreatesDatabase substitution.placeholder line ∧
        progress =
          .emit .createDatabase
            (databaseStatement substitution.placeholder substitution.target line)
            lineNumber := by
  unfold readOutside at read
  dsimp only at read
  rw [← statementLine] at read
  cases opens : LineClass.ofLine (statementLine line) with
  | database =>
      rw [opens] at read
      dsimp only at read
      split at read
      case isTrue carries =>
        cases read
        exact .inr ⟨⟨opens, carries⟩, rfl⟩
      case isFalse =>
        cases read
  | silent =>
      rw [opens] at read
      cases read
      exact .inl (Progress.createsNoDatabase_continue trivial)
  | ignored | remark =>
      rw [opens] at read
      cases read
      exact .inl (Progress.createsNoDatabase_remark _)
  | table =>
      rw [opens] at read
      cases read
      exact .inl (Progress.createsNoDatabase_extendTable _ _ _)
  | statement =>
      rw [opens] at read
      cases read
      exact .inl (Progress.createsNoDatabase_extendStatement _ _ _)
  | sectionStart token =>
      rw [opens] at read
      cases read
      exact .inl (Progress.createsNoDatabase_continue trivial)
  | insert =>
      rw [opens] at read
      cases read
      exact .inl (Progress.createsNoDatabase_emit _ _ (by decide))

/-- What one line leads to from a state in which no block creates a database. -/
theorem readLine_cases
    {state : ScanState}
    (opensNone : state.OpensNoDatabase)
    (read : readLine substitution state lineNumber line = .ok progress) :
    progress.CreatesNoDatabase ∨
      CreatesDatabase substitution.placeholder line ∧
        progress =
          .emit .createDatabase
            (databaseStatement substitution.placeholder substitution.target line)
            lineNumber := by
  cases state with
  | outside =>
      exact readOutside_cases read
  | inTable startLine lines =>
      cases read
      exact .inl (Progress.createsNoDatabase_extendTable _ _ _)
  | inStatement startLine lines =>
      cases read
      exact .inl (Progress.createsNoDatabase_extendStatement _ _ _)
  | atSection markerLine token =>
      cases read
      exact .inl (Progress.createsNoDatabase_extendRoutine _ _ _ _
        (sectionKind_ne_createDatabase _))
  | inRoutine token kind startLine lines =>
      cases read
      exact .inl (Progress.createsNoDatabase_extendRoutine _ _ _ _ opensNone)

/-- The end of the script finishes no block that creates a database. -/
theorem kind_of_mem_finish
    {state : ScanState}
    {draft : Draft}
    (member : draft ∈ (finish state).drafts) :
    draft.kind ≠ .createDatabase := by
  cases state with
  | outside | atSection _ _ | inRoutine _ _ _ _ =>
      cases member
  | inTable startLine lines =>
      rw [kind_of_closeBlock (Option.mem_toList.mp member)]
      decide
  | inStatement startLine lines =>
      rw [kind_of_closeBlock (Option.mem_toList.mp member)]
      decide

/-- A block that creates a database is a line of the scanned ones. -/
theorem exists_line_of_scanLines
    {state : ScanState}
    {lines : List Text}
    {draft : Draft}
    (opensNone : state.OpensNoDatabase)
    (member : draft ∈ (scanLines substitution state lineNumber lines).drafts)
    (creates : draft.kind = .createDatabase) :
    ∃ line ∈ lines,
      CreatesDatabase substitution.placeholder line ∧
        draft.text =
          databaseStatement substitution.placeholder substitution.target line := by
  induction lines generalizing state lineNumber with
  | nil =>
      exact (kind_of_mem_finish member creates).elim
  | cons first rest inductionHypothesis =>
      rw [scanLines] at member
      cases read : readLine substitution state lineNumber first with
      | error failure =>
          rw [read] at member
          cases member
      | ok progress =>
          rw [read] at member
          have leads := readLine_cases opensNone read
          have next : progress.next.OpensNoDatabase := by
            rcases leads with other | ⟨_, rfl⟩
            · exact other.next
            · trivial
          rcases List.mem_append.mp member with finished | later
          · have isFinished := Option.mem_toList.mp finished
            rcases leads with other | ⟨opens, rfl⟩
            · exact (other.finished draft isFinished creates).elim
            · cases isFinished
              exact ⟨first, List.mem_cons_self, opens, rfl⟩
          · obtain ⟨line, isLine, origin⟩ := inductionHypothesis next later
            exact ⟨line, List.mem_cons_of_mem first isLine, origin⟩

end

theorem exists_draft_of_mem_numberDrafts
    {place : Nat}
    {drafts : List Draft}
    {block : Block}
    (member : block ∈ numberDrafts place drafts) :
    ∃ draft ∈ drafts, block.kind = draft.kind ∧ block.text = draft.text := by
  induction drafts generalizing place with
  | nil =>
      cases member
  | cons draft rest inductionHypothesis =>
      rcases List.mem_cons.mp member with rfl | later
      · exact ⟨draft, List.mem_cons_self, rfl, rfl⟩
      · obtain ⟨other, isDraft, same⟩ := inductionHypothesis later
        exact ⟨other, List.mem_cons_of_mem draft isDraft, same⟩

/-- The blocks that were read are those that the scan finished. -/
theorem blocks_of_read
    {substitution : Substitution}
    {script : Text}
    {blocks : List Block}
    (readable : (read substitution script).blocks = .ok blocks) :
    blocks =
      numberDrafts 0
        (scanLines substitution .outside 1 (Text.lines script)).drafts :=
  (blocks_eq_ok_iff.mp readable).2

/-- A block that creates a database is a line of the script. -/
theorem exists_line_of_read
    {substitution : Substitution}
    {script : Text}
    {blocks : List Block}
    {block : Block}
    (readable : (read substitution script).blocks = .ok blocks)
    (member : block ∈ blocks)
    (creates : block.kind = .createDatabase) :
    ∃ line ∈ Text.lines script,
      CreatesDatabase substitution.placeholder line ∧
        block.text =
          databaseStatement substitution.placeholder substitution.target line := by
  rw [blocks_of_read readable] at member
  obtain ⟨draft, isDraft, sameKind, sameText⟩ :=
    exists_draft_of_mem_numberDrafts member
  rw [sameKind] at creates
  rw [sameText]
  have outside : ScanState.outside.OpensNoDatabase := trivial
  exact exists_line_of_scanLines outside isDraft creates

end TenantSchema.Script
