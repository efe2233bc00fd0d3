import TenantSchema.Proofs.Script.DatabaseStatement
import TenantSchema.Proofs.Text.JoinedLines

namespace TenantSchema.Script

open Text

/-!
# Passages of a script

The lines that are read together make a passage: a line for itself, a definition of one or
more lines, or a section from its marker to the marker that closes it.  A passage is scanned
without regard to what stands around it, so a scan of passages is put together from what
each of them leads to.
-/

/-- The forms of a definition that takes as many lines as it needs. -/
inductive Form where
  | table
  | statement
  deriving Repr, DecidableEq

namespace Form

/-- The class of the lines that open a definition. -/
def lineClass : Form → LineClass
  | .table =>
      .table
  | .statement =>
      .statement

/-- The kind of the block that a definition becomes. -/
def kind : Form → Kind
  | .table =>
      .createTable
  | .statement =>
      .other

/-- Whether a line closes a definition. -/
def closes (form : Form) (line : Text) : Bool :=
  match form with
  | .table =>
      hasEngineClause (unquoteIdentifiers line)
  | .statement =>
      endsStatement (unquoteIdentifiers line)

/-- The state between two lines of a definition. -/
def opened : Form → Nat → List Text → ScanState
  | .table =>
      .inTable
  | .statement =>
      .inStatement

end Form

/-- Whether a line is the marker that closes a section. -/
def isClosingMarker (line : Text) : Bool :=
  closesSection (statementLine line)

/-- What a line of a section leaves in the block of the section. -/
def bodyLine (token line : Text) : Text :=
  dropTrailingDelimiter token (unquoteIdentifiers line)

/-- The kind of a section with the given body. -/
def bodyKind : List Text → Kind
  | [] =>
      .other
  | first :: _ =>
      sectionKind (unquoteIdentifiers first)

/-- The state after a section marker and the given lines of a body. -/
def sectionState (markerLine : Nat) (token : Text) : List Text → ScanState
  | [] =>
      .atSection markerLine token
  | first :: rest =>
      .inRoutine token (bodyKind (first :: rest)) (markerLine + 1)
        ((first :: rest).map (bodyLine token))

/-- Whether a test accepts the last of some lines and none before it. -/
def EndsAt (test : Text → Bool) (lines : List Text) : Prop :=
  ∃ opening last,
    lines = opening ++ [last] ∧
      test last = true ∧
      ∀ line ∈ opening, test line = false

theorem endsAt_concat_iff
    {test : Text → Bool}
    {opening : List Text}
    {last : Text} :
    EndsAt test (opening ++ [last]) ↔
      test last = true ∧ ∀ line ∈ opening, test line = false := by
  constructor
  · rintro ⟨others, other, same, closes, goesOn⟩
    obtain ⟨rfl, sameLast⟩ := List.append_inj' same rfl
    cases sameLast
    exact ⟨closes, goesOn⟩
  · rintro ⟨closes, goesOn⟩
    exact ⟨opening, last, rfl, closes, goesOn⟩

theorem endsAt_iff
    {test : Text → Bool}
    {lines : List Text} :
    EndsAt test lines ↔
      lines.getLast?.any test = true ∧ ∀ line ∈ lines.dropLast, test line = false := by
  constructor
  · rintro ⟨opening, last, rfl, closes, goesOn⟩
    rw [List.getLast?_concat, List.dropLast_concat]
    exact ⟨closes, goesOn⟩
  · rintro ⟨closes, goesOn⟩
    obtain ⟨last, isLast, closesLast⟩ := (Option.any_eq_true _ _).mp closes
    obtain ⟨opening, rfl⟩ := List.getLast?_eq_some_iff.mp isLast
    rw [List.dropLast_concat] at goesOn
    exact endsAt_concat_iff.mpr ⟨closesLast, goesOn⟩

theorem EndsAt.test_last
    {test : Text → Bool}
    {source : List Text}
    {last : Text}
    (ends : EndsAt test source)
    (isLast : source.getLast? = some last) :
    test last = true := by
  have closes := (endsAt_iff.mp ends).1
  rw [isLast] at closes
  exact closes

instance (test : Text → Bool) (lines : List Text) : Decidable (EndsAt test lines) :=
  decidable_of_iff _ endsAt_iff.symm

/-- Lines of a script that are read together. -/
inductive Passage where
  /-- A line that becomes no block. -/
  | skipped (line : Text)
  /-- A line that creates the database. -/
  | database (line : Text)
  /-- A line that inserts rows. -/
  | insert (line : Text)
  /-- A table or another `CREATE` statement. -/
  | definition (form : Form) (first : Text) (rest : List Text)
  /-- A section with a delimiter of its own, between its two markers. -/
  | delimited (token marker : Text) (body : List Text) (closing : Text)
  deriving Repr, DecidableEq

namespace Passage

/-- The lines of a passage. -/
def lines : Passage → List Text
  | .skipped line | .database line | .insert line =>
      [line]
  | .definition _ first rest =>
      first :: rest
  | .delimited _ marker body closing =>
      marker :: (body ++ [closing])

/-- Whether the first line of a passage opens it and the last one closes it. -/
def IsComplete (placeholder : Text) : Passage → Prop
  | .skipped line =>
      LineClass.ofLine (statementLine line) ∈ [.silent, .ignored, .remark]
  | .database line =>
      CreatesDatabase placeholder line
  | .insert line =>
      LineClass.ofLine (statementLine line) = .insert
  | .definition form first rest =>
      LineClass.ofLine (statementLine first) = form.lineClass ∧
        EndsAt form.closes (first :: rest)
  | .delimited token marker body closing =>
      LineClass.ofLine (statementLine marker) = .sectionStart token ∧
        EndsAt isClosingMarker (body ++ [closing])

/-- The block of a passage whose first line has the given number, if it has one. -/
def draft? (substitution : Substitution) (lineNumber : Nat) : Passage → Option Draft
  | .skipped _ =>
      none
  | .database line =>
      some {
        kind := .createDatabase
        text := databaseStatement substitution.placeholder substitution.target line
        lineNumber := lineNumber
      }
  | .insert line =>
      some { kind := .insert, text := statementLine line, lineNumber := lineNumber }
  | .definition form first rest =>
      some {
        kind := form.kind
        text := blockText ((first :: rest).map unquoteIdentifiers)
        lineNumber := lineNumber
      }
  | .delimited token _ body _ =>
      if ∀ line ∈ body, allBlank (bodyLine token line) = true then
        none
      else
        some {
          kind := bodyKind body
          text := blockText (body.map (bodyLine token))
          lineNumber := lineNumber + 1
        }

/-- What is noted about a passage. -/
def notes (lineNumber : Nat) : Passage → List Note
  | .skipped line =>
      match LineClass.ofLine (statementLine line) with
      | .ignored =>
          [.ignoredLine lineNumber (statementLine line)]
      | .remark =>
          [.skippedLine lineNumber (statementLine line)]
      | _ =>
          []
  | .database _ | .insert _ | .definition .. | .delimited .. =>
      []

/-- What all lines of a passage together lead to. -/
def progress
    (substitution : Substitution)
    (lineNumber : Nat)
    (passage : Passage) :
    Progress :=
  {
    next := .outside
    finished := passage.draft? substitution lineNumber
    notes := passage.notes lineNumber
  }

end Passage

/-- The lines of passages, one passage after the other. -/
def linesOf (passages : List Passage) : List Text :=
  passages.flatMap Passage.lines

/-- The blocks of passages; `lineNumber` is the number of the first of their lines. -/
def draftsOf (substitution : Substitution) (lineNumber : Nat) : List Passage → List Draft
  | [] =>
      []
  | passage :: rest =>
      (passage.draft? substitution lineNumber).toList ++
        draftsOf substitution (lineNumber + passage.lines.length) rest

/-- What is noted about passages. -/
def notesOf (lineNumber : Nat) : List Passage → List Note
  | [] =>
      []
  | passage :: rest =>
      passage.notes lineNumber ++ notesOf (lineNumber + passage.lines.length) rest

/-- Whether lines only continue what is open: they finish no block, and nothing is noted. -/
inductive Continues (substitution : Substitution) :
    ScanState → Nat → List Text → ScanState → Prop
  | nil
      (state : ScanState)
      (lineNumber : Nat) :
      Continues substitution state lineNumber [] state
  | cons
      {state next last : ScanState}
      {lineNumber : Nat}
      {line : Text}
      {rest : List Text}
      (reads : readLine substitution state lineNumber line = .ok (.continue next))
      (continues : Continues substitution next (lineNumber + 1) rest last) :
      Continues substitution state lineNumber (line :: rest) last

section

variable
  {substitution : Substitution}
  {lineNumber : Nat}

/-- A line of an open definition closes it or is added to it. -/
theorem readLine_opened
    (form : Form)
    (startLine : Nat)
    (collected : List Text)
    (line : Text) :
    readLine substitution (form.opened startLine collected) lineNumber line =
      .ok
        (if form.closes line then
          .close form.kind startLine (collected ++ [unquoteIdentifiers line])
        else
          .continue (form.opened startLine (collected ++ [unquoteIdentifiers line]))) := by
  cases form <;> rfl

/-- The first line of a definition is read as if the definition were open already. -/
theorem readLine_first
    {form : Form}
    {first : Text}
    (opens : LineClass.ofLine (statementLine first) = form.lineClass) :
    readLine substitution .outside lineNumber first =
      readLine substitution (form.opened lineNumber []) lineNumber first := by
  rw [statementLine] at opens
  cases form with
  | table | statement =>
      simp only [readLine, readOutside, opens, Form.lineClass, Form.opened]

theorem scanLines_first
    {form : Form}
    {first : Text}
    (rest : List Text)
    (opens : LineClass.ofLine (statementLine first) = form.lineClass) :
    scanLines substitution .outside lineNumber (first :: rest) =
      scanLines substitution (form.opened lineNumber []) lineNumber (first :: rest) := by
  rw [scanLines, scanLines, readLine_first opens, readLine_opened]

/-- A marker opens a section without a body. -/
theorem readLine_marker
    {token marker : Text}
    (opens : LineClass.ofLine (statementLine marker) = .sectionStart token) :
    readLine substitution .outside lineNumber marker =
      .ok (.continue (sectionState lineNumber token [])) := by
  rw [statementLine] at opens
  simp only [readLine, readOutside, opens, sectionState]

/-- A line of a section closes it or is added to its body. -/
theorem readLine_sectionState
    (markerLine : Nat)
    (token : Text)
    (body : List Text)
    (line : Text)
    (numbered : lineNumber = markerLine + 1 + body.length) :
    readLine substitution (sectionState markerLine token body) lineNumber line =
      .ok
        (if isClosingMarker line then
          .close (bodyKind body) (markerLine + 1) (body.map (bodyLine token))
        else
          .continue (sectionState markerLine token (body ++ [line]))) := by
  subst numbered
  have marker : closesSection (trim (unquoteIdentifiers line)) = isClosingMarker line := rfl
  cases body with
  | nil =>
      -- The first line tells the kind of the section, unless it closes the section at once.
      simp only [readLine, sectionState, extendRoutine, marker]
      rfl
  | cons first rest =>
      simp only [readLine, sectionState, extendRoutine, marker, List.cons_append]
      rw [← List.cons_append, List.map_append]
      rfl

theorem scanLines_cons_of_continue
    {state next : ScanState}
    {line : Text}
    {rest : List Text}
    (reads : readLine substitution state lineNumber line = .ok (.continue next)) :
    scanLines substitution state lineNumber (line :: rest) =
      scanLines substitution next (lineNumber + 1) rest := by
  rw [scanLines, reads]
  rfl

theorem scanLines_cons_of_ok
    {state : ScanState}
    {progress : Progress}
    {line : Text}
    {rest : List Text}
    (reads : readLine substitution state lineNumber line = .ok progress) :
    scanLines substitution state lineNumber (line :: rest) =
      .after progress (scanLines substitution progress.next (lineNumber + 1) rest) := by
  rw [scanLines, reads]

/-- Lines that only continue what is open are scanned like none. -/
theorem Continues.scanLines_append
    {state next : ScanState}
    {opening : List Text}
    (continues : Continues substitution state lineNumber opening next)
    (rest : List Text) :
    scanLines substitution state lineNumber (opening ++ rest) =
      scanLines substitution next (lineNumber + opening.length) rest := by
  induction continues with
  | nil =>
      rfl
  | cons reads _ inductionHypothesis =>
      rw [List.cons_append, scanLines_cons_of_continue reads, inductionHypothesis,
        List.length_cons, Nat.add_assoc, Nat.add_comm 1]

/-- Lines that close no definition are added to the open one. -/
theorem continues_opened
    {form : Form}
    {startLine : Nat}
    {collected opening : List Text}
    (goesOn : ∀ line ∈ opening, form.closes line = false) :
    Continues substitution (form.opened startLine collected) lineNumber opening
      (form.opened startLine (collected ++ opening.map unquoteIdentifiers)) := by
  induction opening generalizing collected lineNumber with
  | nil =>
      rw [List.map_nil, List.append_nil]
      exact .nil _ _
  | cons line others inductionHypothesis =>
      rw [List.forall_mem_cons] at goesOn
      have reads :
          readLine substitution (form.opened startLine collected) lineNumber line =
            .ok (.continue
              (form.opened startLine (collected ++ [unquoteIdentifiers line]))) := by
        rw [readLine_opened, goesOn.1]
        rfl
      rw [List.map_cons, List.append_cons]
      exact .cons reads (inductionHypothesis goesOn.2)

/-- Lines that close no section are added to the body of the open one. -/
theorem continues_sectionState
    {token : Text}
    {markerLine : Nat}
    {body opening : List Text}
    (numbered : lineNumber = markerLine + 1 + body.length)
    (goesOn : ∀ line ∈ opening, isClosingMarker line = false) :
    Continues substitution (sectionState markerLine token body) lineNumber opening
      (sectionState markerLine token (body ++ opening)) := by
  induction opening generalizing body lineNumber with
  | nil =>
      rw [List.append_nil]
      exact .nil _ _
  | cons line others inductionHypothesis =>
      rw [List.forall_mem_cons] at goesOn
      have reads :
          readLine substitution (sectionState markerLine token body) lineNumber line =
            .ok (.continue (sectionState markerLine token (body ++ [line]))) := by
        rw [readLine_sectionState _ _ _ _ numbered, goesOn.1]
        rfl
      have numberedNext : lineNumber + 1 = markerLine + 1 + (body ++ [line]).length := by
        rw [numbered, List.length_append, List.length_singleton, Nat.add_assoc]
      rw [List.append_cons]
      exact .cons reads (inductionHypothesis numberedNext goesOn.2)

/-- The text of a block is blank exactly if all of its lines are. -/
theorem allBlank_blockText (source : List Text) :
    allBlank (blockText source) = source.all allBlank := by
  have newlines (text : Text) : allBlank (text.dropWhile (· == '\n')) = allBlank text := by
    have leading : allBlank (text.takeWhile (· == '\n')) = true := by
      rw [allBlank, List.all_eq_true]
      intro character member
      have newline := List.mem_takeWhile_imp member
      rw [beq_iff_eq] at newline
      rw [newline]
      decide
    have parts :
        allBlank text =
          allBlank (text.takeWhile (· == '\n') ++ text.dropWhile (· == '\n')) := by
      rw [List.takeWhile_append_dropWhile]
    rw [parts, allBlank, allBlank, List.all_append, ← allBlank, ← allBlank, leading,
      Bool.true_and]
  rw [blockText, allBlank_trimRight, newlines, allBlank_joinWith]

theorem not_allBlank_of_closeBlock
    {kind : Kind}
    {startLine : Nat}
    {source : List Text}
    {draft : Draft}
    (closed : closeBlock kind startLine source = some draft) :
    allBlank draft.text = false := by
  unfold closeBlock at closed
  split at closed
  case isTrue =>
    cases closed
  case isFalse notBlank =>
    cases closed
    rw [allBlank_blockText]
    exact Bool.eq_false_iff.mpr notBlank

/-- A definition holds a line that is not blank: the one that opens it. -/
theorem closeBlock_definition
    {form : Form}
    {first : Text}
    (opens : LineClass.ofLine (statementLine first) = form.lineClass)
    (startLine : Nat)
    (rest : List Text) :
    closeBlock form.kind startLine ((first :: rest).map unquoteIdentifiers) =
      some {
        kind := form.kind
        text := blockText ((first :: rest).map unquoteIdentifiers)
        lineNumber := startLine
      } := by
  have notBlank : allBlank (unquoteIdentifiers first) = false := by
    rw [Bool.eq_false_iff]
    intro blank
    rw [statementLine, trim_eq_nil_iff.mpr blank] at opens
    cases form <;> cases opens
  rw [closeBlock, List.map_cons, List.all_cons, notBlank, Bool.false_and]
  rfl

theorem scanLines_definition
    {form : Form}
    {first : Text}
    {rest : List Text}
    (later : List Text)
    (opens : LineClass.ofLine (statementLine first) = form.lineClass)
    (ends : EndsAt form.closes (first :: rest)) :
    scanLines substitution .outside lineNumber (first :: rest ++ later) =
      .after ((Passage.definition form first rest).progress substitution lineNumber)
        (scanLines substitution .outside (lineNumber + (first :: rest).length) later) := by
  obtain ⟨opening, last, split, closes, goesOn⟩ := ends
  have reads (number : Nat) :
      readLine substitution
          (form.opened lineNumber ([] ++ opening.map unquoteIdentifiers)) number last =
        .ok ((Passage.definition form first rest).progress substitution lineNumber) := by
    rw [readLine_opened, closes, if_pos rfl, List.nil_append, ← List.map_singleton,
      ← List.map_append, ← split, Progress.close, closeBlock_definition opens]
    rfl
  rw [List.cons_append, scanLines_first _ opens, ← List.cons_append, split,
    List.append_assoc, (continues_opened goesOn).scanLines_append, List.singleton_append,
    scanLines_cons_of_ok (reads _), List.length_append, List.length_singleton,
    Nat.add_assoc]
  rfl

theorem closeBlock_delimited
    (token marker closing : Text)
    (body : List Text) :
    closeBlock (bodyKind body) (lineNumber + 1) (body.map (bodyLine token)) =
      (Passage.delimited token marker body closing).draft? substitution lineNumber := by
  simp only [closeBlock, Passage.draft?, List.all_map, List.all_eq_true, Function.comp_apply]

theorem scanLines_delimited
    {token marker closing : Text}
    {body : List Text}
    (later : List Text)
    (opens : LineClass.ofLine (statementLine marker) = .sectionStart token)
    (ends : EndsAt isClosingMarker (body ++ [closing])) :
    scanLines substitution .outside lineNumber (marker :: (body ++ [closing]) ++ later) =
      .after ((Passage.delimited token marker body closing).progress substitution lineNumber)
        (scanLines substitution .outside
          (lineNumber + (marker :: (body ++ [closing])).length) later) := by
  obtain ⟨closes, goesOn⟩ := endsAt_concat_iff.mp ends
  have reads :
      readLine substitution (sectionState lineNumber token ([] ++ body))
          (lineNumber + 1 + body.length) closing =
        .ok
          ((Passage.delimited token marker body closing).progress
            substitution lineNumber) := by
    rw [List.nil_append, readLine_sectionState _ _ _ _ rfl, closes, if_pos rfl,
      Progress.close, closeBlock_delimited token marker closing]
    rfl
  have numbered : lineNumber + 1 = lineNumber + 1 + ([] : List Text).length := rfl
  rw [List.cons_append, List.append_assoc, scanLines_cons_of_continue (readLine_marker opens),
    (continues_sectionState numbered goesOn).scanLines_append, List.singleton_append,
    scanLines_cons_of_ok reads, List.length_cons, List.length_append, List.length_singleton]
  simp only [Passage.progress, Nat.add_assoc, Nat.add_comm 1]

theorem readLine_skipped
    {line : Text}
    (complete : (Passage.skipped line).IsComplete substitution.placeholder) :
    readLine substitution .outside lineNumber line =
      .ok ((Passage.skipped line).progress substitution lineNumber) := by
  simp only [Passage.IsComplete, List.mem_cons, List.not_mem_nil, or_false,
    statementLine] at complete
  rcases complete with skipped | skipped | skipped <;>
    simp only [readLine, readOutside, Passage.progress, Passage.notes, statementLine,
      skipped] <;>
    rfl

theorem readLine_database
    {line : Text}
    (creates : CreatesDatabase substitution.placeholder line) :
    readLine substitution .outside lineNumber line =
      .ok ((Passage.database line).progress substitution lineNumber) := by
  obtain ⟨opens, carries⟩ := creates
  rw [statementLine] at opens carries
  simp only [readLine, readOutside, opens, carries, if_true]
  rfl

theorem readLine_insert
    {line : Text}
    (opens : LineClass.ofLine (statementLine line) = .insert) :
    readLine substitution .outside lineNumber line =
      .ok ((Passage.insert line).progress substitution lineNumber) := by
  rw [statementLine] at opens
  simp only [readLine, readOutside, opens]
  rfl

/-- A complete passage is scanned as one step. -/
theorem scanLines_passage
    {passage : Passage}
    (later : List Text)
    (complete : passage.IsComplete substitution.placeholder) :
    scanLines substitution .outside lineNumber (passage.lines ++ later) =
      .after (passage.progress substitution lineNumber)
        (scanLines substitution .outside (lineNumber + passage.lines.length) later) := by
  cases passage with
  | skipped line =>
      exact scanLines_cons_of_ok (readLine_skipped complete)
  | database line =>
      exact scanLines_cons_of_ok (readLine_database complete)
  | insert line =>
      exact scanLines_cons_of_ok (readLine_insert complete)
  | definition form first rest =>
      exact scanLines_definition later complete.1 complete.2
  | delimited token marker body closing =>
      exact scanLines_delimited later complete.1 complete.2

/-- Complete passages are scanned one after the other. -/
theorem scanLines_passages
    {passages : List Passage}
    (later : List Text)
    (complete : ∀ passage ∈ passages, passage.IsComplete substitution.placeholder) :
    scanLines substitution .outside lineNumber (linesOf passages ++ later) =
      let rest :=
        scanLines substitution .outside (lineNumber + (linesOf passages).length) later
      { rest with
        drafts := draftsOf substitution lineNumber passages ++ rest.drafts
        notes := notesOf lineNumber passages ++ rest.notes } := by
  induction passages generalizing lineNumber with
  | nil =>
      rfl
  | cons passage others inductionHypothesis =>
      rw [List.forall_mem_cons] at complete
      have linesSplit : linesOf (passage :: others) = passage.lines ++ linesOf others := rfl
      rw [linesSplit, List.append_assoc, scanLines_passage _ complete.1,
        inductionHypothesis complete.2, List.length_append, ← Nat.add_assoc]
      simp only [Scan.after, Passage.progress, draftsOf, notesOf, List.append_assoc]

end

end TenantSchema.Script
