import TenantSchema.Note
import TenantSchema.Script.Line

/-!
# Scanning a script

Scanning reads the lines of a script once, from a state that says which block, if any, is
open.  Every line moves the state, finishes at most one block, or ends the scan with an
error.  A scan keeps what it finished and noted before an error, and the state it stopped in.
-/

namespace TenantSchema.Script

open Text

/-- The name put into `CREATE DATABASE` statements, and the placeholder it replaces. -/
structure Substitution where
  placeholder : Text
  target : Text
  deriving Repr, DecidableEq

/-- Why a substitution is refused. -/
inductive SubstitutionError where
  | blankTarget
  | emptyPlaceholder
  deriving Repr, DecidableEq

/-- The wording of a refusal. -/
def SubstitutionError.message : SubstitutionError → String
  | .blankTarget =>
      "target_database_name must be a non-empty string"
  | .emptyPlaceholder =>
      "placeholder must be a non-empty string"

/-- The placeholder that scripts carry unless configured otherwise. -/
def defaultPlaceholder : Text :=
  "__database_name__".toList

/-- Accept a name that is not blank and a placeholder that is not empty; the name is trimmed. -/
def Substitution.of? (target placeholder : Text) : Except SubstitutionError Substitution :=
  if allBlank target then
    .error .blankTarget
  else if placeholder.isEmpty then
    .error .emptyPlaceholder
  else
    .ok { placeholder := placeholder, target := trim target }

/-- Why a script cannot be cut into blocks. -/
inductive ScriptError where
  /-- A `CREATE DATABASE` line without the placeholder. -/
  | missingPlaceholder (line : Nat) (placeholder : Text)
  /-- A section marker on the last line. -/
  | emptySection (line : Nat) (token : Text)
  /-- A section whose body, starting on the given line, has no closing marker. -/
  | openSection (startLine : Nat) (token : Text)
  deriving Repr, DecidableEq

namespace ScriptError

/-- The line that an error reports. -/
def line : ScriptError → Nat
  | .missingPlaceholder line _ | .emptySection line _ | .openSection line _ =>
      line

/-- The delimiter that an error reports, when it is about a section. -/
def token? : ScriptError → Option Text
  | .missingPlaceholder .. =>
      none
  | .emptySection _ token | .openSection _ token =>
      some token

/-- The wording of an error. -/
def message : ScriptError → String
  | .missingPlaceholder line placeholder =>
      s!"CREATE DATABASE on line {line} does not carry the " ++ toOutput placeholder ++
        " placeholder"
  | .emptySection line token =>
      "DELIMITER " ++ toOutput token ++ s!" on line {line} is never closed"
  | .openSection startLine token =>
      "Block opened with DELIMITER " ++ toOutput token ++
        s!" on line {startLine} is never closed"

end ScriptError

/-- Which block is open between two lines. -/
inductive ScanState where
  | outside
  | inTable (startLine : Nat) (lines : List Text)
  | inStatement (startLine : Nat) (lines : List Text)
  /-- The marker of a section was read on the given line and its body has yet to start. -/
  | atSection (markerLine : Nat) (token : Text)
  | inRoutine (token : Text) (kind : Kind) (startLine : Nat) (lines : List Text)
  deriving Repr, DecidableEq

/-- The name of a state in reports.  A section without a body is not open yet. -/
def ScanState.name : ScanState → String
  | .outside | .atSection .. =>
      "outside"
  | .inTable .. =>
      "in_table"
  | .inStatement .. =>
      "in_statement"
  | .inRoutine .. =>
      "in_routine"

/-- A finished block before it has a place among the others. -/
structure Draft where
  kind : Kind
  text : Text
  lineNumber : Nat
  deriving Repr, DecidableEq

/-- What one line leads to. -/
structure Progress where
  next : ScanState
  finished : Option Draft
  notes : List Note
  deriving Repr, DecidableEq

/-- The text of a block: its lines without leading newlines and trailing white space. -/
def blockText (lines : List Text) : Text :=
  trimRight ((joinWith ['\n'] lines).dropWhile (· == '\n'))

/-- Close a block.  A block that holds only white space is dropped. -/
def closeBlock (kind : Kind) (startLine : Nat) (lines : List Text) : Option Draft :=
  if lines.all allBlank then
    none
  else
    some { kind := kind, text := blockText lines, lineNumber := startLine }

/-- Close the open block and go on outside. -/
def Progress.close (kind : Kind) (startLine : Nat) (lines : List Text) : Progress :=
  { next := .outside, finished := closeBlock kind startLine lines, notes := [] }

/-- Go on in a state. -/
def Progress.continue (next : ScanState) : Progress :=
  { next := next, finished := none, notes := [] }

/-- Stay outside, with a block of one line finished. -/
def Progress.emit (kind : Kind) (text : Text) (lineNumber : Nat) : Progress :=
  {
    next := .outside
    finished := some { kind := kind, text := text, lineNumber := lineNumber }
    notes := []
  }

/-- Stay outside, with something to say about the line. -/
def Progress.remark (note : Note) : Progress :=
  { next := .outside, finished := none, notes := [note] }

/-- Add a line to an open table. -/
def extendTable (startLine : Nat) (lines : List Text) (line : Text) : Progress :=
  if hasEngineClause line then
    .close .createTable startLine (lines ++ [line])
  else
    .continue (.inTable startLine (lines ++ [line]))

/-- Add a line to an open statement. -/
def extendStatement (startLine : Nat) (lines : List Text) (line : Text) : Progress :=
  if endsStatement line then
    .close .other startLine (lines ++ [line])
  else
    .continue (.inStatement startLine (lines ++ [line]))

/-- Add a line to the body of a section, or close the section. -/
def extendRoutine
    (token : Text)
    (kind : Kind)
    (startLine : Nat)
    (lines : List Text)
    (line : Text) :
    Progress :=
  if closesSection (trim line) then
    .close kind startLine lines
  else
    .continue
      (.inRoutine token kind startLine (lines ++ [dropTrailingDelimiter token line]))

/-- Read a line outside every block. -/
def readOutside
    (substitution : Substitution)
    (lineNumber : Nat)
    (line : Text) :
    Except ScriptError Progress :=
  let stripped := trim line
  match LineClass.ofLine stripped with
  | .silent =>
      .ok (.continue .outside)
  | .database =>
      if occursIn substitution.placeholder stripped then
        .ok (.emit .createDatabase
          (replaceAll substitution.placeholder substitution.target stripped) lineNumber)
      else
        .error (.missingPlaceholder lineNumber substitution.placeholder)
  | .ignored =>
      .ok (.remark (.ignoredLine lineNumber stripped))
  | .table =>
      .ok (extendTable lineNumber [] line)
  | .statement =>
      .ok (extendStatement lineNumber [] line)
  | .sectionStart token =>
      .ok (.continue (.atSection lineNumber token))
  | .insert =>
      .ok (.emit .insert stripped lineNumber)
  | .remark =>
      .ok (.remark (.skippedLine lineNumber stripped))

/-- The kind of a section, told from the first line of its body. -/
def sectionKind (line : Text) : Kind :=
  if hasRoutineWord line then .procedureBody else .other

/-- Read one line. -/
def readLine
    (substitution : Substitution)
    (state : ScanState)
    (lineNumber : Nat)
    (sourceLine : Text) :
    Except ScriptError Progress :=
  let line := unquoteIdentifiers sourceLine
  match state with
  | .outside =>
      readOutside substitution lineNumber line
  | .inTable startLine lines =>
      .ok (extendTable startLine lines line)
  | .inStatement startLine lines =>
      .ok (extendStatement startLine lines line)
  | .atSection _ token =>
      .ok (extendRoutine token (sectionKind line) lineNumber [] line)
  | .inRoutine token kind startLine lines =>
      .ok (extendRoutine token kind startLine lines line)

/-- What a scan leaves behind. -/
structure Scan where
  drafts : List Draft
  notes : List Note
  state : ScanState
  failure : Option ScriptError
  deriving Repr, DecidableEq

/-- A scan that stops in a state because of an error. -/
def Scan.stop (state : ScanState) (failure : ScriptError) : Scan :=
  { drafts := [], notes := [], state := state, failure := some failure }

/-- A scan that finishes its last block because the script is over. -/
def Scan.cutShort (kind : Kind) (startLine : Nat) (lines : List Text) : Scan :=
  {
    drafts := (closeBlock kind startLine lines).toList
    notes := [.unfinishedBlock kind startLine]
    state := .outside
    failure := none
  }

/-- End the scan: an open table or statement is kept as it is, an open section is an error. -/
def finish (state : ScanState) : Scan :=
  match state with
  | .outside =>
      { drafts := [], notes := [], state := .outside, failure := none }
  | .inTable startLine lines =>
      .cutShort .createTable startLine lines
  | .inStatement startLine lines =>
      .cutShort .other startLine lines
  | .atSection markerLine token =>
      .stop state (.emptySection markerLine token)
  | .inRoutine token _ startLine _ =>
      .stop state (.openSection startLine token)

/-- Put what one line led to in front of the scan of the lines after it. -/
def Scan.after (progress : Progress) (rest : Scan) : Scan :=
  {
    rest with
    drafts := progress.finished.toList ++ rest.drafts
    notes := progress.notes ++ rest.notes
  }

/-- Scan the lines from a state; `lineNumber` is the number of the first of them. -/
def scanLines
    (substitution : Substitution)
    (state : ScanState)
    (lineNumber : Nat) :
    List Text → Scan
  | [] =>
      finish state
  | line :: rest =>
      match readLine substitution state lineNumber line with
      | .error failure =>
          .stop state failure
      | .ok progress =>
          .after progress (scanLines substitution progress.next (lineNumber + 1) rest)

end TenantSchema.Script
