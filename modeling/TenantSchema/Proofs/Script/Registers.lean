import TenantSchema.Proofs.Script.LineClasses
import TenantSchema.Script.Blocks

namespace TenantSchema.Script

open Text

/-!
# A reader with registers

A reader cuts one script after the other into blocks.  It keeps its place in registers, which
beginning, collecting and closing a block write in different parts, and which a refused script
leaves as they are.  This module says what the registers hold between two lines, whatever was
read before: outside every block they are as they were at first, and within a block they are
those of a block that nothing has closed yet.
-/

/-- Where a reader stands between two lines. -/
inductive Mode where
  | outside
  | inTable
  | inStatement
  | inRoutine
  deriving Repr, DecidableEq

/-- The name of a mode in reports. -/
def Mode.name : Mode → String
  | .outside =>
      "outside"
  | .inTable =>
      "in_table"
  | .inStatement =>
      "in_statement"
  | .inRoutine =>
      "in_routine"

/-- The registers of a reader: the blocks it has emitted, and what it knows of the open one. -/
structure Reader where
  blocks : List Block
  mode : Mode
  kind : Kind
  pending : List Text
  startLine : Nat
  delimiter : Text
  deriving Repr, DecidableEq

namespace Reader

/-- Write all registers anew. -/
def reset (reader : Reader) : Reader :=
  {
    reader with
    blocks := []
    mode := .outside
    kind := .other
    pending := []
    startLine := 0
    delimiter := ordinaryDelimiter
  }

/-- A reader that has not read anything. -/
def fresh : Reader :=
  {
    blocks := []
    mode := .outside
    kind := .other
    pending := []
    startLine := 0
    delimiter := ordinaryDelimiter
  }

/-- Add a block behind the others. -/
def emit (reader : Reader) (kind : Kind) (text : Text) (lineNumber : Nat) : Reader :=
  {
    reader with
    blocks :=
      reader.blocks ++
        [{
          kind := kind
          text := text
          order := reader.blocks.length
          lineNumber := lineNumber
        }]
  }

/-- Begin a block. -/
def begin (reader : Reader) (kind : Kind) (mode : Mode) (lineNumber : Nat) : Reader :=
  { reader with kind := kind, mode := mode, pending := [], startLine := lineNumber }

/-- Add a line to the open block. -/
def collect (reader : Reader) (line : Text) : Reader :=
  { reader with pending := reader.pending ++ [line] }

/-- Close the open block; one that holds only white space is not emitted. -/
def flush (reader : Reader) : Reader :=
  let emitted :=
    if reader.pending.all allBlank then
      reader
    else
      reader.emit reader.kind (blockText reader.pending) reader.startLine
  {
    emitted with
    mode := .outside
    kind := .other
    pending := []
    delimiter := ordinaryDelimiter
  }

/-- Read a line of the open block. -/
def accumulate (reader : Reader) (line : Text) : Reader :=
  if reader.mode = .inRoutine then
    if closesSection (trim line) then
      reader.flush
    else
      reader.collect (dropTrailingDelimiter reader.delimiter line)
  else if reader.mode = .inTable ∧ hasEngineClause line then
    (reader.collect line).flush
  else if reader.mode = .inStatement ∧ endsStatement line then
    (reader.collect line).flush
  else
    reader.collect line

/-- Open a section with the first line of its body. -/
def openSection (reader : Reader) (token : Text) (lineNumber : Nat) (line : Text) : Reader :=
  { reader.begin (sectionKind line) .inRoutine lineNumber with
    delimiter := token }.accumulate line

end Reader

/-- A reader between two lines: how many it has read of a script, and which are left. -/
structure Boundary where
  reader : Reader
  count : Nat
  rest : List Text

namespace Boundary

/--
Read the line of the given number, met outside every block, and after the marker of a section
the line behind it too.
-/
def readOutside
    (substitution : Substitution)
    (reader : Reader)
    (number : Nat)
    (line : Text)
    (rest : List Text) :
    Except ScriptError Boundary :=
  let stripped := trim line
  match LineClass.ofLine stripped with
  | .silent | .ignored | .remark =>
      .ok { reader := reader, count := number, rest := rest }
  | .database =>
      if occursIn substitution.placeholder stripped then
        let statement := replaceAll substitution.placeholder substitution.target stripped
        .ok {
          reader := reader.emit .createDatabase statement number
          count := number
          rest := rest
        }
      else
        .error (.missingPlaceholder number substitution.placeholder)
  | .table =>
      .ok {
        reader := (reader.begin .createTable .inTable number).accumulate line
        count := number
        rest := rest
      }
  | .statement =>
      .ok {
        reader := (reader.begin .other .inStatement number).accumulate line
        count := number
        rest := rest
      }
  | .sectionStart token =>
      match rest with
      | [] =>
          .error (.emptySection number token)
      | body :: later =>
          .ok {
            reader := reader.openSection token (number + 1) (unquoteIdentifiers body)
            count := number + 1
            rest := later
          }
  | .insert =>
      .ok { reader := reader.emit .insert stripped number, count := number, rest := rest }

/-- Go on from a boundary with the line behind it. -/
def next
    (substitution : Substitution)
    (reader : Reader)
    (count : Nat)
    (sourceLine : Text)
    (rest : List Text) :
    Except ScriptError Boundary :=
  let line := unquoteIdentifiers sourceLine
  if reader.mode = .outside then
    readOutside substitution reader (count + 1) line rest
  else
    .ok { reader := reader.accumulate line, count := count + 1, rest := rest }

/-- What is left behind a boundary is what was left before it, without one or two lines. -/
theorem exists_taken_of_next
    {substitution : Substitution}
    {reader : Reader}
    {count : Nat}
    {line : Text}
    {rest : List Text}
    {later : Boundary}
    (passed : next substitution reader count line rest = .ok later) :
    ∃ taken,
      rest = taken ++ later.rest ∧ later.count = count + 1 + taken.length := by
  unfold next at passed
  dsimp only at passed
  split at passed
  case isFalse =>
    cases passed
    exact ⟨[], rfl, rfl⟩
  case isTrue =>
    unfold readOutside at passed
    dsimp only at passed
    split at passed
    case h_1 | h_2 | h_3 | h_5 | h_6 | h_8 =>
      cases passed
      exact ⟨[], rfl, rfl⟩
    case h_4 =>
      split at passed
      · cases passed
        exact ⟨[], rfl, rfl⟩
      · cases passed
    case h_7 =>
      split at passed
      · cases passed
      · rename_i body later
        cases passed
        exact ⟨[body], rfl, rfl⟩

theorem length_rest_of_next
    {substitution : Substitution}
    {reader : Reader}
    {count : Nat}
    {line : Text}
    {rest : List Text}
    {later : Boundary}
    (passed : next substitution reader count line rest = .ok later) :
    later.count + later.rest.length = count + (line :: rest).length ∧
      later.rest.length < (line :: rest).length := by
  obtain ⟨taken, rfl, counted⟩ := exists_taken_of_next passed
  rw [counted, List.length_cons, List.length_append]
  omega

/-- The boundaries that a reader comes to in the lines of a script. -/
inductive Reached (substitution : Substitution) (start : Boundary) : Boundary → Prop
  | start :
      Reached substitution start start
  | next
      {reader : Reader}
      {count : Nat}
      {line : Text}
      {rest : List Text}
      {later : Boundary} :
      Reached substitution start { reader := reader, count := count, rest := line :: rest } →
      Boundary.next substitution reader count line rest = .ok later →
      Reached substitution start later

/-- What is reached from the next boundary is reached from this one. -/
theorem Reached.of_next
    {substitution : Substitution}
    {reader : Reader}
    {count : Nat}
    {line : Text}
    {rest : List Text}
    {later boundary : Boundary}
    (passed : Boundary.next substitution reader count line rest = .ok later)
    (reached : Reached substitution later boundary) :
    Reached substitution { reader := reader, count := count, rest := line :: rest }
      boundary := by
  induction reached with
  | start =>
      exact .next .start passed
  | next _ passedLater inductionHypothesis =>
      exact .next inductionHypothesis passedLater

/-- Only lines outside every block are refused. -/
theorem mode_of_next_error
    {substitution : Substitution}
    {reader : Reader}
    {count : Nat}
    {line : Text}
    {rest : List Text}
    {failure : ScriptError}
    (refused : next substitution reader count line rest = .error failure) :
    reader.mode = .outside := by
  unfold next at refused
  dsimp only at refused
  split at refused
  case isTrue outside =>
    exact outside
  case isFalse =>
    cases refused

end Boundary

namespace Reader

/-- End a script: an open table or statement is kept as it is, an open section is an error. -/
def finish (reader : Reader) : Reader × Option ScriptError :=
  match reader.mode with
  | .outside =>
      (reader, none)
  | .inTable | .inStatement =>
      (reader.flush, none)
  | .inRoutine =>
      (reader, some (.openSection reader.startLine reader.delimiter))

/-- Read the lines of a script up to an error. -/
def readLines
    (substitution : Substitution)
    (reader : Reader)
    (count : Nat) :
    List Text → Reader × Option ScriptError
  | [] =>
      reader.finish
  | line :: rest =>
      match _passed : Boundary.next substitution reader count line rest with
      | .error failure =>
          (reader, some failure)
      | .ok later =>
          readLines substitution later.reader later.count later.rest
termination_by lines => lines.length
decreasing_by
  exact (Boundary.length_rest_of_next _passed).2

/-- The blocks of a reader that was not stopped by an error. -/
def outcomeOf (ending : Reader × Option ScriptError) : Except ScriptError (List Block) :=
  match ending.2 with
  | none =>
      .ok ending.1.blocks
  | some failure =>
      .error failure

/-- Cut a script into blocks, whatever was read before. -/
def read
    (substitution : Substitution)
    (reader : Reader)
    (script : Text) :
    Reader × Except ScriptError (List Block) :=
  let ending := readLines substitution reader.reset 0 (Text.lines script)
  (ending.1, outcomeOf ending)

/-- The reader after it has read several scripts. -/
def readEach (substitution : Substitution) (reader : Reader) (scripts : List Text) : Reader :=
  scripts.foldl (fun reader script => (reader.read substitution script).1) reader

/-- The delimiters that open a section: words without back quotes, the ordinary one apart. -/
structure IsSectionToken (token : Text) : Prop where
  nonempty : token ≠ []
  word : ∀ character ∈ token, isBlank character = false ∧ character ≠ '\x60'
  special : token ≠ ordinaryDelimiter

/-- Whether the registers are those of an open block that no line has closed. -/
inductive IsOpen (reader : Reader) : Prop
  | table :
      reader.mode = .inTable →
      reader.kind = .createTable →
      (∀ line ∈ reader.pending, hasEngineClause line = false) →
      reader.delimiter = ordinaryDelimiter →
      IsOpen reader
  | statement :
      reader.mode = .inStatement →
      reader.kind = .other →
      (∀ line ∈ reader.pending, endsStatement line = false) →
      reader.delimiter = ordinaryDelimiter →
      IsOpen reader
  | routine :
      reader.mode = .inRoutine →
      reader.kind = .procedureBody ∨ reader.kind = .other →
      IsSectionToken reader.delimiter →
      IsOpen reader

/-- Whether the open block starts behind all emitted ones, on one of the lines read. -/
structure StartsBehind (reader : Reader) (count : Nat) : Prop where
  later : ∀ block ∈ reader.blocks, block.lineNumber < reader.startLine
  reached : reader.startLine ≤ count

/-- What the registers hold between two lines when so many lines have been read. -/
structure IsSound (reader : Reader) (count : Nat) : Prop where
  outside :
    reader.mode = .outside →
    reader.pending = [] ∧ reader.delimiter = ordinaryDelimiter ∧ reader.kind = .other
  within :
    reader.mode ≠ .outside →
    reader.IsOpen ∧ reader.pending ≠ [] ∧ reader.StartsBehind count
  emitted :
    ∀ block ∈ reader.blocks, block.lineNumber ≤ count

section

variable
  {reader : Reader}
  {count : Nat}

@[simp] theorem reset_eq (reader : Reader) :
    reader.reset = fresh :=
  rfl

theorem isSound_fresh : fresh.IsSound 0 where
  outside _ := ⟨rfl, rfl, rfl⟩
  within inside := (inside rfl).elim
  emitted _ member := (List.not_mem_nil member).elim

theorem IsSound.mono
    (sound : reader.IsSound count)
    {later : Nat}
    (further : count ≤ later) :
    reader.IsSound later where
  outside := sound.outside
  within inside :=
    have ⟨isOpen, nonempty, behind⟩ := sound.within inside
    ⟨isOpen, nonempty, behind.later, behind.reached.trans further⟩
  emitted block member := by
    have earlier := sound.emitted block member
    omega

theorem mode_ne_outside_of_isOpen
    (isOpen : reader.IsOpen) :
    reader.mode ≠ .outside := by
  intro outside
  cases isOpen with
  | table mode | statement mode | routine mode =>
      cases mode.symm.trans outside

/-- A block that is emitted outside every block leaves the other registers as they are. -/
theorem IsSound.emit
    (sound : reader.IsSound count)
    (outside : reader.mode = .outside)
    (kind : Kind)
    (text : Text) :
    (reader.emit kind text (count + 1)).IsSound (count + 1) where
  outside := sound.outside
  within inside := (inside outside).elim
  emitted block member := by
    rcases List.mem_append.mp member with before | last
    · have earlier := sound.emitted block before
      omega
    · cases List.mem_singleton.mp last
      exact Int.le_refl _

/-- Closing a block leaves the registers as they are outside. -/
theorem isSound_flush
    (behind : reader.StartsBehind count) :
    reader.flush.IsSound count where
  outside _ := ⟨rfl, rfl, rfl⟩
  within inside := (inside rfl).elim
  emitted block member := by
    have started := behind.reached
    have before : ∀ block ∈ reader.blocks, block.lineNumber ≤ count := by
      intro block member
      have earlier := behind.later block member
      omega
    unfold flush at member
    dsimp only at member
    split at member
    · exact before block member
    · rcases List.mem_append.mp member with earlier | last
      · exact before block earlier
      · rw [List.mem_singleton.mp last]
        exact Int.ofNat_le.mpr started

/-- A line that does not close the open block is collected in it. -/
theorem isSound_collect
    {line : Text}
    (isOpen : (reader.collect line).IsOpen)
    (behind : reader.StartsBehind count) :
    (reader.collect line).IsSound count where
  outside outside := (mode_ne_outside_of_isOpen isOpen outside).elim
  within _ := ⟨isOpen, by simp [collect], behind.later, behind.reached⟩
  emitted block member := by
    have earlier := behind.later block member
    have started := behind.reached
    omega

/-- A line of an open block closes it or is collected in it. -/
theorem isSound_accumulate
    (isOpen : reader.IsOpen)
    (behind : reader.StartsBehind count)
    (line : Text) :
    (reader.accumulate line).IsSound count := by
  unfold accumulate
  cases isOpen with
  | table mode kind unclosed delimiter =>
      rw [mode, if_neg (by decide)]
      by_cases closes : hasEngineClause line = true
      · rw [if_pos ⟨rfl, closes⟩]
        exact isSound_flush ⟨behind.later, behind.reached⟩
      · rw [if_neg (not_and_of_not_right _ closes), if_neg (by simp)]
        refine isSound_collect (.table mode kind ?_ delimiter) behind
        simp only [collect, List.forall_mem_append, List.forall_mem_singleton]
        exact ⟨unclosed, Bool.eq_false_iff.mpr closes⟩
  | statement mode kind unclosed delimiter =>
      rw [mode, if_neg (by decide), if_neg (by simp)]
      by_cases closes : endsStatement line = true
      · rw [if_pos ⟨rfl, closes⟩]
        exact isSound_flush ⟨behind.later, behind.reached⟩
      · rw [if_neg (not_and_of_not_right _ closes)]
        refine isSound_collect (.statement mode kind ?_ delimiter) behind
        simp only [collect, List.forall_mem_append, List.forall_mem_singleton]
        exact ⟨unclosed, Bool.eq_false_iff.mpr closes⟩
  | routine mode kind token =>
      rw [if_pos mode]
      split
      · exact isSound_flush behind
      · exact isSound_collect (.routine mode kind token) behind

/-- A block that begins outside every block is open. -/
theorem IsSound.isOpen_begin
    (sound : reader.IsSound count)
    (outside : reader.mode = .outside)
    {kind : Kind}
    {mode : Mode}
    (form :
      (mode = .inTable ∧ kind = .createTable) ∨ (mode = .inStatement ∧ kind = .other))
    (lineNumber : Nat) :
    (reader.begin kind mode lineNumber).IsOpen := by
  have delimiter := (sound.outside outside).2.1
  rcases form with ⟨inTable, kind⟩ | ⟨inStatement, kind⟩
  · exact .table inTable kind (fun _ member => (List.not_mem_nil member).elim) delimiter
  · exact .statement inStatement kind (fun _ member => (List.not_mem_nil member).elim)
      delimiter

/-- A section whose body begins is open. -/
theorem isOpen_section
    {token : Text}
    (isToken : IsSectionToken token)
    (reader : Reader)
    (lineNumber : Nat)
    (line : Text) :
    IsOpen
      { reader.begin (sectionKind line) .inRoutine lineNumber with delimiter := token } := by
  refine .routine rfl ?_ isToken
  unfold sectionKind begin
  dsimp only
  split
  · exact .inl rfl
  · exact .inr rfl

/-- A block that begins on a line not read yet starts behind all emitted ones. -/
theorem IsSound.startsBehind_begin
    (sound : reader.IsSound count)
    (kind : Kind)
    (mode : Mode)
    {lineNumber : Nat}
    (further : count < lineNumber) :
    (reader.begin kind mode lineNumber).StartsBehind lineNumber where
  later block member := by
    have earlier := sound.emitted block member
    have start : (reader.begin kind mode lineNumber).startLine = lineNumber := rfl
    omega
  reached := Nat.le_refl _

theorem isSectionToken_of_ofLine
    {sourceLine token : Text}
    (opens :
      LineClass.ofLine (trim (unquoteIdentifiers sourceLine)) = .sectionStart token) :
    IsSectionToken token := by
  obtain ⟨nonempty, word, among⟩ :=
    delimiterToken?_eq_some (delimiterToken?_of_ofLine opens)
  refine ⟨nonempty, ?_, ne_ordinaryDelimiter_of_ofLine opens⟩
  intro character member
  refine ⟨word character member, ?_⟩
  have inLine : character ∈ unquoteIdentifiers sourceLine :=
    (List.dropWhile_sublist _).subset (mem_of_mem_trimRight (among member))
  rw [unquoteIdentifiers, List.mem_filter, bne_iff_ne] at inLine
  exact inLine.2

/-- Passing a boundary leaves registers that are sound at the next one. -/
theorem IsSound.next
    {substitution : Substitution}
    (sound : reader.IsSound count)
    {line : Text}
    {rest : List Text}
    {later : Boundary}
    (passed : Boundary.next substitution reader count line rest = .ok later) :
    later.reader.IsSound later.count := by
  unfold Boundary.next at passed
  dsimp only at passed
  split at passed
  case isFalse inside =>
    cases passed
    obtain ⟨isOpen, _, behind⟩ := sound.within inside
    exact isSound_accumulate isOpen ⟨behind.later, behind.reached.trans (Nat.le_succ _)⟩ _
  case isTrue outside =>
    unfold Boundary.readOutside at passed
    dsimp only at passed
    split at passed
    case h_1 | h_2 | h_3 =>
      cases passed
      exact sound.mono (Nat.le_succ count)
    case h_4 =>
      split at passed
      · cases passed
        exact sound.emit outside _ _
      · cases passed
    case h_5 =>
      cases passed
      exact isSound_accumulate (sound.isOpen_begin outside (.inl ⟨rfl, rfl⟩) _)
        (sound.startsBehind_begin _ _ (Nat.lt_succ_self count)) _
    case h_6 =>
      cases passed
      exact isSound_accumulate (sound.isOpen_begin outside (.inr ⟨rfl, rfl⟩) _)
        (sound.startsBehind_begin _ _ (Nat.lt_succ_self count)) _
    case h_7 token opens =>
      split at passed
      · cases passed
      · rename_i body left
        cases passed
        have further : count < count + 1 + 1 := by
          omega
        obtain ⟨later, reached⟩ :=
          sound.startsBehind_begin (sectionKind (unquoteIdentifiers body)) .inRoutine further
        exact isSound_accumulate
          (isOpen_section (isSectionToken_of_ofLine opens) reader _ _) ⟨later, reached⟩ _
    case h_8 =>
      cases passed
      exact sound.emit outside _ _

/-- Lines are read one after the other. -/
theorem count_of_reached
    {substitution : Substitution}
    {lines : List Text}
    {boundary : Boundary}
    (reached :
      Boundary.Reached substitution { reader := fresh, count := 0, rest := lines } boundary) :
    boundary.rest = lines.drop boundary.count ∧ boundary.count ≤ lines.length := by
  induction reached with
  | start =>
      exact ⟨rfl, Nat.zero_le _⟩
  | next _ passed inductionHypothesis =>
      obtain ⟨taken, split, counted⟩ := Boundary.exists_taken_of_next passed
      obtain ⟨left, within⟩ := inductionHypothesis
      dsimp only at left within
      have counted' := congrArg List.length left
      rw [List.length_drop, split, List.length_cons, List.length_append] at counted'
      refine ⟨?_, by omega⟩
      rw [counted, ← List.drop_drop, ← List.drop_drop, ← left, split, List.drop_succ_cons,
        List.drop_zero, List.drop_left]

/-- At every boundary that is reached from a sound one the registers are sound. -/
theorem IsSound.reached
    {substitution : Substitution}
    {start boundary : Boundary}
    (sound : start.reader.IsSound start.count)
    (reached : Boundary.Reached substitution start boundary) :
    boundary.reader.IsSound boundary.count := by
  induction reached with
  | start =>
      exact sound
  | next _ passed inductionHypothesis =>
      exact inductionHypothesis.next passed

/-- The end of a script leaves sound registers, which are those outside unless it is refused. -/
theorem IsSound.finish
    (sound : reader.IsSound count) :
    reader.finish.1.IsSound count ∧
      (reader.finish.2 = none → reader.finish.1.mode = .outside) := by
  unfold Reader.finish
  cases mode : reader.mode with
  | outside =>
      exact ⟨sound, fun _ => mode⟩
  | inTable | inStatement =>
      have inside : reader.mode ≠ .outside := by
        rw [mode]
        decide
      exact ⟨isSound_flush (sound.within inside).2.2, fun _ => rfl⟩
  | inRoutine =>
      exact ⟨sound, nofun⟩

/--
A reader stops at a boundary that it reached: at the end of the script, or in front of a line
that is refused, outside every block.
-/
theorem exists_reached
    (substitution : Substitution)
    (reader : Reader)
    (count : Nat)
    (lines : List Text) :
    ∃ boundary,
      Boundary.Reached substitution
          { reader := reader, count := count, rest := lines } boundary ∧
        (boundary.rest = [] ∧
            readLines substitution reader count lines = boundary.reader.finish ∨
          boundary.reader.mode = .outside ∧
            ∃ failure,
              readLines substitution reader count lines = (boundary.reader, some failure)) := by
  fun_induction readLines substitution reader count lines with
  | case1 reader count =>
      exact ⟨_, .start, .inl ⟨rfl, rfl⟩⟩
  | case2 reader count line rest failure refused =>
      exact ⟨_, .start, .inr ⟨Boundary.mode_of_next_error refused, failure, rfl⟩⟩
  | case3 reader count line rest later passed inductionHypothesis =>
      obtain ⟨boundary, reached, stops⟩ := inductionHypothesis
      exact ⟨boundary, reached.of_next passed, stops⟩

end

end Reader

end TenantSchema.Script
