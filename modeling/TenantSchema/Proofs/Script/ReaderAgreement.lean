import TenantSchema.Proofs.Script.Concatenation
import TenantSchema.Proofs.Script.Registers

namespace TenantSchema.Script

open Text

/-!
# What a reader reads

A reader with registers and a scan that hands its state on go through a script in step: the
registers of an open block are the state of the scan, and what the reader has emitted are the
blocks that the scan has finished.  So a reader gives every script the blocks or the error that
belong to it, whatever it read before.
-/

namespace Reader

/-- The state of a scan that the registers stand for. -/
def state (reader : Reader) : ScanState :=
  match reader.mode with
  | .outside =>
      .outside
  | .inTable =>
      .inTable reader.startLine reader.pending
  | .inStatement =>
      .inStatement reader.startLine reader.pending
  | .inRoutine =>
      .inRoutine reader.delimiter reader.kind reader.startLine reader.pending

/-- A reader that did what a line leads to. -/
structure Follows (reader later : Reader) (progress : Progress) : Prop where
  state : later.state = progress.next
  blocks :
    later.blocks =
      reader.blocks ++ numberDrafts reader.blocks.length progress.finished.toList

/-- What a line of the open block leads to. -/
def progressWith (reader : Reader) (line : Text) : Progress :=
  match reader.mode with
  | .outside =>
      .continue .outside
  | .inTable =>
      extendTable reader.startLine reader.pending line
  | .inStatement =>
      extendStatement reader.startLine reader.pending line
  | .inRoutine =>
      extendRoutine reader.delimiter reader.kind reader.startLine reader.pending line

section

variable
  {substitution : Substitution}
  {reader : Reader}
  {count : Nat}

theorem follows_emit
    (outside : reader.mode = .outside)
    (kind : Kind)
    (text : Text)
    (lineNumber : Nat) :
    Follows reader (reader.emit kind text lineNumber) (.emit kind text lineNumber) where
  state := by
    rw [state, emit, outside]
    rfl
  blocks := rfl

/-- Closing a block finishes it. -/
theorem follows_flush (reader : Reader) :
    Follows reader reader.flush (.close reader.kind reader.startLine reader.pending) where
  state := rfl
  blocks := by
    unfold flush Progress.close closeBlock
    dsimp only
    split
    · exact (List.append_nil _).symm
    · rfl

/-- Reading a line of an open block does what the line leads to. -/
theorem follows_accumulate
    (isOpen : reader.IsOpen)
    (line : Text) :
    Follows reader (reader.accumulate line) (reader.progressWith line) := by
  unfold accumulate progressWith
  cases isOpen with
  | table mode kind =>
      rw [mode, if_neg (by decide)]
      unfold extendTable
      by_cases closes : hasEngineClause line = true
      · rw [if_pos ⟨rfl, closes⟩, if_pos closes, ← kind]
        obtain ⟨state, blocks⟩ := follows_flush (reader.collect line)
        exact ⟨state, blocks⟩
      · rw [if_neg (not_and_of_not_right _ closes), if_neg (by simp), if_neg closes]
        refine ⟨?_, (List.append_nil _).symm⟩
        rw [state, collect, mode]
        rfl
  | statement mode kind =>
      rw [mode, if_neg (by decide), if_neg (by simp)]
      unfold extendStatement
      by_cases closes : endsStatement line = true
      · rw [if_pos ⟨rfl, closes⟩, if_pos closes, ← kind]
        obtain ⟨state, blocks⟩ := follows_flush (reader.collect line)
        exact ⟨state, blocks⟩
      · rw [if_neg (not_and_of_not_right _ closes), if_neg closes]
        refine ⟨?_, (List.append_nil _).symm⟩
        rw [state, collect, mode]
        rfl
  | routine mode =>
      rw [mode, if_pos rfl]
      unfold extendRoutine
      by_cases closes : closesSection (trim line) = true
      · rw [if_pos closes, if_pos closes]
        exact follows_flush reader
      · rw [if_neg closes, if_neg closes]
        refine ⟨?_, (List.append_nil _).symm⟩
        rw [state, collect, mode]
        rfl

/-- A line of an open block is read as what it leads to. -/
theorem readLine_state
    (isOpen : reader.IsOpen)
    (lineNumber : Nat)
    (line : Text) :
    readLine substitution reader.state lineNumber line =
      .ok (reader.progressWith (unquoteIdentifiers line)) := by
  unfold state progressWith
  cases isOpen with
  | table mode | statement mode | routine mode =>
      rw [mode]
      rfl

/-- A line that neither finishes nor opens anything leaves a reader as it is. -/
theorem follows_self
    (outside : reader.mode = .outside)
    {progress : Progress}
    (goesOn : progress.next = .outside)
    (finishesNone : progress.finished = none) :
    Follows reader reader progress where
  state := by
    rw [state, outside, goesOn]
  blocks := by
    rw [finishesNone]
    exact (List.append_nil _).symm

/-- The first line of a block does what it leads to. -/
theorem follows_begin
    {kind : Kind}
    {mode : Mode}
    {lineNumber : Nat}
    (isOpen : (reader.begin kind mode lineNumber).IsOpen)
    (line : Text) :
    Follows reader ((reader.begin kind mode lineNumber).accumulate line)
      ((reader.begin kind mode lineNumber).progressWith line) := by
  obtain ⟨state, blocks⟩ := follows_accumulate isOpen line
  exact ⟨state, blocks⟩

/-- The first line of the body of a section does what it leads to. -/
theorem follows_openSection
    {token : Text}
    (isToken : IsSectionToken token)
    (reader : Reader)
    (lineNumber : Nat)
    (line : Text) :
    Follows reader (reader.openSection token lineNumber line)
      (extendRoutine token (sectionKind line) lineNumber [] line) := by
  obtain ⟨state, blocks⟩ :=
    follows_accumulate (isOpen_section isToken reader lineNumber line) line
  exact ⟨state, blocks⟩

/--
What a scan reads while a reader passes a boundary: one line, or the marker of a section and the
line behind it, between which the scan has a state and the reader has none.
-/
inductive Passing
    (substitution : Substitution)
    (reader : Reader)
    (count : Nat)
    (line : Text)
    (rest : List Text)
    (later : Boundary) :
    Prop
  | single
      (progress : Progress) :
      readLine substitution reader.state (count + 1) line = .ok progress →
      Follows reader later.reader progress →
      later.count = count + 1 →
      later.rest = rest →
      Passing substitution reader count line rest later
  | opening
      (token body : Text)
      (progress : Progress) :
      readLine substitution reader.state (count + 1) line =
        .ok (.continue (.atSection (count + 1) token)) →
      readLine substitution (.atSection (count + 1) token) (count + 2) body = .ok progress →
      Follows reader later.reader progress →
      later.count = count + 2 →
      rest = body :: later.rest →
      Passing substitution reader count line rest later

/-- A scan reads what a reader reads while it passes a boundary. -/
theorem passing_of_next
    (sound : reader.IsSound count)
    {line : Text}
    {rest : List Text}
    {later : Boundary}
    (passed : Boundary.next substitution reader count line rest = .ok later) :
    Passing substitution reader count line rest later := by
  unfold Boundary.next at passed
  dsimp only at passed
  split at passed
  case isFalse inside =>
    cases passed
    have isOpen := (sound.within inside).1
    exact .single _ (readLine_state isOpen _ _) (follows_accumulate isOpen _) rfl rfl
  case isTrue outside =>
    have reads :
        readLine substitution reader.state (count + 1) line =
          readOutside substitution (count + 1) (unquoteIdentifiers line) := by
      rw [state, outside]
      rfl
    unfold readOutside at reads
    unfold Boundary.readOutside at passed
    dsimp only at passed reads
    split at passed
    case h_1 lineClass | h_2 lineClass | h_3 lineClass =>
      cases passed
      rw [lineClass] at reads
      exact .single _ reads (follows_self outside rfl rfl) rfl rfl
    case h_4 lineClass =>
      rw [lineClass] at reads
      dsimp only at reads
      split at passed
      case isTrue occurs =>
        cases passed
        rw [if_pos occurs] at reads
        exact .single _ reads (follows_emit outside _ _ _) rfl rfl
      case isFalse =>
        cases passed
    case h_5 lineClass =>
      cases passed
      rw [lineClass] at reads
      have isOpen := sound.isOpen_begin outside (.inl ⟨rfl, rfl⟩) (count + 1)
      exact .single _ reads (follows_begin isOpen _) rfl rfl
    case h_6 lineClass =>
      cases passed
      rw [lineClass] at reads
      have isOpen := sound.isOpen_begin outside (.inr ⟨rfl, rfl⟩) (count + 1)
      exact .single _ reads (follows_begin isOpen _) rfl rfl
    case h_7 token lineClass =>
      rw [lineClass] at reads
      split at passed
      case h_1 =>
        cases passed
      case h_2 body left =>
        cases passed
        have follows :=
          follows_openSection (isSectionToken_of_ofLine lineClass) reader (count + 2)
            (unquoteIdentifiers body)
        exact .opening token body _ reads rfl follows rfl rfl
    case h_8 lineClass =>
      cases passed
      rw [lineClass] at reads
      exact .single _ reads (follows_emit outside _ _ _) rfl rfl

/-- A scan in step with a reader, and what is left of it when the reader has gone on. -/
structure GoesOn (reader later : Reader) (scan rest : Scan) : Prop where
  drafts :
    ∃ drafts,
      scan.drafts = drafts ++ rest.drafts ∧
        later.blocks = reader.blocks ++ numberDrafts reader.blocks.length drafts
  failure : scan.failure = rest.failure
  state : scan.state = rest.state

/-- What a scan finishes while a reader passes a boundary, the reader emits. -/
theorem Passing.goesOn
    {line : Text}
    {rest : List Text}
    {later : Boundary}
    (passing : Passing substitution reader count line rest later) :
    GoesOn reader later.reader
      (scanLines substitution reader.state (count + 1) (line :: rest))
      (scanLines substitution later.reader.state (later.count + 1) later.rest) := by
  cases passing with
  | single progress reads follows counted left =>
      rw [scanLines_cons_of_ok reads, ← follows.state, counted, left]
      exact ⟨⟨_, rfl, follows.blocks⟩, rfl, rfl⟩
  | opening token body progress opens reads follows counted left =>
      have readsBody :
          readLine substitution (.atSection (count + 1) token) (count + 1 + 1) body =
            .ok progress := reads
      rw [scanLines_cons_of_ok opens, left]
      simp only [Progress.continue]
      rw [scanLines_cons_of_ok readsBody, ← follows.state, counted]
      exact ⟨⟨_, rfl, follows.blocks⟩, rfl, rfl⟩

/-- The lines of a passed boundary lead a scan to the state that the registers stand for. -/
theorem Passing.stateAfter_take
    {line : Text}
    {rest : List Text}
    {later : Boundary}
    (passing : Passing substitution reader count line rest later) :
    stateAfter substitution reader.state (count + 1)
        ((line :: rest).take (later.count - count)) =
      .ok later.reader.state := by
  cases passing with
  | single progress reads follows counted left =>
      rw [counted, Nat.add_sub_cancel_left, List.take_succ_cons, List.take_zero, stateAfter,
        reads, follows.state]
      rfl
  | opening token body progress opens reads follows counted left =>
      rw [counted, Nat.add_sub_cancel_left, left, List.take_succ_cons, List.take_succ_cons,
        List.take_zero, stateAfter, opens, follows.state]
      simp only [Progress.continue]
      rw [stateAfter, reads]
      rfl

/-- At every boundary of a script the registers stand for the state of a scan. -/
theorem stateAfter_of_reached
    {lines : List Text}
    {boundary : Boundary}
    (reached :
      Boundary.Reached substitution { reader := fresh, count := 0, rest := lines } boundary) :
    stateAfter substitution .outside 1 (lines.take boundary.count) =
      .ok boundary.reader.state := by
  induction reached with
  | start =>
      rfl
  | @next reader count line rest later reachedBefore passed inductionHypothesis =>
      have sound : reader.IsSound count := isSound_fresh.reached reachedBefore
      have left : line :: rest = lines.drop count := (count_of_reached reachedBefore).1
      have within : count ≤ lines.length := (count_of_reached reachedBefore).2
      have further := (Boundary.length_rest_of_next passed).1
      have passes := (passing_of_next sound passed).stateAfter_take
      have split :
          lines.take later.count =
            lines.take count ++ (line :: rest).take (later.count - count) := by
        obtain ⟨taken, _, counted⟩ := Boundary.exists_taken_of_next passed
        have more : later.count = count + (later.count - count) := by
          omega
        rw [left, more, List.take_add, Nat.add_sub_cancel_left]
      rw [split, stateAfter_append, inductionHypothesis]
      simp only [Except.bind]
      rw [List.length_take, Nat.min_eq_left within, Nat.add_comm]
      exact passes

/-- A scan meets the error that a reader stops with, outside every block. -/
theorem scan_of_next_error
    {line : Text}
    {rest : List Text}
    {failure : ScriptError}
    (refused : Boundary.next substitution reader count line rest = .error failure) :
    (scanLines substitution reader.state (count + 1) (line :: rest)).failure =
        some failure ∧
      (scanLines substitution reader.state (count + 1) (line :: rest)).state.name =
        Mode.outside.name := by
  have state : reader.state = .outside := by
    rw [Reader.state, Boundary.mode_of_next_error refused]
  have reads :
      readLine substitution reader.state (count + 1) line =
        readOutside substitution (count + 1) (unquoteIdentifiers line) := by
    rw [state]
    rfl
  unfold Boundary.next at refused
  dsimp only at refused
  rw [if_pos (Boundary.mode_of_next_error refused)] at refused
  unfold readOutside at reads
  unfold Boundary.readOutside at refused
  dsimp only at refused reads
  split at refused
  case h_1 | h_2 | h_3 | h_5 | h_6 | h_8 =>
    cases refused
  case h_4 lineClass =>
    rw [lineClass] at reads
    dsimp only at reads
    split at refused
    case isTrue =>
      cases refused
    case isFalse absent =>
      cases refused
      rw [if_neg absent] at reads
      rw [scanLines, reads, state]
      exact ⟨rfl, rfl⟩
  case h_7 token lineClass =>
    rw [lineClass] at reads
    split at refused
    case h_1 =>
      cases refused
      rw [scanLines_cons_of_ok reads]
      exact ⟨rfl, rfl⟩
    case h_2 =>
      cases refused

/-- The end of a script finishes what it finishes in a scan. -/
theorem finish_agrees
    (sound : reader.IsSound count) :
    reader.finish.2 = (Script.finish reader.state).failure ∧
      ((Script.finish reader.state).failure = none →
        reader.finish.1.blocks =
          reader.blocks ++
            numberDrafts reader.blocks.length (Script.finish reader.state).drafts) ∧
      reader.finish.1.mode.name = (Script.finish reader.state).state.name := by
  unfold Reader.finish state
  cases mode : reader.mode with
  | outside =>
      refine ⟨rfl, fun _ => (List.append_nil _).symm, ?_⟩
      rw [mode]
      rfl
  | inTable =>
      have kind : reader.kind = .createTable := by
        cases (sound.within (by simp [mode])).1 with
        | table _ kind =>
            exact kind
        | statement other | routine other =>
            rw [mode] at other
            cases other
      refine ⟨rfl, fun _ => ?_, rfl⟩
      have blocks := (follows_flush reader).blocks
      rw [kind] at blocks
      exact blocks
  | inStatement =>
      have kind : reader.kind = .other := by
        cases (sound.within (by simp [mode])).1 with
        | statement _ kind =>
            exact kind
        | table other | routine other =>
            rw [mode] at other
            cases other
      refine ⟨rfl, fun _ => ?_, rfl⟩
      have blocks := (follows_flush reader).blocks
      rw [kind] at blocks
      exact blocks
  | inRoutine =>
      refine ⟨rfl, nofun, ?_⟩
      rw [mode]
      rfl

/-- A reader comes to the blocks or the error of the scan that it goes in step with. -/
theorem readLines_agrees
    (substitution : Substitution)
    (sound : reader.IsSound count)
    (lines : List Text) :
    (readLines substitution reader count lines).2 =
        (scanLines substitution reader.state (count + 1) lines).failure ∧
      ((scanLines substitution reader.state (count + 1) lines).failure = none →
        (readLines substitution reader count lines).1.blocks =
          reader.blocks ++
            numberDrafts reader.blocks.length
              (scanLines substitution reader.state (count + 1) lines).drafts) ∧
      (readLines substitution reader count lines).1.mode.name =
        (scanLines substitution reader.state (count + 1) lines).state.name := by
  fun_induction readLines substitution reader count lines with
  | case1 reader count =>
      exact finish_agrees sound
  | case2 reader count line rest failure refused =>
      obtain ⟨sameFailure, sameName⟩ := scan_of_next_error refused
      refine ⟨sameFailure.symm, ?_, ?_⟩
      · intro unfailing
        rw [sameFailure] at unfailing
        cases unfailing
      · rw [sameName, Boundary.mode_of_next_error refused]
  | case3 reader count line rest later passed inductionHypothesis =>
      obtain ⟨⟨drafts, split, emitted⟩, failure, state⟩ := (passing_of_next sound passed).goesOn
      obtain ⟨sameFailure, sameBlocks, sameName⟩ :=
        inductionHypothesis (sound.next passed)
      rw [failure, state, split, numberDrafts_append]
      refine ⟨sameFailure, fun unfailing => ?_, sameName⟩
      rw [sameBlocks unfailing, emitted, List.append_assoc, List.length_append,
        length_numberDrafts]

/-- A script is read as its scan reads it, and the mode afterwards has the name of its state. -/
theorem read_agrees
    (substitution : Substitution)
    (reader : Reader)
    (script : Text) :
    (reader.read substitution script).2 = (Script.read substitution script).blocks ∧
      (reader.read substitution script).1.mode.name =
        (Script.read substitution script).state.name := by
  obtain ⟨sameFailure, sameBlocks, sameName⟩ :=
    readLines_agrees substitution isSound_fresh (Text.lines script)
  unfold Reader.read outcomeOf Script.read
  dsimp only
  rw [reset_eq, sameFailure]
  cases failed : (scanLines substitution .outside 1 (Text.lines script)).failure with
  | some failure =>
      have refused :
          (scanLines substitution fresh.state (0 + 1) (Text.lines script)).failure =
            some failure := failed
      rw [refused]
      exact ⟨rfl, sameName⟩
  | none =>
      have unfailing :
          (scanLines substitution fresh.state (0 + 1) (Text.lines script)).failure =
            none := failed
      rw [unfailing]
      exact ⟨congrArg Except.ok (sameBlocks unfailing), sameName⟩

/--
Between two lines, whatever was read before, the registers are those outside every block, or
those of an open block that no line has closed and that starts behind all emitted ones.  So they
are after every script too, a refused one included.  After a script that was read they are those
outside, and the blocks or the error of a script are its own.
-/
theorem registers_are_sound
    (substitution : Substitution)
    (earlier : List Text)
    (script : Text) :
    let reader := fresh.readEach substitution earlier
    let later := (reader.read substitution script).1
    let outcome := (reader.read substitution script).2
    fresh.IsSound 0 ∧
      (∀ boundary,
        Boundary.Reached substitution
            { reader := reader.reset, count := 0, rest := Text.lines script } boundary →
        boundary.rest = (Text.lines script).drop boundary.count ∧
          boundary.reader.IsSound boundary.count ∧
          stateAfter substitution .outside 1 ((Text.lines script).take boundary.count) =
            .ok boundary.reader.state) ∧
      later.IsSound (Text.lines script).length ∧
      (∀ blocks, outcome = .ok blocks → later.mode = .outside) ∧
      outcome = (Script.read substitution script).blocks ∧
      later.mode.name = (Script.read substitution script).state.name := by
  intro reader later outcome
  obtain ⟨sameOutcome, sameName⟩ := read_agrees substitution reader script
  have soundAt :
      ∀ boundary,
        Boundary.Reached substitution
            { reader := fresh, count := 0, rest := Text.lines script } boundary →
        boundary.reader.IsSound boundary.count :=
    fun boundary reached => isSound_fresh.reached reached
  refine ⟨isSound_fresh, ?_, ?_⟩
  · intro boundary reached
    exact ⟨(count_of_reached reached).1, soundAt boundary reached,
      stateAfter_of_reached reached⟩
  obtain ⟨boundary, reached, stops⟩ :=
    exists_reached substitution fresh 0 (Text.lines script)
  have sound := (soundAt boundary reached).mono (count_of_reached reached).2
  rcases stops with ⟨_, ended⟩ | ⟨outside, failure, refused⟩
  · have left : later = boundary.reader.finish.1 := congrArg Prod.fst ended
    refine ⟨?_, ?_, sameOutcome, sameName⟩
    · rw [left]
      exact sound.finish.1
    · intro blocks returned
      have cameTo : outcome = outcomeOf boundary.reader.finish :=
        congrArg outcomeOf ended
      rw [left]
      apply sound.finish.2
      cases failure : boundary.reader.finish.2 with
      | none =>
          rfl
      | some failure =>
          rw [returned, outcomeOf, failure] at cameTo
          cases cameTo
  · have left : later = boundary.reader := congrArg Prod.fst refused
    refine ⟨?_, ?_, sameOutcome, sameName⟩
    · rw [left]
      exact sound
    · intro blocks returned
      rw [left]
      exact outside

end

end Reader

end TenantSchema.Script
