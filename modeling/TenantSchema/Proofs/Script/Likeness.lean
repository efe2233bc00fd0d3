import TenantSchema.Proofs.Script.Concatenation
import TenantSchema.Proofs.Script.TwoNames

namespace TenantSchema

open Text

/-!
# Scripts that are read alike

Two scripts are read alike if they differ only in what no test of a scan sees.  Their scans
go on in step: every line leaves them in states that are alike, and finishes blocks that are
alike or stops both with one error.  In what collected lines, the texts of blocks and
delimiters may differ is told by a likeness, so that whatever keeps a likeness line by line
keeps it for the script.
-/

/-- Two outcomes that are errors, whichever they are, or values that are related. -/
inductive LikeOutcome
    {Error Value : Type}
    (related : Value → Value → Prop) :
    Except Error Value → Except Error Value → Prop
  | refused (first second : Error) :
      LikeOutcome related (.error first) (.error second)
  | ok {first second : Value} (values : related first second) :
      LikeOutcome related (.ok first) (.ok second)

theorem LikeOutcome.refused_or_ok
    {Error Value : Type}
    {related : Value → Value → Prop}
    {first second : Except Error Value}
    (like : LikeOutcome related first second) :
    ((∃ failure, first = .error failure) ∧ ∃ failure, second = .error failure) ∨
      ∃ firstValue secondValue,
        first = .ok firstValue ∧ second = .ok secondValue ∧ related firstValue secondValue := by
  cases like with
  | refused failure other =>
      exact .inl ⟨⟨failure, rfl⟩, other, rfl⟩
  | ok values =>
      exact .inr ⟨_, _, rfl, rfl, values⟩

theorem SameOutcome.likeOutcome
    {Error Value : Type}
    {related : Value → Value → Prop}
    {first second : Except Error Value}
    (same : SameOutcome related first second) :
    LikeOutcome related first second := by
  cases same with
  | error failure =>
      exact .refused failure failure
  | ok values =>
      exact .ok values

/-- Blocks of one kind, in one place and on one line, whose texts are related. -/
structure Block.Alike
    (related : Text → Text → Prop)
    (first second : Block) :
    Prop where
  kind :
    first.kind = second.kind
  order :
    first.order = second.order
  lineNumber :
    first.lineNumber = second.lineNumber
  text :
    related first.text second.text

namespace Script

/-- What two scans that go on in step have in common, and why no test tells them apart. -/
structure Likeness where
  /-- Lines that are collected in the open block. -/
  collected : Text → Text → Prop
  /-- Texts of finished blocks. -/
  text : Text → Text → Prop
  /-- Delimiters of sections, which are the same in both. -/
  delimiter : Text → Prop
  blank :
    ∀ {first second : Text}, collected first second → allBlank first = allBlank second
  joined :
    ∀ {first second : List Text},
      List.Forall₂ collected first second →
      text (blockText first) (blockText second)

/-- Finished blocks of one kind and on one line, whose texts are related. -/
structure Draft.Alike
    (related : Text → Text → Prop)
    (first second : Draft) :
    Prop where
  kind :
    first.kind = second.kind
  lineNumber :
    first.lineNumber = second.lineNumber
  text :
    related first.text second.text

/-- States with the same block open. -/
inductive ScanState.Alike (likeness : Likeness) : ScanState → ScanState → Prop
  | outside :
      Alike likeness .outside .outside
  | inTable
      (startLine : Nat)
      {first second : List Text}
      (lines : List.Forall₂ likeness.collected first second) :
      Alike likeness (.inTable startLine first) (.inTable startLine second)
  | inStatement
      (startLine : Nat)
      {first second : List Text}
      (lines : List.Forall₂ likeness.collected first second) :
      Alike likeness (.inStatement startLine first) (.inStatement startLine second)
  | atSection
      (markerLine : Nat)
      {token : Text}
      (delimiter : likeness.delimiter token) :
      Alike likeness (.atSection markerLine token) (.atSection markerLine token)
  | inRoutine
      {token : Text}
      (kind : Kind)
      (startLine : Nat)
      {first second : List Text}
      (delimiter : likeness.delimiter token)
      (lines : List.Forall₂ likeness.collected first second) :
      Alike likeness (.inRoutine token kind startLine first)
        (.inRoutine token kind startLine second)

/-- What two lines lead to if they are read alike. -/
structure Progress.Alike (likeness : Likeness) (first second : Progress) : Prop where
  next :
    first.next.Alike likeness second.next
  finished :
    Option.Rel (Draft.Alike likeness.text) first.finished second.finished

/-- Scans with blocks that are alike, and with one error if there is any. -/
structure Scan.Alike
    (related : Text → Text → Prop)
    (first second : Scan) :
    Prop where
  failure :
    first.failure = second.failure
  drafts :
    List.Forall₂ (Draft.Alike related) first.drafts second.drafts

/-- Lines without back quotes that an open block does not tell apart. -/
structure ContinueAlike (likeness : Likeness) (first second : Text) : Prop where
  engine :
    hasEngineClause first = hasEngineClause second
  ends :
    endsStatement first = endsStatement second
  closes :
    closesSection (trim first) = closesSection (trim second)
  routine :
    hasRoutineWord first = hasRoutineWord second
  kept :
    likeness.collected first second
  cut :
    ∀ token,
      likeness.delimiter token →
      likeness.collected (dropTrailingDelimiter token first)
        (dropTrailingDelimiter token second)

/-- Lines without back quotes that are not told apart outside every block. -/
structure OpenAlike
    (likeness : Likeness)
    (substitution : Substitution)
    (first second : Text) :
    Prop where
  lineClass :
    LineClass.ofLine (trim first) = LineClass.ofLine (trim second)
  delimiter :
    ∀ token,
      LineClass.ofLine (trim first) = .sectionStart token →
      likeness.delimiter token
  placeholder :
    LineClass.ofLine (trim first) = .database →
      occursIn substitution.placeholder (trim first) =
        occursIn substitution.placeholder (trim second)
  database :
    LineClass.ofLine (trim first) = .database →
      likeness.text
        (replaceAll substitution.placeholder substitution.target (trim first))
        (replaceAll substitution.placeholder substitution.target (trim second))
  insert :
    LineClass.ofLine (trim first) = .insert →
      likeness.text (trim first) (trim second)

section

variable
  {likeness : Likeness}
  {substitution : Substitution}
  {lineNumber : Nat}

theorem forall₂_toList
    {First Second : Type}
    {related : First → Second → Prop}
    {first : Option First}
    {second : Option Second}
    (same : Option.Rel related first second) :
    List.Forall₂ related first.toList second.toList := by
  cases same with
  | none =>
      exact .nil
  | some values =>
      exact .cons values .nil

theorem closeBlock_alike
    (kind : Kind)
    (startLine : Nat)
    {first second : List Text}
    (lines : List.Forall₂ likeness.collected first second) :
    Option.Rel (Draft.Alike likeness.text)
      (closeBlock kind startLine first) (closeBlock kind startLine second) := by
  have sameBlank : first.all allBlank = second.all allBlank := by
    induction lines with
    | nil =>
        rfl
    | cons same _ inductionHypothesis =>
        rw [List.all_cons, List.all_cons, likeness.blank same, inductionHypothesis]
  unfold closeBlock
  rw [sameBlank]
  split
  · exact .none
  · exact .some ⟨rfl, rfl, likeness.joined lines⟩

theorem Progress.Alike.close
    (kind : Kind)
    (startLine : Nat)
    {first second : List Text}
    (lines : List.Forall₂ likeness.collected first second) :
    (Progress.close kind startLine first).Alike likeness
      (Progress.close kind startLine second) where
  next := .outside
  finished := closeBlock_alike kind startLine lines

theorem Progress.Alike.continue
    {first second : ScanState}
    (states : first.Alike likeness second) :
    (Progress.continue first).Alike likeness (Progress.continue second) where
  next := states
  finished := .none

section

variable
  {firstLine secondLine : Text}
  {first second : List Text}
  (lines : List.Forall₂ likeness.collected first second)
  (same : ContinueAlike likeness firstLine secondLine)

include lines same

theorem extendTable_alike
    (startLine : Nat) :
    (extendTable startLine first firstLine).Alike likeness
      (extendTable startLine second secondLine) := by
  have extended := List.rel_append lines (.cons same.kept .nil)
  unfold extendTable
  rw [same.engine]
  split
  · exact .close .createTable startLine extended
  · exact .continue (.inTable startLine extended)

theorem extendStatement_alike
    (startLine : Nat) :
    (extendStatement startLine first firstLine).Alike likeness
      (extendStatement startLine second secondLine) := by
  have extended := List.rel_append lines (.cons same.kept .nil)
  unfold extendStatement
  rw [same.ends]
  split
  · exact .close .other startLine extended
  · exact .continue (.inStatement startLine extended)

theorem extendRoutine_alike
    {token : Text}
    (delimiter : likeness.delimiter token)
    (kind : Kind)
    (startLine : Nat) :
    (extendRoutine token kind startLine first firstLine).Alike likeness
      (extendRoutine token kind startLine second secondLine) := by
  have extended := List.rel_append lines (.cons (same.cut token delimiter) .nil)
  unfold extendRoutine
  rw [same.closes]
  split
  · exact .close kind startLine lines
  · exact .continue (.inRoutine kind startLine delimiter extended)

end

/-- Lines met outside every block lead to the same state, block and error. -/
theorem readOutside_alike
    {first second : Text}
    (opens : OpenAlike likeness substitution first second)
    (continues : ContinueAlike likeness first second) :
    SameOutcome (Progress.Alike likeness)
      (readOutside substitution lineNumber first)
      (readOutside substitution lineNumber second) := by
  unfold readOutside
  dsimp only
  rw [← opens.lineClass]
  cases lineClass : LineClass.ofLine (trim first) with
  | silent | ignored | remark =>
      exact .ok ⟨.outside, .none⟩
  | database =>
      dsimp only
      rw [← opens.placeholder lineClass]
      split
      · exact .ok ⟨.outside, .some ⟨rfl, rfl, opens.database lineClass⟩⟩
      · exact .error _
  | table =>
      exact .ok (extendTable_alike .nil continues lineNumber)
  | statement =>
      exact .ok (extendStatement_alike .nil continues lineNumber)
  | sectionStart token =>
      exact .ok (.continue (.atSection lineNumber (opens.delimiter token lineClass)))
  | insert =>
      exact .ok ⟨.outside, .some ⟨rfl, rfl, opens.insert lineClass⟩⟩

/-- One line of each script keeps the scans in step. -/
theorem readLine_alike
    {firstState secondState : ScanState}
    {first second : Text}
    (states : firstState.Alike likeness secondState)
    (continues :
      ContinueAlike likeness (unquoteIdentifiers first) (unquoteIdentifiers second))
    (opens :
      firstState = .outside →
        OpenAlike likeness substitution (unquoteIdentifiers first)
          (unquoteIdentifiers second)) :
    SameOutcome (Progress.Alike likeness)
      (readLine substitution firstState lineNumber first)
      (readLine substitution secondState lineNumber second) := by
  cases states with
  | outside =>
      exact readOutside_alike (opens rfl) continues
  | inTable startLine lines =>
      exact .ok (extendTable_alike lines continues startLine)
  | inStatement startLine lines =>
      exact .ok (extendStatement_alike lines continues startLine)
  | atSection markerLine delimiter =>
      simp only [readLine, sectionKind, continues.routine]
      exact .ok (extendRoutine_alike .nil continues delimiter _ lineNumber)
  | inRoutine kind startLine delimiter lines =>
      exact .ok (extendRoutine_alike lines continues delimiter kind startLine)

theorem finish_alike
    {first second : ScanState}
    (states : first.Alike likeness second) :
    (finish first).Alike likeness.text (finish second) := by
  have closed
      (kind : Kind)
      (startLine : Nat)
      {first second : List Text}
      (lines : List.Forall₂ likeness.collected first second) :
      (Scan.cutShort kind startLine first).Alike likeness.text
        (Scan.cutShort kind startLine second) :=
    ⟨rfl, forall₂_toList (closeBlock_alike kind startLine lines)⟩
  cases states with
  | outside | atSection | inRoutine =>
      exact ⟨rfl, .nil⟩
  | inTable startLine lines =>
      exact closed .createTable startLine lines
  | inStatement startLine lines =>
      exact closed .other startLine lines

theorem Scan.Alike.after
    {firstProgress secondProgress : Progress}
    {first second : Scan}
    (finished :
      Option.Rel (Draft.Alike likeness.text) firstProgress.finished secondProgress.finished)
    (scans : first.Alike likeness.text second) :
    (Scan.after firstProgress first).Alike likeness.text
      (.after secondProgress second) where
  failure := scans.failure
  drafts := List.rel_append (forall₂_toList finished) scans.drafts

theorem Scan.Alike.stop
    (firstState secondState : ScanState)
    (failure : ScriptError) :
    (Scan.stop firstState failure).Alike likeness.text (.stop secondState failure) where
  failure := rfl
  drafts := .nil

/-- One line of each script is enough if the lines after them are scanned alike. -/
theorem scanLines_cons_alike
    {firstState secondState : ScanState}
    {first second : Text}
    {firstRest secondRest : List Text}
    (reads :
      SameOutcome (Progress.Alike likeness)
        (readLine substitution firstState lineNumber first)
        (readLine substitution secondState lineNumber second))
    (rest :
      ∀ {firstNext secondNext : ScanState},
        firstNext.Alike likeness secondNext →
        (scanLines substitution firstNext (lineNumber + 1) firstRest).Alike likeness.text
          (scanLines substitution secondNext (lineNumber + 1) secondRest)) :
    (scanLines substitution firstState lineNumber (first :: firstRest)).Alike likeness.text
      (scanLines substitution secondState lineNumber (second :: secondRest)) := by
  rw [scanLines, scanLines]
  rcases reads.error_or_ok with
    ⟨failure, firstRead, secondRead⟩ | ⟨_, _, firstRead, secondRead, progress⟩
  · rw [firstRead, secondRead]
    exact .stop _ _ failure
  · rw [firstRead, secondRead]
    exact .after progress.finished (rest progress.next)

section

variable
  {firstState secondState : ScanState}
  {first second : List Text}
  (states : firstState.Alike likeness secondState)
  (lines :
    List.Forall₂
      (fun firstLine secondLine =>
        ContinueAlike likeness (unquoteIdentifiers firstLine)
            (unquoteIdentifiers secondLine) ∧
          OpenAlike likeness substitution (unquoteIdentifiers firstLine)
            (unquoteIdentifiers secondLine))
      first second)

include states lines

/-- Behind lines that are read alike one by one the scans go on from states that are alike. -/
theorem scanLines_append_alike
    {firstRest secondRest : List Text}
    (rest :
      ∀ {firstNext secondNext : ScanState},
        firstNext.Alike likeness secondNext →
        stateAfter substitution firstState lineNumber first = .ok firstNext →
        stateAfter substitution secondState lineNumber second = .ok secondNext →
        (scanLines substitution firstNext (lineNumber + first.length) firstRest).Alike
          likeness.text
          (scanLines substitution secondNext (lineNumber + first.length) secondRest)) :
    (scanLines substitution firstState lineNumber (first ++ firstRest)).Alike likeness.text
      (scanLines substitution secondState lineNumber (second ++ secondRest)) := by
  induction lines generalizing firstState secondState lineNumber with
  | nil =>
      exact rest states rfl rfl
  | cons same _ inductionHypothesis =>
      rw [List.cons_append, List.cons_append, scanLines, scanLines]
      rcases (readLine_alike states same.1 fun _ => same.2).error_or_ok with
        ⟨failure, firstRead, secondRead⟩ | ⟨_, _, firstRead, secondRead, progress⟩
      · rw [firstRead, secondRead]
        exact .stop _ _ failure
      · rw [firstRead, secondRead]
        refine .after progress.finished (inductionHypothesis progress.next ?_)
        intro firstNext secondNext nextStates firstReached secondReached
        simp only [stateAfter, firstRead, secondRead, List.length_cons] at rest
        rw [Nat.add_assoc, Nat.add_comm 1]
        exact rest nextStates firstReached secondReached

/-- Lines that are read alike one by one are scanned alike. -/
theorem scanLines_alike :
    (scanLines substitution firstState lineNumber first).Alike likeness.text
      (scanLines substitution secondState lineNumber second) := by
  rw [← List.append_nil first, ← List.append_nil second]
  exact scanLines_append_alike states lines fun next _ _ => finish_alike next

end

end

theorem forall₂_numberDrafts_alike
    {related : Text → Text → Prop}
    {first second : List Draft}
    (drafts : List.Forall₂ (Draft.Alike related) first second)
    (place : Nat) :
    List.Forall₂ (Block.Alike related) (numberDrafts place first) (numberDrafts place second) := by
  induction drafts generalizing place with
  | nil =>
      exact .nil
  | cons same _ inductionHypothesis =>
      refine .cons ⟨same.kind, rfl, ?_, same.text⟩ (inductionHypothesis _)
      exact congrArg Int.ofNat same.lineNumber

/-- Scripts that are scanned alike have blocks that are alike, or one error. -/
theorem Scan.Alike.sameOutcome
    {related : Text → Text → Prop}
    {substitution : Substitution}
    {first second : Text}
    (scans :
      (scanLines substitution .outside 1 (Text.lines first)).Alike related
        (scanLines substitution .outside 1 (Text.lines second))) :
    SameOutcome (List.Forall₂ (Block.Alike related))
      (read substitution first).blocks (read substitution second).blocks := by
  unfold read
  dsimp only
  rw [scans.failure]
  cases (scanLines substitution .outside 1 (Text.lines second)).failure with
  | some failure =>
      exact .error failure
  | none =>
      exact .ok (forall₂_numberDrafts_alike scans.drafts 0)

end Script

end TenantSchema
