import TenantSchema.Proofs.Script.KeywordLines
import TenantSchema.Proofs.Script.Likeness

namespace TenantSchema.Script

open Text

/-!
# White space between keywords

Other white space between the two keywords of a line does not change how a script is divided,
with one exception: a line that is met outside every block and whose keywords are looked for
with one space, if there is one space in one of the scripts only.  Then the database is
created by another statement, or the rows are not inserted at all, unless both scripts are
refused.
-/

/-- Lines that are both blank or both not, and any texts; delimiters are without white space. -/
def spacing : Likeness where
  collected first second := allBlank first = allBlank second
  text _ _ := True
  delimiter token := ∀ character ∈ token, isBlank character = false
  blank same := same
  joined _ := trivial

section

variable {substitution : Substitution}

theorem continueAlike_refl (text : Text) :
    ContinueAlike spacing text text where
  engine := rfl
  ends := rfl
  closes := rfl
  routine := rfl
  kept := rfl
  cut _ _ := rfl

theorem openAlike_refl (text : Text) :
    OpenAlike spacing substitution text text where
  lineClass := rfl
  delimiter _ opens := (delimiterToken?_eq_some (delimiterToken?_of_ofLine opens)).2.1
  placeholder _ := rfl
  database _ := trivial
  insert _ := trivial

section

variable
  (line : KeywordLine)
  {gap other : Text}
  (gapRun : IsBlankRun gap)
  (otherRun : IsBlankRun other)

include gapRun otherRun

theorem continueAlike_spaced :
    ContinueAlike spacing (line.spaced gap) (line.spaced other) where
  engine := by
    rw [line.hasEngineClause_spaced gapRun, line.hasEngineClause_spaced otherRun]
  ends := by
    rw [line.endsStatement_spaced, line.endsStatement_spaced]
  closes := by
    rw [line.closesSection_spaced, line.closesSection_spaced]
  routine := by
    rw [line.hasRoutineWord_spaced gapRun, line.hasRoutineWord_spaced otherRun]
  kept := by
    exact (line.allBlank_spaced gap).trans (line.allBlank_spaced other).symm
  cut token solid :=
    (line.allBlank_dropTrailingDelimiter solid gapRun).trans
      (line.allBlank_dropTrailingDelimiter solid otherRun).symm

/-- The white space does not matter outside every block if one space is wanted in both or none. -/
theorem openAlike_spaced
    (same : line.opening.WantsOneSpace → (gap = [' '] ↔ other = [' '])) :
    OpenAlike spacing substitution (line.spaced gap) (line.spaced other) where
  lineClass := by
    rw [line.ofLine_spaced gapRun, line.ofLine_spaced otherRun]
    exact line.trimmed.lineClass_congr same
  delimiter _ opens := (delimiterToken?_eq_some (delimiterToken?_of_ofLine opens)).2.1
  placeholder isDatabase := by
    rw [line.ofLine_spaced gapRun] at isDatabase
    obtain ⟨wants, oneSpace⟩ := KeywordLine.oneSpace_of_database isDatabase
    rw [oneSpace, (same wants).mp oneSpace]
  database _ := trivial
  insert _ := trivial

end

/-- Two scripts that differ in the white space between the keywords of one line. -/
structure IsRespaced
    (first second : Text)
    (before : List Text)
    (line : KeywordLine)
    (gap other : Text) :
    Prop where
  gapRun :
    IsBlankRun gap
  otherRun :
    IsBlankRun other
  lines :
    ∃ firstLine secondLine after,
      Text.lines first = before ++ firstLine :: after ∧
        Text.lines second = before ++ secondLine :: after ∧
        unquoteIdentifiers firstLine = line.spaced gap ∧
        unquoteIdentifiers secondLine = line.spaced other

variable
  {first second : Text}
  {before : List Text}
  {line : KeywordLine}
  {gap other : Text}

theorem IsRespaced.symm
    (respaced : IsRespaced first second before line gap other) :
    IsRespaced second first before line other gap := by
  obtain ⟨gapRun, otherRun, firstLine, secondLine, after, inFirst, inSecond, spaced, otherSpaced⟩ :=
    respaced
  exact ⟨otherRun, gapRun, secondLine, firstLine, after, inSecond, inFirst, otherSpaced, spaced⟩

/-- Scripts are divided alike where the white space is not told apart. -/
theorem sameOutcome_of_respaced
    (respaced : IsRespaced first second before line gap other)
    (same :
      stateAfter substitution .outside 1 before = .ok .outside →
      line.opening.WantsOneSpace →
      (gap = [' '] ↔ other = [' '])) :
    SameOutcome (List.Forall₂ (Block.Alike fun _ _ => True))
      (read substitution first).blocks (read substitution second).blocks := by
  obtain ⟨gapRun, otherRun, firstLine, secondLine, after, inFirst, inSecond, spaced, otherSpaced⟩ :=
    respaced
  have unchanged (source : List Text) :
      List.Forall₂
        (fun firstLine secondLine =>
          ContinueAlike spacing (unquoteIdentifiers firstLine)
              (unquoteIdentifiers secondLine) ∧
            OpenAlike spacing substitution (unquoteIdentifiers firstLine)
              (unquoteIdentifiers secondLine))
        source source :=
    List.forall₂_same.mpr fun _ _ => ⟨continueAlike_refl _, openAlike_refl _⟩
  have start : ScanState.Alike spacing .outside .outside := .outside
  apply Scan.Alike.sameOutcome
  rw [inFirst, inSecond]
  apply scanLines_append_alike start (unchanged before)
  intro firstNext secondNext states reached _
  apply scanLines_cons_alike
  · apply readLine_alike states
    · rw [spaced, otherSpaced]
      exact continueAlike_spaced line gapRun otherRun
    · rintro rfl
      rw [spaced, otherSpaced]
      exact openAlike_spaced line gapRun otherRun (same reached)
  · intro firstNext secondNext states
    exact scanLines_alike states (unchanged after)

/-- The kind of the block that starts on a line of a class met outside every block. -/
def LineClass.kind? : LineClass → Option Kind
  | .database =>
      some .createDatabase
  | .table =>
      some .createTable
  | .statement =>
      some .other
  | .insert =>
      some .insert
  | .silent | .ignored | .sectionStart _ | .remark =>
      none

/-- A line that starts a statement has the first block of the lines from there on. -/
theorem exists_kinds_eq_cons
    {kind : Kind}
    {lineNumber : Nat}
    {sourceLine : Text}
    {rest : List Text}
    (opens : (LineClass.ofLine (statementLine sourceLine)).kind? = some kind)
    (reads :
      (scanLines substitution .outside lineNumber (sourceLine :: rest)).failure = none) :
    ∃ later,
      (scanLines substitution .outside lineNumber (sourceLine :: rest)).drafts.map Draft.kind =
        kind :: later := by
  obtain ⟨passages, composes, drafts⟩ := exists_composes_of_scan reads
  rw [drafts]
  have covers := composes.covers
  cases passages with
  | nil =>
      cases covers
  | cons passage others =>
      have whole := composes.whole passage List.mem_cons_self
      cases passage with
      | skipped line =>
          obtain ⟨rfl, _⟩ := List.cons.inj covers
          have skipped := whole.resolve_right id
          simp only [Passage.IsComplete, List.mem_cons, List.not_mem_nil, or_false] at skipped
          rcases skipped with silent | ignored | remark
          · rw [silent] at opens
            cases opens
          · rw [ignored] at opens
            cases opens
          · rw [remark] at opens
            cases opens
      | database line =>
          obtain ⟨rfl, _⟩ := List.cons.inj covers
          have creates := whole.resolve_right id
          rw [creates.opens] at opens
          cases opens
          exact ⟨_, rfl⟩
      | insert line =>
          obtain ⟨rfl, _⟩ := List.cons.inj covers
          have inserts := whole.resolve_right id
          rw [Passage.IsComplete] at inserts
          rw [inserts] at opens
          cases opens
          exact ⟨_, rfl⟩
      | definition form firstLine lines =>
          obtain ⟨rfl, _⟩ := List.cons.inj covers
          have defines : LineClass.ofLine (statementLine sourceLine) = form.lineClass :=
            whole.elim And.left And.left
          rw [defines] at opens
          cases form <;> cases opens
          · exact ⟨_, rfl⟩
          · exact ⟨_, rfl⟩
      | delimited token marker body closing =>
          obtain ⟨rfl, _⟩ := List.cons.inj covers
          have marks := (whole.resolve_right id).1
          rw [marks] at opens
          cases opens

theorem map_kind_numberDrafts
    (place : Nat)
    (drafts : List Draft) :
    (numberDrafts place drafts).map Block.kind = drafts.map Draft.kind := by
  induction drafts generalizing place with
  | nil =>
      rfl
  | cons draft rest inductionHypothesis =>
      rw [numberDrafts, List.map_cons, List.map_cons, inductionHypothesis]

theorem map_kind_eq_of_alike
    {related : Text → Text → Prop}
    {firstBlocks secondBlocks : List Block}
    (alike : List.Forall₂ (Block.Alike related) firstBlocks secondBlocks) :
    firstBlocks.map Block.kind = secondBlocks.map Block.kind := by
  rw [← List.forall₂_eq_eq_eq, List.forall₂_map_left_iff, List.forall₂_map_right_iff]
  exact alike.imp fun _ _ same => same.kind

/-- With one space in the first script only, blocks that are read in both are not alike. -/
theorem not_alike_of_oneSpace
    (respaced : IsRespaced first second before line [' '] other)
    (outside : stateAfter substitution .outside 1 before = .ok .outside)
    (wants : line.opening.WantsOneSpace)
    (otherSpace : other ≠ [' '])
    {firstBlocks secondBlocks : List Block}
    (firstReads : (read substitution first).blocks = .ok firstBlocks)
    (secondReads : (read substitution second).blocks = .ok secondBlocks) :
    ¬ List.Forall₂ (Block.Alike fun _ _ => True) firstBlocks secondBlocks := by
  intro alike
  obtain ⟨gapRun, otherRun, firstLine, secondLine, after, inFirst, inSecond, spaced, otherSpaced⟩ :=
    respaced
  obtain ⟨firstOk, rfl⟩ := blocks_eq_ok_iff.mp firstReads
  obtain ⟨secondOk, rfl⟩ := blocks_eq_ok_iff.mp secondReads
  rw [inFirst, scanLines_append outside] at firstOk alike
  rw [inSecond, scanLines_append outside] at secondOk alike
  have firstClass := line.ofLine_spaced gapRun
  have secondClass := line.ofLine_spaced otherRun
  rw [← spaced, ← statementLine] at firstClass
  rw [← otherSpaced, ← statementLine] at secondClass
  have sameKinds :
      (scanLines substitution .outside (1 + before.length) (firstLine :: after)).drafts.map
          Draft.kind =
        (scanLines substitution .outside (1 + before.length) (secondLine :: after)).drafts.map
          Draft.kind := by
    have kinds := map_kind_eq_of_alike alike
    rw [map_kind_numberDrafts, map_kind_numberDrafts, Scan.followedBy, Scan.followedBy,
      List.map_append, List.map_append] at kinds
    exact List.append_cancel_left kinds
  cases opening : line.opening with
  | createTable | dropTable =>
      rw [opening] at wants
      exact wants
  | createDatabase =>
      have firstOpens :
          (LineClass.ofLine (statementLine firstLine)).kind? = some .createDatabase := by
        rw [firstClass]
        simp [KeywordLine.lineClass, KeywordLine.trimmed, opening, LineClass.kind?]
      have secondOpens :
          (LineClass.ofLine (statementLine secondLine)).kind? = some .other := by
        rw [secondClass]
        simp [KeywordLine.lineClass, KeywordLine.trimmed, opening, otherSpace, LineClass.kind?]
      obtain ⟨firstLater, firstKinds⟩ := exists_kinds_eq_cons firstOpens firstOk
      obtain ⟨secondLater, secondKinds⟩ := exists_kinds_eq_cons secondOpens secondOk
      rw [firstKinds, secondKinds] at sameKinds
      cases sameKinds
  | insertInto =>
      have inserts : LineClass.ofLine (statementLine firstLine) = .insert := by
        rw [firstClass]
        simp [KeywordLine.lineClass, KeywordLine.trimmed, opening]
      have skipped : (Passage.skipped secondLine).IsComplete substitution.placeholder := by
        rw [Passage.IsComplete, secondClass]
        simp [KeywordLine.lineClass, KeywordLine.trimmed, opening, otherSpace]
      rw [scanLines_cons_of_ok (readLine_insert inserts),
        scanLines_cons_of_ok (readLine_skipped skipped)] at sameKinds
      have lengths := congrArg List.length sameKinds
      simp [Scan.after, Passage.progress, Passage.draft?] at lengths

/--
Other white space between the keywords of a line changes the blocks of a script exactly if the
line is met outside every block, its keywords are looked for with one space, and there is one
space in one of the scripts only; unless both scripts are refused.
-/
theorem spacing_is_invisible_iff
    (respaced : IsRespaced first second before line gap other) :
    LikeOutcome (List.Forall₂ (Block.Alike fun _ _ => True))
        (read substitution first).blocks (read substitution second).blocks ↔
      ((∃ failure, (read substitution first).blocks = .error failure) ∧
          ∃ failure, (read substitution second).blocks = .error failure) ∨
        (stateAfter substitution .outside 1 before = .ok .outside →
          line.opening.WantsOneSpace →
          (gap = [' '] ↔ other = [' '])) := by
  constructor
  · intro like
    refine like.refused_or_ok.imp_right ?_
    rintro ⟨firstBlocks, secondBlocks, firstReads, secondReads, alike⟩ outside wants
    have flipped : List.Forall₂ (Block.Alike fun _ _ => True) secondBlocks firstBlocks :=
      (alike.imp fun _ _ same =>
        ⟨same.kind.symm, same.order.symm, same.lineNumber.symm, trivial⟩).flip
    constructor
    · rintro rfl
      by_contra otherSpace
      exact not_alike_of_oneSpace respaced outside wants otherSpace firstReads secondReads alike
    · rintro rfl
      by_contra otherSpace
      exact not_alike_of_oneSpace respaced.symm outside wants otherSpace secondReads firstReads
        flipped
  · rintro (⟨⟨failure, firstReads⟩, other, secondReads⟩ | same)
    · rw [firstReads, secondReads]
      exact .refused failure other
    · exact (sameOutcome_of_respaced respaced same).likeOutcome

/-- A table behind the database, with one space between its keywords or with a tab and a space. -/
theorem table_with_tab_is_a_table :
    let substitution : Substitution :=
      { placeholder := defaultPlaceholder, target := "acme".toList }
    let line : KeywordLine :=
      {
        opening := .createTable
        lead := [' ']
        first := "create".toList
        second := "TABLE".toList
        rest := " t (id INT) ENGINE=InnoDB;".toList
        blank := rfl
        spellsFirst := by decide
        spellsSecond := by decide
      }
    let before : List Text := ["CREATE DATABASE __database_name__;".toList]
    let first : Text := joinWith ['\n'] (before ++ [line.spaced " ".toList])
    let second : Text := joinWith ['\n'] (before ++ [line.spaced "\t ".toList])
    IsRespaced first second before line " ".toList "\t ".toList ∧
      (read substitution second).blocks.map (List.map Block.kind) =
        .ok [.createDatabase, .createTable] ∧
      LikeOutcome (List.Forall₂ (Block.Alike fun _ _ => True))
        (read substitution first).blocks (read substitution second).blocks := by
  intro substitution line before first second
  have respaced : IsRespaced first second before line " ".toList "\t ".toList :=
    {
      gapRun := ⟨List.cons_ne_nil _ _, rfl⟩
      otherRun := ⟨List.cons_ne_nil _ _, rfl⟩
      lines := ⟨line.spaced " ".toList, line.spaced "\t ".toList, [], rfl, rfl, rfl, rfl⟩
    }
  exact ⟨respaced, rfl, (spacing_is_invisible_iff respaced).mpr (.inr fun _ wants => wants.elim)⟩

/-- With a second space a statement creates no database block, and rows are not inserted. -/
theorem second_space_changes_blocks :
    let substitution : Substitution :=
      { placeholder := defaultPlaceholder, target := "acme".toList }
    let database : KeywordLine :=
      {
        opening := .createDatabase
        lead := []
        first := "CREATE".toList
        second := "DATABASE".toList
        rest := " __database_name__;".toList
        blank := rfl
        spellsFirst := by decide
        spellsSecond := by decide
      }
    let rows : KeywordLine :=
      {
        opening := .insertInto
        lead := []
        first := "INSERT".toList
        second := "INTO".toList
        rest := " t VALUES (1);".toList
        blank := rfl
        spellsFirst := by decide
        spellsSecond := by decide
      }
    let statement (kind : Kind) (text : Text) : Block :=
      { kind := kind, text := text, order := 0, lineNumber := 1 }
    IsRespaced (database.spaced " ".toList) (database.spaced "  ".toList) [] database
        " ".toList "  ".toList ∧
      (read substitution (database.spaced " ".toList)).blocks =
        .ok [statement .createDatabase "CREATE DATABASE acme;".toList] ∧
      (read substitution (database.spaced "  ".toList)).blocks =
        .ok [statement .other "CREATE  DATABASE __database_name__;".toList] ∧
      ¬ LikeOutcome (List.Forall₂ (Block.Alike fun _ _ => True))
        (read substitution (database.spaced " ".toList)).blocks
        (read substitution (database.spaced "  ".toList)).blocks ∧
      (read substitution (rows.spaced " ".toList)).blocks =
        .ok [statement .insert "INSERT INTO t VALUES (1);".toList] ∧
      (read substitution (rows.spaced "  ".toList)).blocks = .ok [] := by
  intro substitution database rows statement
  have respaced :
      IsRespaced (database.spaced " ".toList) (database.spaced "  ".toList) [] database
        " ".toList "  ".toList :=
    {
      gapRun := ⟨List.cons_ne_nil _ _, rfl⟩
      otherRun := ⟨List.cons_ne_nil _ _, rfl⟩
      lines :=
        ⟨database.spaced " ".toList, database.spaced "  ".toList, [], rfl, rfl, rfl, rfl⟩
    }
  have oneSpace :
      (read substitution (database.spaced " ".toList)).blocks =
        .ok [statement .createDatabase "CREATE DATABASE acme;".toList] := rfl
  have twoSpaces :
      (read substitution (database.spaced "  ".toList)).blocks =
        .ok [statement .other "CREATE  DATABASE __database_name__;".toList] := rfl
  refine ⟨respaced, oneSpace, twoSpaces, ?_, rfl, rfl⟩
  rw [oneSpace, twoSpaces]
  rintro (_ | alike)
  cases alike with
  | cons same _ =>
      cases same.kind

end

end TenantSchema.Script
