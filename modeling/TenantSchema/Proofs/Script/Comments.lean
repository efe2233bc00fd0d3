import TenantSchema.Proofs.Script.Conservation
import TenantSchema.Proofs.Script.InsertLines

namespace TenantSchema.Script

open Text

/-!
# Comments of several lines

A scan keeps no state for a comment: a line that starts with `/*` is passed over, and the
lines after it are read like any others.  So the lines of a comment are in no block as long as
none of them opens one, and the first of them that starts a statement is in its block as it
would be without the comment.
-/

/--
Where a comment stands in a script that opens at the start of a line and closes on a later
one; `inside` are the lines between those two.  A comment that closes on its first line has
no line inside.
-/
structure IsComment
    (source before : List Text)
    (opening : Text)
    (inside : List Text) :
    Prop where
  opens :
    ∃ lead body,
      opening = lead ++ '/' :: '*' :: body ∧
        allBlank lead = true ∧
        body.head? ≠ some '!' ∧
        occursIn "*/".toList body = false
  goesOn :
    ∀ line ∈ inside, occursIn "*/".toList line = false
  closes :
    ∃ closing after,
      source = before ++ opening :: (inside ++ closing :: after) ∧
        occursIn "*/".toList closing = true

/-- Whether a line starts a statement that becomes a block. -/
def StartsStatement (line : Text) : Prop :=
  startsWithCapitals "CREATE".toList (statementLine line) = true ∨
    startsWithCapitals "INSERT INTO".toList (statementLine line) = true

/-- Whether a line opens a block: it starts a statement or is the marker of a section. -/
def OpensBlock (line : Text) : Prop :=
  StartsStatement line ∨
    ∃ token,
      delimiterToken? (statementLine line) = some token ∧ token ≠ ordinaryDelimiter

theorem startsStatement_of_ofLine
    {line : Text}
    (opens :
      LineClass.ofLine (statementLine line) ∈ [.database, .table, .statement, .insert]) :
    StartsStatement line := by
  have databaseIsCreate : "CREATE DATABASE".toList = "CREATE".toList ++ " DATABASE".toList := by
    decide
  cases lineClass : LineClass.ofLine (statementLine line) with
  | silent | ignored | sectionStart | remark =>
      simp [lineClass] at opens
  | database =>
      left
      unfold LineClass.ofLine at lineClass
      repeat' split at lineClass
      all_goals cases lineClass
      apply startsWithCapitals_of_append
      rw [← databaseIsCreate]
      assumption
  | table | statement =>
      left
      unfold LineClass.ofLine at lineClass
      repeat' split at lineClass
      all_goals cases lineClass
      assumption
  | insert =>
      right
      unfold LineClass.ofLine at lineClass
      repeat' split at lineClass
      all_goals cases lineClass
      assumption

theorem not_startsStatement_iff
    {line : Text} :
    ¬ StartsStatement line ↔
      startsWithCapitals "CREATE".toList (statementLine line) = false ∧
        startsWithCapitals "INSERT INTO".toList (statementLine line) = false := by
  rw [StartsStatement, not_or, Bool.not_eq_true, Bool.not_eq_true]

/-- A line that opens no block is passed over outside every block. -/
theorem skipped_of_not_opensBlock
    {line : Text}
    (opensNone : ¬ OpensBlock line) :
    LineClass.ofLine (statementLine line) ∈ [.silent, .ignored, .remark] := by
  rw [OpensBlock, not_or] at opensNone
  obtain ⟨noStatement, noMarker⟩ := opensNone
  cases lineClass : LineClass.ofLine (statementLine line) with
  | silent | ignored | remark =>
      decide
  | database | table | statement | insert =>
      exact (noStatement (startsStatement_of_ofLine (by simp [lineClass]))).elim
  | sectionStart token =>
      refine (noMarker ⟨token, delimiterToken?_of_ofLine lineClass, ?_⟩).elim
      unfold LineClass.ofLine at lineClass
      repeat' split at lineClass
      all_goals cases lineClass
      assumption

/-- The first line of a comment is passed over outside every block. -/
theorem IsComment.skipped
    {source before inside : List Text}
    {opening : Text}
    (comment : IsComment source before opening inside) :
    LineClass.ofLine (statementLine opening) ∈ [.silent, .ignored, .remark] := by
  obtain ⟨lead, body, rfl, blank, _⟩ := comment.opens
  have leadBlank : allBlank (unquoteIdentifiers lead) = true := by
    rw [allBlank, List.all_eq_true] at blank ⊢
    exact fun character member => blank character (List.mem_of_mem_filter member)
  rw [statementLine_append_of_allBlank leadBlank,
    statementLine_cons _ (by decide) (by decide), unquoteIdentifiers_cons (by decide),
    trimRight_cons_of_not_allBlank rfl]
  generalize trimRight (unquoteIdentifiers ('*' :: body)) = rest
  have noStatement :
      startsWithCapitals "CREATE DATABASE".toList ('/' :: rest) = false ∧
        isIgnored ('/' :: rest) = false ∧
        startsWithCapitals "CREATE".toList ('/' :: rest) = false ∧
        delimiterToken? ('/' :: rest) = none ∧
        startsWithCapitals "INSERT INTO".toList ('/' :: rest) = false :=
    ⟨rfl, rfl, rfl, rfl, rfl⟩
  obtain ⟨noDatabase, notIgnored, noCreate, noMarker, noInsert⟩ := noStatement
  cases silent : isComment ('/' :: rest) with
  | true =>
      rw [LineClass.ofLine, if_pos (by rw [silent, Bool.or_true])]
      decide
  | false =>
      have solid : (('/' :: rest).isEmpty || isComment ('/' :: rest)) = false := by
        rw [silent]
        rfl
      simp only [LineClass.ofLine, solid, Bool.false_eq_true, if_false, noDatabase,
        notIgnored, noCreate, noMarker, noInsert]
      decide

section

variable
  {substitution : Substitution}
  {placeholder : Text}
  {lineNumber : Nat}
  {passages : List Passage}

/-- The stretches of passages lie among the lines of the passages. -/
theorem bounds_of_mem_stretchesOf
    {stretch : Stretch}
    (member : stretch ∈ stretchesOf lineNumber passages) :
    lineNumber ≤ stretch.first ∧
      stretch.next ≤ lineNumber + (linesOf passages).length := by
  obtain ⟨front, passage, back, rfl, found⟩ := mem_stretchesOf_iff.mp member
  have bounds := Passage.bounds_of_stretch? found
  simp only [linesOf, List.flatMap_append, List.flatMap_cons, List.length_append] at bounds ⊢
  omega

theorem stretchesOf_skipped (source : List Text) :
    stretchesOf lineNumber (source.map .skipped) = [] := by
  induction source generalizing lineNumber with
  | nil =>
      rfl
  | cons line rest inductionHypothesis =>
      exact inductionHypothesis

theorem linesOf_skipped (source : List Text) :
    linesOf (source.map .skipped) = source := by
  simp [linesOf, List.flatMap_map, Passage.lines]

/-- The first line of a passage is in its stretch exactly if it starts a statement. -/
theorem Passage.holds_first_iff
    {passage : Passage}
    {line : Text}
    {rest : List Text}
    (whole : passage.IsWhole placeholder)
    (first : passage.lines = line :: rest) :
    (∃ stretch, passage.stretch? lineNumber = some stretch ∧ stretch.Holds lineNumber) ↔
      StartsStatement line := by
  have alone {number : Nat} {lines : List Text} (nonempty : lines ≠ []) :
      Stretch.Holds { first := number, lines := lines } number :=
    ⟨Nat.le_refl _, Nat.lt_add_of_pos_right (List.length_pos_iff.mpr nonempty)⟩
  cases passage with
  | skipped skippedLine =>
      obtain ⟨rfl, _⟩ := List.cons.inj first
      rcases whole with complete | cut
      · have silent := not_startsStatement_iff.mpr (not_starts_of_skipped complete)
        simp [stretch?, silent]
      · exact cut.elim
  | database databaseLine =>
      obtain ⟨rfl, _⟩ := List.cons.inj first
      rcases whole with creates | cut
      · have starts : StartsStatement databaseLine :=
          startsStatement_of_ofLine (by simp [creates.opens])
        exact ⟨fun _ => starts, fun _ => ⟨_, rfl, alone (List.cons_ne_nil _ _)⟩⟩
      · exact cut.elim
  | insert insertLine =>
      obtain ⟨rfl, _⟩ := List.cons.inj first
      rcases whole with opens | cut
      · rw [IsComplete] at opens
        have starts : StartsStatement insertLine :=
          startsStatement_of_ofLine (by simp [opens])
        exact ⟨fun _ => starts, fun _ => ⟨_, rfl, alone (List.cons_ne_nil _ _)⟩⟩
      · exact cut.elim
  | definition form firstLine others =>
      obtain ⟨rfl, _⟩ := List.cons.inj first
      have opens : LineClass.ofLine (statementLine firstLine) = form.lineClass := by
        rcases whole with complete | cut
        · exact complete.1
        · exact cut.1
      have starts : StartsStatement firstLine := by
        apply startsStatement_of_ofLine
        rw [opens]
        cases form <;> decide
      exact ⟨fun _ => starts, fun _ => ⟨_, rfl, alone (List.cons_ne_nil _ _)⟩⟩
  | delimited token marker body closing =>
      obtain ⟨rfl, _⟩ := List.cons.inj first
      rcases whole with complete | cut
      · have silent := not_startsStatement_iff.mpr
          (not_starts_of_marker (delimiterToken?_of_ofLine complete.1))
        refine iff_of_false ?_ silent
        rintro ⟨stretch, found, holds, _⟩
        -- The stretch of a section starts behind its marker.
        rw [stretch?] at found
        split at found
        · cases found
        · cases found
          exact Nat.not_succ_le_self _ holds
      · exact cut.elim

/-- The first line of passages is in a stretch exactly if it starts a statement. -/
theorem holds_first_iff
    {line : Text}
    {rest : List Text}
    (whole : ∀ passage ∈ passages, passage.IsWhole placeholder)
    (first : linesOf passages = line :: rest) :
    (∃ stretch ∈ stretchesOf lineNumber passages, stretch.Holds lineNumber) ↔
      StartsStatement line := by
  cases passages with
  | nil =>
      cases first
  | cons passage others =>
      rw [List.forall_mem_cons] at whole
      have nonempty := passage.length_lines_pos
      obtain ⟨head, tail, shape⟩ :=
        List.exists_cons_of_ne_nil (List.length_pos_iff.mp nonempty)
      have sameLine : head = line := by
        rw [linesOf, List.flatMap_cons, shape, List.cons_append] at first
        exact (List.cons.inj first).1
      rw [← sameLine, ← passage.holds_first_iff whole.1 shape]
      constructor
      · rintro ⟨stretch, member, holds⟩
        rcases List.mem_append.mp member with here | later
        · exact ⟨stretch, Option.mem_toList.mp here, holds⟩
        · have bounds := bounds_of_mem_stretchesOf later
          have starts := holds.1
          omega
      · rintro ⟨stretch, found, holds⟩
        exact ⟨stretch, List.mem_append_left _ (Option.mem_toList.mpr found), holds⟩

section

variable
  {leading trailing : List Passage}
  {quiet : List Text}

/-- Lines that are passed over take up numbers and have no stretch. -/
theorem stretchesOf_around_skipped :
    stretchesOf lineNumber (leading ++ (quiet.map .skipped ++ trailing)) =
      stretchesOf lineNumber leading ++
        stretchesOf (lineNumber + (linesOf leading).length + quiet.length) trailing := by
  rw [stretchesOf_append, stretchesOf_append, stretchesOf_skipped, linesOf_skipped,
    List.nil_append]

theorem not_holds_of_skipped
    {stretch : Stretch}
    {skippedLine : Nat}
    (member : stretch ∈ stretchesOf lineNumber (leading ++ (quiet.map .skipped ++ trailing)))
    (starts : lineNumber + (linesOf leading).length ≤ skippedLine)
    (ends : skippedLine < lineNumber + (linesOf leading).length + quiet.length) :
    ¬ stretch.Holds skippedLine := by
  rintro ⟨behind, ahead⟩
  rw [stretchesOf_around_skipped] at member
  rcases List.mem_append.mp member with earlier | later
  · have bound := (bounds_of_mem_stretchesOf earlier).2
    omega
  · have bound := (bounds_of_mem_stretchesOf later).1
    omega

/-- The line behind those that are passed over is in a stretch if it starts a statement. -/
theorem holds_behind_skipped_iff
    {line : Text}
    {rest : List Text}
    (whole : ∀ passage ∈ trailing, passage.IsWhole placeholder)
    (first : linesOf trailing = line :: rest) :
    (∃ stretch ∈ stretchesOf lineNumber (leading ++ (quiet.map .skipped ++ trailing)),
        stretch.Holds (lineNumber + (linesOf leading).length + quiet.length)) ↔
      StartsStatement line := by
  rw [← holds_first_iff whole first, stretchesOf_around_skipped]
  constructor
  · rintro ⟨stretch, member, holds⟩
    rcases List.mem_append.mp member with earlier | later
    · have bound := (bounds_of_mem_stretchesOf earlier).2
      have ahead := holds.2
      omega
    · exact ⟨stretch, later, holds⟩
  · rintro ⟨stretch, member, holds⟩
    exact ⟨stretch, List.mem_append_right _ member, holds⟩

end

/-- A script is made of passages around lines that are met outside every block and passed over. -/
theorem exists_passages_around_skipped
    {before quiet rest : List Text}
    (outside : stateAfter substitution .outside lineNumber before = .ok .outside)
    (skipped :
      ∀ line ∈ quiet,
        LineClass.ofLine (statementLine line) ∈ [.silent, .ignored, .remark])
    (reads :
      (scanLines substitution .outside lineNumber (before ++ (quiet ++ rest))).failure = none) :
    ∃ leading trailing,
      before = linesOf leading ∧
        rest = linesOf trailing ∧
        Composes substitution.placeholder (before ++ (quiet ++ rest))
          (leading ++ (quiet.map .skipped ++ trailing)) ∧
        (scanLines substitution .outside lineNumber (before ++ (quiet ++ rest))).drafts =
          draftsOf substitution lineNumber
            (leading ++ (quiet.map .skipped ++ trailing)) := by
  obtain ⟨leading, rfl, complete⟩ := stateAfter_eq_outside_iff.mp outside
  have completeFront :
      ∀ passage ∈ leading ++ quiet.map .skipped,
        passage.IsComplete substitution.placeholder :=
    List.forall_mem_append.mpr ⟨complete, List.forall_mem_map.mpr skipped⟩
  have split :
      linesOf leading ++ (quiet ++ rest) =
        linesOf (leading ++ quiet.map .skipped) ++ rest := by
    rw [linesOf, linesOf, List.flatMap_append, ← linesOf, ← linesOf, linesOf_skipped,
      List.append_assoc]
  rw [split, scanLines_passages _ completeFront] at reads ⊢
  obtain ⟨trailing, composes, drafts⟩ := exists_composes_of_scan reads
  refine ⟨leading, trailing, rfl, composes.covers, ?_, ?_⟩
  · rw [← List.append_assoc]
    exact composes.append completeFront
  · rw [← List.append_assoc, draftsOf_append _ trailing, ← drafts]

/--
The lines of a comment that opens outside every block are in no block up to the first one that
opens a block for itself; that one is in a block exactly if it starts a statement.
-/
theorem comment_is_silent_up_to_statement
    {script opening : Text}
    {blocks : List Block}
    {before earlier later : List Text}
    (readable : (read substitution script).blocks = .ok blocks)
    (comment : IsComment (Text.lines script) before opening (earlier ++ later))
    (outside : stateAfter substitution .outside 1 before = .ok .outside)
    (quiet : ∀ line ∈ earlier, ¬ OpensBlock line) :
    ∃ stretches,
      (∀ stretch ∈ stretches, stretch.IsPartOf (Text.lines script)) ∧
        List.Forall₂
          (fun block stretch =>
            block.lineNumber = stretch.first ∧
              Transcribes substitution (Text.lines script) stretch block.kind block.text)
          blocks stretches ∧
        (∀ stretch ∈ stretches, ∀ lineNumber,
          before.length + 1 < lineNumber →
          lineNumber ≤ before.length + 1 + earlier.length →
          ¬ stretch.Holds lineNumber) ∧
        ∀ line,
          later.head? = some line →
          ((∃ stretch ∈ stretches, stretch.Holds (before.length + 2 + earlier.length)) ↔
            StartsStatement line) := by
  obtain ⟨closing, after, split, _⟩ := comment.closes
  obtain ⟨noFailure, rfl⟩ := blocks_eq_ok_iff.mp readable
  have skipped :
      ∀ line ∈ opening :: earlier,
        LineClass.ofLine (statementLine line) ∈ [.silent, .ignored, .remark] :=
    List.forall_mem_cons.mpr
      ⟨comment.skipped, fun line member => skipped_of_not_opensBlock (quiet line member)⟩
  have parts :
      Text.lines script = before ++ (opening :: earlier ++ (later ++ closing :: after)) := by
    rw [split, List.append_assoc, List.cons_append]
  rw [parts] at noFailure ⊢
  obtain ⟨leading, trailing, isLeading, isTrailing, composes, drafts⟩ :=
    exists_passages_around_skipped outside skipped noFailure
  have length : (linesOf leading).length = before.length := by
    rw [← isLeading]
  refine ⟨stretchesOf 1 (leading ++ ((opening :: earlier).map .skipped ++ trailing)),
    fun _ => composes.isPartOf, ?_, ?_, ?_⟩
  · rw [drafts]
    exact forall₂_numberDrafts 0 (forall₂_draftsOf composes)
  · intro stretch member lineNumber behind ahead
    have starts : 1 + (linesOf leading).length ≤ lineNumber := by
      omega
    have ends :
        lineNumber < 1 + (linesOf leading).length + (opening :: earlier).length := by
      rw [List.length_cons]
      omega
    exact not_holds_of_skipped member starts ends
  · intro line isHead
    obtain ⟨others, rfl⟩ := List.head?_eq_some_iff.mp isHead
    have trailingWhole :
        ∀ passage ∈ trailing, passage.IsWhole substitution.placeholder :=
      fun passage member => composes.whole passage (by simp [member])
    have number :
        1 + (linesOf leading).length + (opening :: earlier).length =
          before.length + 2 + earlier.length := by
      rw [length, List.length_cons]
      omega
    rw [← number]
    exact holds_behind_skipped_iff trailingWhole isTrailing.symm

/-- A comment with an alteration, which is in no block, and rows behind it, which are. -/
theorem rows_in_comment_are_inserted :
    let substitution : Substitution :=
      { placeholder := defaultPlaceholder, target := "acme".toList }
    let before : List Text := ["SET NAMES utf8;".toList]
    let opening : Text := "/* no longer needed".toList
    let earlier : List Text := ["ALTER TABLE t ADD c INT;".toList]
    let later : List Text := ["INSERT INTO t VALUES (1);".toList]
    let script : Text :=
      joinWith ['\n'] (before ++ opening :: (earlier ++ later ++ ["*/".toList]))
    let row : Block :=
      {
        kind := .insert
        text := "INSERT INTO t VALUES (1);".toList
        order := 0
        lineNumber := 4
      }
    (read substitution script).blocks = .ok [row] ∧
      IsComment (Text.lines script) before opening (earlier ++ later) ∧
      stateAfter substitution .outside 1 before = .ok .outside ∧
      (∀ line ∈ earlier, ¬ OpensBlock line) ∧
      ∃ stretches,
        List.Forall₂
            (fun block stretch =>
              block.lineNumber = stretch.first ∧
                Transcribes substitution (Text.lines script) stretch block.kind block.text)
            [row] stretches ∧
          (∀ stretch ∈ stretches, ¬ stretch.Holds 3) ∧
          ∃ stretch ∈ stretches, stretch.Holds 4 := by
  intro substitution before opening earlier later script row
  have readable : (read substitution script).blocks = .ok [row] := rfl
  have comment : IsComment (Text.lines script) before opening (earlier ++ later) :=
    {
      opens := ⟨[], " no longer needed".toList, rfl, rfl, by decide, rfl⟩
      goesOn := by decide
      closes := ⟨"*/".toList, [], rfl, rfl⟩
    }
  have outside : stateAfter substitution .outside 1 before = .ok .outside := rfl
  have quiet : ∀ line ∈ earlier, ¬ OpensBlock line := by
    intro line member opens
    cases List.mem_singleton.mp member
    rcases opens with (create | insert) | ⟨token, marks, _⟩
    · cases create
    · cases insert
    · cases marks
  obtain ⟨stretches, _, made, silent, next⟩ :=
    comment_is_silent_up_to_statement readable comment outside quiet
  refine ⟨readable, comment, outside, quiet, stretches, made, ?_, ?_⟩
  · exact fun stretch member => silent stretch member 3 (by decide) (by decide)
  · exact (next "INSERT INTO t VALUES (1);".toList rfl).mpr (.inr rfl)

/-- A table between the two lines of a comment is a block of the script. -/
theorem table_in_comment_is_a_block :
    let substitution : Substitution :=
      { placeholder := defaultPlaceholder, target := "acme".toList }
    let table : Block :=
      {
        kind := .createTable
        text := "CREATE TABLE t (id INT) ENGINE=InnoDB;".toList
        order := 0
        lineNumber := 2
      }
    let script : Text := joinWith ['\n'] ["/*".toList, table.text, "*/".toList]
    IsComment (Text.lines script) [] "/*".toList [table.text] ∧
      stateAfter substitution .outside 1 [] = .ok .outside ∧
      (read substitution script).blocks = .ok [table] := by
  intro substitution table script
  have comment : IsComment (Text.lines script) [] "/*".toList [table.text] :=
    {
      opens := ⟨[], [], rfl, rfl, by decide, rfl⟩
      goesOn := by decide
      closes := ⟨"*/".toList, [], rfl, rfl⟩
    }
  exact ⟨comment, rfl, rfl⟩

end

end TenantSchema.Script
