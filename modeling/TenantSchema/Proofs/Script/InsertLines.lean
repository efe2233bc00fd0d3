import TenantSchema.Proofs.Script.Concatenation
import TenantSchema.Proofs.Script.LineClasses

namespace TenantSchema.Script

open Text

/-!
# Statements that insert rows

A statement that inserts rows is one line.  A script is split into lines at every boundary
character, and only some of those are newlines.  So of a statement that stands between two
newlines the block holds what comes before the first other boundary in it, and the whole of it
exactly if there is none.
-/

/-- Where a line stands in a script of which only newlines end lines. -/
structure IsLineOf (script before line after : Text) : Prop where
  split :
    script = before ++ line ++ after
  starts :
    EndsLine before
  ends :
    after = [] ∨ after.head? = some '\n'
  single :
    '\n' ∉ line

theorem isBlank_of_isLineBreak
    {character : Char}
    (breaks : isLineBreak character = true) :
    isBlank character = true := by
  simp only [isLineBreak, isBlank, Bool.or_eq_true, Bool.and_eq_true, decide_eq_true_eq,
    beq_iff_eq] at breaks ⊢
  omega

theorem unquoteIdentifiers_cons
    {character : Char}
    (plain : character ≠ '\x60')
    (rest : Text) :
    unquoteIdentifiers (character :: rest) = character :: unquoteIdentifiers rest :=
  List.filter_cons_of_pos (by simp [plain])

theorem unquoteIdentifiers_append
    (text later : Text) :
    unquoteIdentifiers (text ++ later) =
      unquoteIdentifiers text ++ unquoteIdentifiers later :=
  List.filter_append _ _

/-- Back quotes and boundaries do not get into each other's way. -/
theorem unquoteIdentifiers_firstLine (line : Text) :
    unquoteIdentifiers (firstLine line) = firstLine (unquoteIdentifiers line) := by
  induction line with
  | nil =>
      rfl
  | cons character rest inductionHypothesis =>
      by_cases quote : character = '\x60'
      · subst quote
        exact inductionHypothesis
      · rw [unquoteIdentifiers_cons quote]
        cases breaks : isLineBreak character with
        | true =>
            simp [firstLine, breaks, unquoteIdentifiers]
        | false =>
            rw [firstLine_cons breaks, firstLine_cons breaks, unquoteIdentifiers_cons quote,
              inductionHypothesis]

/-- White space and back quotes in front of a statement do not belong to it. -/
theorem statementLine_append_of_allBlank
    {lead : Text}
    (blank : allBlank (unquoteIdentifiers lead) = true)
    (line : Text) :
    statementLine (lead ++ line) = statementLine line := by
  rw [statementLine, unquoteIdentifiers_append, trim_append_of_allBlank_left blank,
    ← statementLine]

theorem statementLine_cons
    {character : Char}
    (rest : Text)
    (solid : isBlank character = false)
    (plain : character ≠ '\x60') :
    statementLine (character :: rest) = trimRight (unquoteIdentifiers (character :: rest)) := by
  rw [statementLine, trim, unquoteIdentifiers_cons plain, trimLeft,
    List.dropWhile_cons_of_neg (by simp [solid])]

/-- A statement starts at a character that is neither white space nor a back quote. -/
theorem exists_eq_append_cons_of_statementLine
    {line : Text}
    (nonempty : statementLine line ≠ []) :
    ∃ lead character rest,
      line = lead ++ character :: rest ∧
        allBlank (unquoteIdentifiers lead) = true ∧
        isBlank character = false ∧
        character ≠ '\x60' := by
  induction line with
  | nil =>
      exact (nonempty rfl).elim
  | cons character rest inductionHypothesis =>
      by_cases skipped : allBlank (unquoteIdentifiers [character]) = true
      · rw [← List.singleton_append, statementLine_append_of_allBlank skipped] at nonempty
        obtain ⟨lead, first, others, rfl, blank, solid, plain⟩ := inductionHypothesis nonempty
        refine ⟨character :: lead, first, others, rfl, ?_, solid, plain⟩
        rw [← List.singleton_append, unquoteIdentifiers_append, allBlank, List.all_append,
          Bool.and_eq_true]
        exact ⟨skipped, blank⟩
      · have plain : character ≠ '\x60' := by
          rintro rfl
          exact skipped rfl
        have solid : isBlank character = false := by
          simpa [unquoteIdentifiers, plain, allBlank] using skipped
        exact ⟨[], character, rest, rfl, rfl, solid, plain⟩

/-- The statement on the first line is what stands before the first boundary in the statement. -/
theorem statementLine_firstLine
    {character : Char}
    (rest : Text)
    (solid : isBlank character = false)
    (plain : character ≠ '\x60') :
    statementLine (firstLine (character :: rest)) =
      trimRight (firstLine (statementLine (character :: rest))) := by
  have goesOn : isLineBreak character = false := by
    rw [Bool.eq_false_iff]
    intro breaks
    rw [isBlank_of_isLineBreak breaks] at solid
    cases solid
  calc statementLine (firstLine (character :: rest))
    _ = trimRight (unquoteIdentifiers (firstLine (character :: rest))) := by
      rw [firstLine_cons goesOn, statementLine_cons _ solid plain]
    _ = trimRight (firstLine (unquoteIdentifiers (character :: rest))) := by
      rw [unquoteIdentifiers_firstLine]
    _ = trimRight (firstLine (statementLine (character :: rest))) := by
      rw [statementLine_cons rest solid plain]
      exact (trimRight_takeWhile_trimRight _ _).symm

/-- The words `INSERT INTO` hold no boundary and do not end in white space. -/
theorem startsWith_insert_firstLine
    {text : Text}
    (starts : startsWithCapitals "INSERT INTO".toList text = true) :
    startsWithCapitals "INSERT INTO".toList (trimRight (firstLine text)) = true := by
  apply startsWithCapitals_trimRight
  · intro capital isLast character capitalizes
    cases isLast
    rcases cases_of_capitalizesTo capitalizes with rfl | rfl | rfl | rfl <;> decide
  · apply startsWithCapitals_takeWhile _ starts
    intro capital member character capitalizes
    have solid :
        ("INSERT INTO".toList.all fun capital =>
          !isLineBreak capital && !isLineBreak capital.toLower) = true := by
      decide
    have spared := List.all_eq_true.mp solid capital member
    rw [Bool.and_eq_true] at spared
    rcases cases_of_capitalizesTo capitalizes with rfl | rfl | rfl | rfl
    · exact spared.1
    · exact spared.2
    · decide
    · decide

/-- The block of a statement holds the whole statement exactly if no boundary is in it. -/
theorem trimRight_firstLine_eq_statementLine_iff
    {line : Text} :
    trimRight (firstLine (statementLine line)) = statementLine line ↔
      Unbroken (statementLine line) := by
  constructor
  · intro whole character member
    rw [← whole] at member
    exact unbroken_firstLine _ character (mem_of_mem_trimRight member)
  · intro unbroken
    rw [firstLine_eq_self_iff.mpr unbroken, statementLine, trim, trimRight_trimRight]

section

variable
  {substitution : Substitution}
  {lineNumber : Nat}

theorem draftsOf_skipped (source : List Text) :
    draftsOf substitution lineNumber (source.map .skipped) = [] := by
  induction source generalizing lineNumber with
  | nil =>
      rfl
  | cons line rest inductionHypothesis =>
      exact inductionHypothesis

/-- The lines of a text that starts with a statement that inserts rows. -/
theorem exists_lines_of_insert
    {line after : Text}
    (noReturn : '\r' ∉ line)
    (ends : after = [] ∨ after.head? = some '\n')
    (starts : startsWithCapitals "INSERT INTO".toList (statementLine line) = true) :
    ∃ skipped first later,
      Text.lines (line ++ after) = skipped ++ first :: later ∧
        (∀ blank ∈ skipped, statementLine blank = []) ∧
        statementLine first = trimRight (firstLine (statementLine line)) := by
  have nonempty : statementLine line ≠ [] := by
    intro isNil
    rw [isNil] at starts
    cases starts
  obtain ⟨lead, character, rest, rfl, blank, solid, plain⟩ :=
    exists_eq_append_cons_of_statementLine nonempty
  have noReturnLead : '\r' ∉ lead := fun member =>
    noReturn (List.mem_append_left _ member)
  have blankPart {part : Text} (isPart : part ⊆ lead) :
      allBlank (unquoteIdentifiers part) = true := by
    rw [allBlank, List.all_eq_true] at blank ⊢
    exact fun other member => blank other (List.filter_subset _ isPart member)
  obtain ⟨skipped, opening, split, unbroken, parts⟩ :=
    exists_lines_append noReturnLead (character :: rest ++ after)
  rw [List.forall_mem_cons] at parts
  obtain ⟨later, splitFirst⟩ :=
    exists_lines_eq_cons
      (List.append_ne_nil_of_right_ne_nil opening (List.cons_ne_nil character (rest ++ after)))
  refine ⟨skipped, opening ++ firstLine (character :: rest), later, ?_, ?_, ?_⟩
  · rw [List.append_assoc, split, List.cons_append, splitFirst,
      firstLine_append_of_unbroken unbroken, ← List.cons_append,
      firstLine_append_of_newline _ ends]
  · intro piece member
    exact trim_eq_nil_iff.mpr (blankPart (parts.2 piece member))
  · rw [statementLine_append_of_allBlank (blankPart parts.1),
      statementLine_append_of_allBlank blank, statementLine_firstLine rest solid plain]

/-- A statement that inserts rows is scanned into a block with what stands on its first line. -/
theorem exists_drafts_of_insert
    {line after : Text}
    (noReturn : '\r' ∉ line)
    (ends : after = [] ∨ after.head? = some '\n')
    (starts : startsWithCapitals "INSERT INTO".toList (statementLine line) = true) :
    ∃ draft later,
      (scanLines substitution .outside lineNumber (Text.lines (line ++ after))).drafts =
          draft :: later ∧
        draft.kind = .insert ∧
        draft.text = trimRight (firstLine (statementLine line)) := by
  obtain ⟨skipped, first, later, split, blank, sameText⟩ :=
    exists_lines_of_insert noReturn ends starts
  have complete :
      ∀ passage ∈ skipped.map Passage.skipped ++ [.insert first],
        passage.IsComplete substitution.placeholder := by
    intro passage member
    rcases List.mem_append.mp member with isSkipped | isInsert
    · obtain ⟨piece, isPiece, rfl⟩ := List.mem_map.mp isSkipped
      rw [Passage.IsComplete, blank piece isPiece]
      decide
    · rw [List.mem_singleton.mp isInsert]
      apply ofLine_of_insert
      rw [sameText]
      exact startsWith_insert_firstLine starts
  have covers :
      skipped ++ first :: later =
        linesOf (skipped.map Passage.skipped ++ [.insert first]) ++ later := by
    simp [linesOf, Passage.lines, List.flatMap_map]
  rw [split, covers, scanLines_passages later complete, draftsOf_append, draftsOf_skipped]
  exact ⟨_, _, rfl, rfl, sameText⟩

/--
A line that the scan meets outside every block and that inserts rows has a block, which holds
what comes before the first boundary in the statement.
-/
theorem insert_is_cut_at_boundary
    {script before line after : Text}
    {blocks : List Block}
    (isLine : IsLineOf script before line after)
    (noReturn : '\r' ∉ script)
    (closed : LeavesNothingOpen substitution before)
    (starts : startsWithCapitals "INSERT INTO".toList (statementLine line) = true)
    (readable : (read substitution script).blocks = .ok blocks) :
    ∃ earlier block later,
      (read substitution before).blocks = .ok earlier ∧
        blocks = earlier ++ block :: later ∧
        block.kind = .insert ∧
        block.text = trimRight (firstLine (statementLine line)) ∧
        (block.text = statementLine line ↔ Unbroken (statementLine line)) := by
  obtain ⟨rfl, startsLine, ends, _⟩ := isLine
  have noReturnLine : '\r' ∉ line := fun member =>
    noReturn (List.mem_append_left _ (List.mem_append_right _ member))
  obtain ⟨draft, laterDrafts, drafts, isInsert, sameText⟩ :=
    exists_drafts_of_insert noReturnLine ends starts
  obtain ⟨_, rfl⟩ := blocks_eq_ok_iff.mp readable
  rw [List.append_assoc, lines_append_of_endsLine startsLine, scanLines_append closed,
    Scan.followedBy, drafts, numberDrafts_append, numberDrafts]
  refine ⟨_, _, _, blocks_eq_ok_iff.mpr ⟨failure_of_stateAfter closed, rfl⟩, rfl, isInsert,
    sameText, ?_⟩
  rw [sameText]
  exact trimRight_firstLine_eq_statementLine_iff

/-- A quoted statement behind a form feed, which keeps all of the rows it inserts. -/
theorem statement_behind_form_feed_is_whole :
    let substitution : Substitution :=
      { placeholder := defaultPlaceholder, target := "acme".toList }
    let before : Text := "CREATE TABLE t (c TEXT) ENGINE=InnoDB;\n".toList
    let line : Text := "\x0c  \x60insert into\x60 t VALUES ('a'); ".toList
    let table : Block :=
      {
        kind := .createTable
        text := "CREATE TABLE t (c TEXT) ENGINE=InnoDB;".toList
        order := 0
        lineNumber := 1
      }
    let row : Block :=
      {
        kind := .insert
        text := "insert into t VALUES ('a');".toList
        order := 1
        lineNumber := 3
      }
    IsLineOf (before ++ line) before line [] ∧
      (read substitution (before ++ line)).blocks = .ok [table, row] ∧
      ∃ earlier block later,
        (read substitution before).blocks = .ok earlier ∧
          [table, row] = earlier ++ block :: later ∧
          block.kind = .insert ∧
          block.text = trimRight (firstLine (statementLine line)) ∧
          (block.text = statementLine line ↔ Unbroken (statementLine line)) := by
  intro substitution before line table row
  have isLine : IsLineOf (before ++ line) before line [] :=
    {
      split := rfl
      starts := by decide
      ends := .inl rfl
      single := by decide
    }
  have readable : (read substitution (before ++ line)).blocks = .ok [table, row] := rfl
  have noReturn : '\r' ∉ before ++ line := by
    decide
  have closed : LeavesNothingOpen substitution before := rfl
  exact ⟨isLine, readable, insert_is_cut_at_boundary isLine noReturn closed rfl readable⟩

/-- A statement loses what follows a line separator in one of its strings. -/
theorem statement_is_cut_at_line_separator :
    let substitution : Substitution :=
      { placeholder := defaultPlaceholder, target := "acme".toList }
    let line : Text := "INSERT INTO t VALUES ('a\u2028b');".toList
    let row : Block :=
      {
        kind := .insert
        text := "INSERT INTO t VALUES ('a".toList
        order := 0
        lineNumber := 1
      }
    IsLineOf (line ++ ['\n']) [] line ['\n'] ∧
      '\r' ∉ line ++ ['\n'] ∧
      LeavesNothingOpen substitution [] ∧
      startsWithCapitals "INSERT INTO".toList (trim line) = true ∧
      (read substitution (line ++ ['\n'])).blocks = .ok [row] ∧
      row.text ≠ statementLine line := by
  intro substitution line row
  have isLine : IsLineOf (line ++ ['\n']) [] line ['\n'] :=
    {
      split := rfl
      starts := .inl rfl
      ends := .inr rfl
      single := by decide
    }
  have noReturn : '\r' ∉ line ++ ['\n'] := by
    decide
  have shorter : row.text ≠ statementLine line := by
    decide
  exact ⟨isLine, noReturn, rfl, rfl, rfl, shorter⟩

end

end TenantSchema.Script
