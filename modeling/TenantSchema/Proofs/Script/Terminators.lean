import Mathlib.Data.List.TakeWhile
import TenantSchema.Proofs.Script.Conservation
import TenantSchema.Proofs.Text.JoinedLines

namespace TenantSchema.Script

open Text

/-!
# Where blocks end

A block ends at the terminator of its own form, which is not always the end of a statement: a
table ends at its storage engine, another definition at a semicolon, and a section at the
marker that gives the ordinary delimiter back.  No line of a definition before the last one
holds the terminator of its form, and a section with one terminated stretch is that stretch.
-/

/-- Blank lines at the end of a block do not show in its text. -/
theorem blockText_append_of_blank
    {lines blanks : List Text}
    (solid : ∃ line ∈ lines, allBlank line = false)
    (blank : ∀ line ∈ blanks, allBlank line = true) :
    blockText (lines ++ blanks) = blockText lines := by
  obtain ⟨line, member, notBlank⟩ := solid
  have nonempty : lines ≠ [] := List.ne_nil_of_mem member
  by_cases noBlanks : blanks = []
  · rw [noBlanks, List.append_nil]
  · have leftOver : (joinWith ['\n'] lines).dropWhile (· == '\n') ≠ [] := by
      intro onlyNewlines
      have allAreBlank : lines.all allBlank = true := by
        rw [← allBlank_blockText, blockText, onlyNewlines]
        rfl
      rw [List.all_eq_true.mp allAreBlank line member] at notBlank
      cases notBlank
    have tailBlank : allBlank (['\n'] ++ joinWith ['\n'] blanks) = true := by
      rw [allBlank, List.all_append, ← allBlank, ← allBlank, allBlank_joinWith,
        List.all_eq_true.mpr blank]
      decide
    rw [blockText, joinWith_append nonempty noBlanks, List.append_assoc,
      List.dropWhile_append, if_neg, trimRight_append_of_allBlank tailBlank, blockText]
    rwa [List.isEmpty_iff]

/-- A blank line of a section stays blank. -/
theorem allBlank_bodyLine
    {token line : Text}
    (blank : allBlank (unquoteIdentifiers line) = true) :
    allBlank (bodyLine token line) = true := by
  rw [bodyLine, dropTrailingDelimiter, trimRight_eq_nil_iff.mpr blank]
  split
  · rw [List.take_nil]
    rfl
  · exact blank

/-- What a passage says about the lines before the end of its block. -/
def Passage.KeepsToTerminator (substitution : Substitution) : Passage → Prop
  | .skipped _ | .database _ | .insert _ =>
      True
  | .definition .table first rest =>
      ∀ line ∈ (first :: rest).dropLast, hasEngineClause (unquoteIdentifiers line) = false
  | .definition .statement first rest =>
      ∀ line ∈ (first :: rest).dropLast, endsStatement (unquoteIdentifiers line) = false
  | .delimited token marker body closing =>
      ∀ opening last blanks kept,
        body = opening ++ last :: blanks →
        (∀ line ∈ opening, ∀ text, trimRight (unquoteIdentifiers line) ≠ text ++ token) →
        trimRight (unquoteIdentifiers last) = kept ++ token →
        (∀ line ∈ blanks, allBlank (unquoteIdentifiers line) = true) →
        (∃ line ∈ opening.map unquoteIdentifiers ++ [trimRight kept], allBlank line = false) →
        ∀ lineNumber,
          (Passage.delimited token marker body closing).draft? substitution lineNumber =
            some {
              kind := bodyKind body
              text := blockText (opening.map unquoteIdentifiers ++ [trimRight kept])
              lineNumber := lineNumber + 1
            }

theorem Form.closes_eq_false_of_isWhole
    {placeholder : Text}
    {form : Form}
    {first : Text}
    {rest : List Text}
    (whole : (Passage.definition form first rest).IsWhole placeholder) :
    ∀ line ∈ (first :: rest).dropLast, form.closes line = false := by
  rcases whole with complete | cut
  · exact (endsAt_iff.mp complete.2).2
  · exact fun line member => cut.2 line (List.dropLast_subset _ member)

theorem Passage.keepsToTerminator_of_isWhole
    {substitution : Substitution}
    {passage : Passage}
    (whole : passage.IsWhole substitution.placeholder) :
    passage.KeepsToTerminator substitution := by
  cases passage with
  | skipped | database | insert =>
      trivial
  | definition form first rest =>
      cases form with
      | table | statement =>
          exact Form.closes_eq_false_of_isWhole whole
  | delimited token marker body closing =>
      rintro opening last blanks kept rfl noEnd ends blank solid lineNumber
      have keptOpening : opening.map (bodyLine token) = opening.map unquoteIdentifiers := by
        apply List.map_congr_left
        intro line member
        exact (losesDelimiter_bodyLine token line).unique (.whole (noEnd line member))
      have keptLast : bodyLine token last = trimRight kept :=
        (losesDelimiter_bodyLine token last).unique (.ended ends)
      have keptLines :
          (opening ++ last :: blanks).map (bodyLine token) =
            opening.map unquoteIdentifiers ++ [trimRight kept] ++
              blanks.map (bodyLine token) := by
        simp [keptOpening, keptLast]
      have keptBlanks : ∀ line ∈ blanks.map (bodyLine token), allBlank line = true := by
        intro line member
        obtain ⟨blankLine, isBlank, rfl⟩ := List.mem_map.mp member
        exact allBlank_bodyLine (blank blankLine isBlank)
      have notAllBlank :
          ¬ ∀ line ∈ opening ++ last :: blanks, allBlank (bodyLine token line) = true := by
        intro allBlankLines
        obtain ⟨line, member, notBlank⟩ := solid
        have isKept : line ∈ (opening ++ last :: blanks).map (bodyLine token) := by
          rw [keptLines]
          exact List.mem_append_left _ member
        obtain ⟨source, isSource, rfl⟩ := List.mem_map.mp isKept
        rw [allBlankLines source isSource] at notBlank
        cases notBlank
      rw [Passage.draft?, if_neg notAllBlank, keptLines,
        blockText_append_of_blank solid keptBlanks]

/--
No line of a table before the last one holds a storage engine, no line of another definition
before the last one ends in a semicolon, and a section that is terminated once is one block
without the delimiter.
-/
theorem blocks_keep_to_terminators
    {substitution : Substitution}
    {script : Text}
    {blocks : List Block}
    (readable : (read substitution script).blocks = .ok blocks) :
    ∃ passages,
      Composes substitution.placeholder (Text.lines script) passages ∧
        blocks = numberDrafts 0 (draftsOf substitution 1 passages) ∧
        ∀ passage ∈ passages, passage.KeepsToTerminator substitution := by
  obtain ⟨passages, composes, sameBlocks⟩ := exists_composes_of_read readable
  refine ⟨passages, composes, sameBlocks, ?_⟩
  intro passage member
  exact Passage.keepsToTerminator_of_isWhole (composes.whole passage member)

/-- A view, a table and a procedure, each of them with one terminator of its own. -/
theorem terminated_script_is_kept_to_terminators :
    let substitution : Substitution :=
      { placeholder := defaultPlaceholder, target := "acme".toList }
    let script : Text :=
      joinWith ['\n']
        [
          "CREATE VIEW v AS".toList, "SELECT 1;".toList, "CREATE TABLE t (".toList,
          "id INT;".toList, ") ENGINE=InnoDB;".toList, "DELIMITER ;;".toList,
          "CREATE PROCEDURE p()".toList, "SELECT 1; ;;".toList, " ".toList,
          "DELIMITER ;".toList
        ]
    let blocks : List Block :=
      [
        { kind := .other, text := "CREATE VIEW v AS\nSELECT 1;".toList, order := 0,
          lineNumber := 1 },
        { kind := .createTable, text := "CREATE TABLE t (\nid INT;\n) ENGINE=InnoDB;".toList,
          order := 1, lineNumber := 3 },
        { kind := .procedureBody, text := "CREATE PROCEDURE p()\nSELECT 1;".toList, order := 2,
          lineNumber := 7 }
      ]
    (read substitution script).blocks = .ok blocks ∧
      ∃ passages,
        Composes substitution.placeholder (Text.lines script) passages ∧
          blocks = numberDrafts 0 (draftsOf substitution 1 passages) ∧
          ∀ passage ∈ passages, passage.KeepsToTerminator substitution :=
  ⟨rfl, blocks_keep_to_terminators rfl⟩

/-- A table without a storage engine takes in the next table, a section both its procedures. -/
theorem block_can_hold_two_statements :
    let substitution : Substitution :=
      { placeholder := defaultPlaceholder, target := "acme".toList }
    (read substitution
        (joinWith ['\n']
          [
            "CREATE TABLE a (id INT);".toList,
            "CREATE TABLE b (id INT) ENGINE=InnoDB;".toList
          ])).blocks =
        .ok [
          {
            kind := .createTable
            text := "CREATE TABLE a (id INT);\nCREATE TABLE b (id INT) ENGINE=InnoDB;".toList
            order := 0
            lineNumber := 1
          }
        ] ∧
      (read substitution
        (joinWith ['\n']
          [
            "DELIMITER ;;".toList, "CREATE PROCEDURE p() SELECT 1;;".toList,
            "CREATE PROCEDURE q() SELECT 2;;".toList, "DELIMITER ;".toList
          ])).blocks =
        .ok [
          {
            kind := .procedureBody
            text := "CREATE PROCEDURE p() SELECT 1\nCREATE PROCEDURE q() SELECT 2".toList
            order := 0
            lineNumber := 2
          }
        ] :=
  ⟨rfl, rfl⟩

end TenantSchema.Script
