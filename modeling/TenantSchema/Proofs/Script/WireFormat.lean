import TenantSchema.Proofs.Script.Division
import TenantSchema.Proofs.Script.LineClasses
import TenantSchema.Proofs.Text.JoinedLines

namespace TenantSchema.Script

open Text

/-!
# The format of a script

A document of the format is a row of passages: noise, a line that creates the database,
tables, other definitions, one-line inserts and sections with a delimiter of their own.  The
rules of the format are about the lines of one passage only, and a document that keeps them
is read back as one block for each passage that is no noise.
-/

namespace Passage

/-- Whether the lines of a passage keep the rules of the format. -/
def Conforms (placeholder : Text) : Passage → Prop
  | .skipped line =>
      IsNoise (statementLine line)
  | .database line =>
      startsWithCapitals "CREATE DATABASE".toList (statementLine line) = true ∧
        occursIn placeholder (statementLine line) = true
  | .insert line =>
      startsWithCapitals "INSERT INTO".toList (statementLine line) = true
  | .definition .table first rest =>
      opensTable (statementLine first) = true ∧
        EndsAt (fun line => hasEngineClause (unquoteIdentifiers line)) (first :: rest)
  | .definition .statement first rest =>
      startsWithCapitals "CREATE".toList (statementLine first) = true ∧
        startsWithCapitals "CREATE DATABASE".toList (statementLine first) = false ∧
        opensTable (statementLine first) = false ∧
        EndsAt (fun line => endsStatement (unquoteIdentifiers line)) (first :: rest)
  | .delimited token marker body closing =>
      delimiterToken? (statementLine marker) = some token ∧
        token ≠ ordinaryDelimiter ∧
        (∃ line ∈ body, allBlank (bodyLine token line) = false) ∧
        EndsAt (fun line => closesSection (statementLine line)) (body ++ [closing])

instance (placeholder : Text) : DecidablePred (Conforms placeholder)
  | .skipped _ =>
      instDecidableOr
  | .database _ | .definition .table .. | .definition .statement .. | .delimited .. =>
      instDecidableAnd
  | .insert _ =>
      instDecidableEqBool _ _

/-- Whether a passage is no more than noise. -/
def isNoise : Passage → Bool
  | .skipped _ =>
      true
  | .database _ | .insert _ | .definition .. | .delimited .. =>
      false

variable
  {placeholder : Text}
  {passage : Passage}

/-- The rules of the format say how the lines of a passage are read. -/
theorem isComplete_of_conforms
    (conforms : passage.Conforms placeholder) :
    passage.IsComplete placeholder := by
  cases passage with
  | skipped line =>
      exact ofLine_of_noise conforms
  | database line =>
      exact ⟨ofLine_of_database conforms.1, conforms.2⟩
  | insert line =>
      exact ofLine_of_insert conforms
  | definition form first rest =>
      cases form with
      | table =>
          obtain ⟨opens, ends⟩ := conforms
          exact ⟨ofLine_of_opensTable opens, ends⟩
      | statement =>
          obtain ⟨starts, noDatabase, noTable, ends⟩ := conforms
          exact ⟨ofLine_of_create starts noDatabase noTable, ends⟩
  | delimited token marker body closing =>
      obtain ⟨marks, custom, _, ends⟩ := conforms
      exact ⟨ofLine_of_marker marks custom, ends⟩

/-- A passage that keeps the rules has a block, unless it is noise. -/
theorem isSome_draft?_of_conforms
    (substitution : Substitution)
    (lineNumber : Nat)
    (conforms : passage.Conforms placeholder) :
    (passage.draft? substitution lineNumber).isSome = !passage.isNoise := by
  cases passage with
  | skipped | database | insert | definition =>
      rfl
  | delimited token marker body closing =>
      obtain ⟨_, _, ⟨line, member, notBlank⟩, _⟩ := conforms
      have notAllBlank : ¬ ∀ line ∈ body, allBlank (bodyLine token line) = true := by
        intro allAreBlank
        rw [allAreBlank line member] at notBlank
        cases notBlank
      rw [draft?, if_neg notAllBlank]
      rfl

/-- A passage that is no noise ends in a line that is not empty. -/
theorem last_ne_nil_of_conforms
    {last : Text}
    (conforms : passage.Conforms placeholder)
    (block : passage.isNoise = false)
    (isLast : passage.lines.getLast? = some last) :
    last ≠ [] := by
  rintro rfl
  cases passage with
  | skipped line =>
      cases block
  | database line =>
      cases isLast
      cases conforms.1
  | insert line =>
      cases isLast
      cases conforms
  | definition form first rest =>
      cases form with
      | table =>
          cases EndsAt.test_last conforms.2 isLast
      | statement =>
          cases EndsAt.test_last conforms.2.2.2 isLast
  | delimited token marker body closing =>
      have closingIsLast : (body ++ [closing]).getLast? = some [] := by
        rw [← isLast, lines, ← List.cons_append, List.getLast?_concat, List.getLast?_concat]
      cases EndsAt.test_last conforms.2.2.2 closingIsLast

end Passage

section

variable
  {placeholder : Text}
  {substitution : Substitution}
  {passages : List Passage}

/-- A document has one block for each passage that is no noise. -/
theorem length_draftsOf_of_conforms
    (lineNumber : Nat)
    (conform : ∀ passage ∈ passages, passage.Conforms placeholder) :
    (draftsOf substitution lineNumber passages).length =
      passages.countP (!·.isNoise) := by
  induction passages generalizing lineNumber with
  | nil =>
      rfl
  | cons passage rest inductionHypothesis =>
      rw [List.forall_mem_cons] at conform
      have head := Passage.isSome_draft?_of_conforms substitution lineNumber conform.1
      rw [draftsOf, List.length_append, inductionHypothesis _ conform.2, List.countP_cons,
        ← head]
      cases passage.draft? substitution lineNumber with
      | none =>
          simp
      | some draft =>
          simp [Nat.add_comm]

theorem getLast?_linesOf_concat
    (passages : List Passage)
    (passage : Passage) :
    (linesOf (passages ++ [passage])).getLast? = passage.lines.getLast? := by
  have nonempty : passage.lines ≠ [] :=
    List.ne_nil_of_length_pos passage.length_lines_pos
  rw [linesOf, List.flatMap_append, List.flatMap_singleton, List.getLast?_append,
    List.getLast?_eq_some_getLast nonempty, Option.some_or]

/--
The lines of a document are found again.  An empty line at its end is lost, but it was noise
and had no block.
-/
theorem exists_passages_of_document
    (substitution : Substitution)
    (conform : ∀ passage ∈ passages, passage.Conforms placeholder)
    (unbroken : ∀ line ∈ linesOf passages, Unbroken line) :
    ∃ found : List Passage,
      Text.lines (joinWith ['\n'] (linesOf passages)) = linesOf found ∧
        (∀ passage ∈ found, passage.Conforms placeholder) ∧
        draftsOf substitution 1 found = draftsOf substitution 1 passages := by
  by_cases endsEmpty : (linesOf passages).getLast? = some []
  · rcases List.eq_nil_or_concat passages with rfl | ⟨front, last, rfl⟩
    · cases endsEmpty
    · rw [List.concat_eq_append] at *
      rw [getLast?_linesOf_concat] at endsEmpty
      have lastConforms := conform last (by simp)
      cases last with
      -- Only noise ends in an empty line, and without that line nothing of it is left.
      | skipped line =>
          cases endsEmpty
          refine ⟨front, ?_, ?_, ?_⟩
          · have split : linesOf (front ++ [.skipped []]) = linesOf front ++ [[]] := by
              simp [linesOf, Passage.lines]
            rw [split] at unbroken ⊢
            apply lines_joinWith_concat_nil
            exact fun line member => unbroken line (List.mem_append_left _ member)
          · exact fun passage member => conform passage (List.mem_append_left _ member)
          · rw [draftsOf_append]
            exact (List.append_nil _).symm
      | database | insert | definition | delimited =>
          exact (Passage.last_ne_nil_of_conforms lastConforms rfl endsEmpty rfl).elim
  · refine ⟨passages, ?_, conform, rfl⟩
    apply lines_joinWith unbroken
    rintro line isLast rfl
    exact endsEmpty isLast

/-- Every document of the format is recovered: one block for each passage but the noise. -/
theorem document_is_recovered
    (conform : ∀ passage ∈ passages, passage.Conforms substitution.placeholder)
    (unbroken : ∀ line ∈ linesOf passages, Unbroken line) :
    (read substitution (joinWith ['\n'] (linesOf passages))).blocks =
        .ok (numberDrafts 0 (draftsOf substitution 1 passages)) ∧
      (draftsOf substitution 1 passages).length = passages.countP (!·.isNoise) := by
  refine ⟨?_, length_draftsOf_of_conforms 1 conform⟩
  obtain ⟨found, sameLines, foundConform, sameDrafts⟩ :=
    exists_passages_of_document substitution conform unbroken
  have divides :
      Divides substitution.placeholder
        (Text.lines (joinWith ['\n'] (linesOf passages))) found .complete := {
    covers := by rw [sameLines, Ending.lines, List.append_nil]
    complete := fun passage member =>
      Passage.isComplete_of_conforms (foundConform passage member)
    ends := trivial
  }
  rw [blocks_of_complete divides, sameDrafts]

/-- A name for the place that documents keep free for it. -/
def sampleSubstitution : Substitution :=
  { placeholder := defaultPlaceholder, target := "acme".toList }

/-- A document in which lines of one passage look like those that open or close another. -/
def sampleDocument : List Passage :=
  [
    .skipped "/* CREATE TABLE t; */".toList,
    .database "CREATE DATABASE \x60__database_name__\x60;".toList,
    .skipped "drop tables".toList,
    .definition .table "Create  Table \x60t\x60 (".toList
      ["DELIMITER ;;".toList, "id INT);".toList, ") ENGINE = InnoDB".toList],
    .insert "  INSERT INTO t VALUES (1); ".toList,
    .definition .statement "CREATE VIEW v AS".toList
      ["-- ENGINE=InnoDB".toList, "SELECT 1; ".toList],
    .delimited ";;".toList "DELIMITER ;;".toList
      ["CREATE PROCEDURE p()".toList, "SELECT 1; ;; ".toList] "delimiter ;".toList,
    .skipped []
  ]

/-- The sample document keeps the rules, and its five blocks are recovered. -/
theorem sample_document_is_recovered :
    (∀ passage ∈ sampleDocument, passage.Conforms sampleSubstitution.placeholder) ∧
      (∀ line ∈ linesOf sampleDocument, Unbroken line) ∧
      (read sampleSubstitution (joinWith ['\n'] (linesOf sampleDocument))).blocks =
        .ok [
          {
            kind := .createDatabase
            text := "CREATE DATABASE acme;".toList
            order := 0
            lineNumber := 2
          },
          {
            kind := .createTable
            text := "Create  Table t (\nDELIMITER ;;\nid INT);\n) ENGINE = InnoDB".toList
            order := 1
            lineNumber := 4
          },
          {
            kind := .insert
            text := "INSERT INTO t VALUES (1);".toList
            order := 2
            lineNumber := 8
          },
          {
            kind := .other
            text := "CREATE VIEW v AS\n-- ENGINE=InnoDB\nSELECT 1;".toList
            order := 3
            lineNumber := 9
          },
          {
            kind := .procedureBody
            text := "CREATE PROCEDURE p()\nSELECT 1;".toList
            order := 4
            lineNumber := 13
          }
        ] := by
  have conform :
      ∀ passage ∈ sampleDocument, passage.Conforms sampleSubstitution.placeholder := by
    decide +kernel
  have unbroken : ∀ line ∈ linesOf sampleDocument, Unbroken line := by
    decide +kernel
  refine ⟨conform, unbroken, ?_⟩
  rw [(document_is_recovered conform unbroken).1]
  apply congrArg Except.ok
  decide +kernel

/--
The placeholder is looked for in the trimmed line, so one that ends in white space is missed
at the end of a line that carries it.
-/
theorem placeholder_ending_in_blank_is_missed :
    let line := "CREATE DATABASE db ".toList
    let substitution : Substitution := { placeholder := "db ".toList, target := "acme".toList }
    Substitution.of? "acme".toList "db ".toList = .ok substitution ∧
      startsWithCapitals "CREATE DATABASE".toList (unquoteIdentifiers line) = true ∧
      occursIn substitution.placeholder (unquoteIdentifiers line) = true ∧
      (read substitution line).blocks = .error (.missingPlaceholder 1 "db ".toList) :=
  ⟨rfl, rfl, rfl, rfl⟩

end

end TenantSchema.Script
