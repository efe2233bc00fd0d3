import TenantSchema.Proofs.Applier.Coverage
import TenantSchema.Proofs.Script.Conservation

namespace TenantSchema

open Text

/-!
# Lines that are discarded

A line of a script is part of a block or it is discarded.  What is discarded are blank lines
and comments, the statements that a fresh schema has no use for, the markers of sections, the
lines of a section with nothing but delimiters, and whatever else is met outside every block;
of the latter a note is kept.  A run that succeeds executes the blocks, so no other line is lost.
-/

namespace Script

/--
Why a line of a script is in no block, with the notes that reading the script left.  A note
holds the whole trimmed line; the wording of the note about a remark shows no more than the
first sixty characters of it.
-/
inductive IsDiscarded
    (substitution : Substitution)
    (source : List Text)
    (notes : List Note)
    (lineNumber : Nat)
    (line : Text) :
    Prop
  | blank
      (blank : statementLine line = [])
  | comment
      (comment : isComment (statementLine line) = true)
  | ignored
      (ignored : isIgnored (statementLine line) = true)
      (noted : .ignoredLine lineNumber (statementLine line) ∈ notes)
  | marker
      {token : Text}
      (marks : delimiterToken? (statementLine line) = some token)
  | emptySection
      (inside : IsInEmptySection substitution source lineNumber)
  | remark
      (outside : IsMetOutside substitution source lineNumber)
      (noCreate : startsWithCapitals "CREATE".toList (statementLine line) = false)
      (noInsert : startsWithCapitals "INSERT INTO".toList (statementLine line) = false)
      (noted : .skippedLine lineNumber (statementLine line) ∈ notes)

/-- Whether a block is made from lines of a script of which one has the given number. -/
def IsMadeFrom
    (substitution : Substitution)
    (source : List Text)
    (lineNumber : Nat)
    (block : Block) :
    Prop :=
  ∃ stretch : Stretch,
    stretch.IsPartOf source ∧
      stretch.Holds lineNumber ∧
      block.lineNumber = stretch.first ∧
      Transcribes substitution source stretch block.kind block.text

section

variable
  {substitution : Substitution}
  {lineNumber : Nat}
  {passages : List Passage}

/-- A block that creates no database holds more than white space. -/
theorem Passage.not_allBlank_of_draft?
    {passage : Passage}
    {draft : Draft}
    (whole : passage.IsWhole substitution.placeholder)
    (found : passage.draft? substitution lineNumber = some draft)
    (other : draft.kind ≠ .createDatabase) :
    allBlank draft.text = false := by
  cases passage with
  | skipped line =>
      cases found
  | database line =>
      cases found
      exact (other rfl).elim
  | insert line =>
      cases found
      rcases whole with opens | cut
      · rw [Bool.eq_false_iff]
        intro blank
        rw [statementLine, trim, allBlank_trimRight, ← trimRight_eq_nil_iff, ← trim,
          ← statementLine] at blank
        rw [Passage.IsComplete, blank] at opens
        cases opens
      · exact cut.elim
  | definition form first rest =>
      have opens : LineClass.ofLine (statementLine first) = form.lineClass := by
        rcases whole with complete | cut
        · exact complete.1
        · exact cut.1
      cases found
      exact not_allBlank_of_closeBlock (closeBlock_definition opens lineNumber rest)
  | delimited token marker body closing =>
      rw [← closeBlock_delimited] at found
      exact not_allBlank_of_closeBlock found

theorem not_allBlank_of_mem_draftsOf
    {draft : Draft}
    (whole : ∀ passage ∈ passages, passage.IsWhole substitution.placeholder)
    (member : draft ∈ draftsOf substitution lineNumber passages)
    (other : draft.kind ≠ .createDatabase) :
    allBlank draft.text = false := by
  induction passages generalizing lineNumber with
  | nil =>
      cases member
  | cons passage rest inductionHypothesis =>
      rw [List.forall_mem_cons] at whole
      rcases List.mem_append.mp member with here | later
      · exact passage.not_allBlank_of_draft? whole.1 (Option.mem_toList.mp here) other
      · exact inductionHypothesis whole.2 later

theorem notesOf_append
    (passages later : List Passage) :
    notesOf lineNumber (passages ++ later) =
      notesOf lineNumber passages ++
        notesOf (lineNumber + (linesOf passages).length) later := by
  induction passages generalizing lineNumber with
  | nil =>
      rfl
  | cons passage others inductionHypothesis =>
      rw [List.cons_append, notesOf, notesOf, inductionHypothesis, List.append_assoc,
        linesOf, linesOf, List.flatMap_cons, List.length_append, Nat.add_assoc]

/-- Apart from the creation of databases no block of a script is blank. -/
theorem not_isBlank_of_read
    {script : Text}
    {blocks : List Block}
    {block : Block}
    (readable : (read substitution script).blocks = .ok blocks)
    (member : block ∈ blocks)
    (other : block.kind ≠ .createDatabase) :
    block.isBlank = false := by
  obtain ⟨passages, composes, rfl⟩ := exists_composes_of_read readable
  obtain ⟨draft, isDraft, sameKind, sameText⟩ := exists_draft_of_mem_numberDrafts member
  rw [sameKind] at other
  rw [Block.isBlank, sameText]
  exact not_allBlank_of_mem_draftsOf composes.whole isDraft other

/-- What is noted about the passages of a script is noted when the script is read. -/
theorem Composes.notesOf_subset
    {script : Text}
    (composes : Composes substitution.placeholder (Text.lines script) passages) :
    notesOf 1 passages ⊆ (read substitution script).notes := by
  have scanned :
      notesOf 1 passages ⊆
        (scanLines substitution .outside 1 (Text.lines script)).notes := by
    rw [composes.covers]
    rcases List.eq_nil_or_concat' passages with rfl | ⟨earlier, last, rfl⟩
    · exact List.nil_subset _
    · have complete := composes.complete
      rw [List.dropLast_concat] at complete
      have split : linesOf (earlier ++ [last]) = linesOf earlier ++ (last.lines ++ []) := by
        simp [linesOf]
      rw [notesOf_append, split, scanLines_passages _ complete]
      refine List.append_subset.mpr ⟨List.subset_append_left _ _, ?_⟩
      rcases composes.whole last (by simp) with lastComplete | cut
      · rw [scanLines_passage [] lastComplete, Scan.after, Passage.progress]
        simp [notesOf]
      · -- Nothing is noted about a definition that no line closes.
        cases last with
        | definition form first rest =>
            exact List.nil_subset _
        | skipped | database | insert | delimited =>
            exact cut.elim
  refine List.Subset.trans scanned ?_
  unfold read
  dsimp only
  split
  · exact List.Subset.refl _
  · exact List.subset_append_left _ _

/-- A line that stands outside every stretch is discarded. -/
theorem StandsOutside.isDiscarded
    {line : Text}
    {source : List Text}
    {notes : List Note}
    {first : Nat}
    {passage : Passage}
    (stands : StandsOutside substitution source first line lineNumber passage)
    (whole : passage.IsWhole substitution.placeholder)
    (noted : passage.notes first ⊆ notes) :
    IsDiscarded substitution source notes lineNumber line := by
  cases stands with
  | marker marks =>
      exact .marker marks
  | emptySection inside =>
      exact .emptySection inside
  | skipped outside =>
      rcases whole with complete | cut
      · obtain ⟨noCreate, noInsert⟩ := not_starts_of_skipped complete
        simp only [Passage.IsComplete, List.mem_cons, List.not_mem_nil, or_false] at complete
        rcases complete with silent | ignored | remark
        · rcases silent_of_ofLine silent with blank | comment
          · exact .blank blank
          · exact .comment comment
        · refine .ignored (ignored_of_ofLine ignored) (noted ?_)
          simp only [Passage.notes, ignored, List.mem_singleton]
        · refine .remark outside noCreate noInsert (noted ?_)
          simp only [Passage.notes, remark, List.mem_singleton]
      · exact cut.elim

/-- A line that is in a stretch is a line of a block. -/
theorem exists_isMadeFrom
    {source : List Text}
    {blocks : List Block}
    {stretches : List Stretch}
    {stretch : Stretch}
    (transcribed :
      List.Forall₂
        (fun block stretch =>
          block.lineNumber = stretch.first ∧
            Transcribes substitution source stretch block.kind block.text)
        blocks stretches)
    (member : stretch ∈ stretches)
    (part : stretch.IsPartOf source)
    (holds : stretch.Holds lineNumber) :
    ∃ earlier block later,
      blocks = earlier ++ block :: later ∧
        IsMadeFrom substitution source lineNumber block := by
  obtain ⟨front, back, rfl⟩ := List.append_of_mem member
  have pairs := List.forall₂_drop_append blocks front (stretch :: back) transcribed
  obtain ⟨block, later, ⟨sameLine, transcribes⟩, _, split⟩ :=
    List.forall₂_cons_right_iff.mp pairs
  refine ⟨blocks.take front.length, block, later, ?_, stretch, part, holds, sameLine,
    transcribes⟩
  rw [← split, List.take_append_drop]

/-- Every line of a script that can be cut into blocks is discarded or a line of a block. -/
theorem isDiscarded_or_isMadeFrom
    {script line : Text}
    {before after : List Text}
    {blocks : List Block}
    (readable : (read substitution script).blocks = .ok blocks)
    (split : Text.lines script = before ++ line :: after) :
    IsDiscarded substitution (Text.lines script) (read substitution script).notes
        (before.length + 1) line ∨
      ∃ earlier block later,
        blocks = earlier ++ block :: later ∧
          IsMadeFrom substitution (Text.lines script) (before.length + 1) block := by
  obtain ⟨passages, composes, rfl⟩ := exists_composes_of_read readable
  by_cases held : ∃ stretch ∈ stretchesOf 1 passages, stretch.Holds (before.length + 1)
  · obtain ⟨stretch, member, holds⟩ := held
    have pairs := forall₂_numberDrafts 0 (forall₂_draftsOf composes)
    exact .inr (exists_isMadeFrom pairs member (composes.isPartOf member) holds)
  · left
    have outside :
        ∀ stretch ∈ stretchesOf 1 passages, ¬ stretch.Holds (before.length + 1) :=
      fun stretch member holds => held ⟨stretch, member, holds⟩
    have noted := composes.notesOf_subset
    obtain ⟨front, passage, back, rfl, stands⟩ :=
      composes.exists_standsOutside split outside
    refine stands.isDiscarded (composes.whole passage (by simp)) ?_
    rw [notesOf_append, notesOf, Nat.add_comm] at noted
    exact fun note member => noted (by simp [member])

end

end Script

open Script

/--
Every line of a script that can be cut into blocks is discarded or part of a block.  The block
creates a database, or every successful run over the blocks executes it or, in its place, an
earlier definition of the same table.
-/
theorem line_is_discarded_or_executed
    {substitution : Substitution}
    {script line : Text}
    {before after : List Text}
    {blocks : List Block}
    (readable : (read substitution script).blocks = .ok blocks)
    (split : Text.lines script = before ++ line :: after) :
    IsDiscarded substitution (Text.lines script) (read substitution script).notes
        (before.length + 1) line ∨
      ∃ earlier block later,
        blocks = earlier ++ block :: later ∧
          IsMadeFrom substitution (Text.lines script) (before.length + 1) block ∧
          (block.kind = .createDatabase ∨
            ∀ connection history result,
              (Applier.run connection history blocks).result = .ok result →
              result.success = true →
              block ∈ Applier.executed connection history blocks ∨
                ∃ table,
                  Table.nameOf? block = some table ∧
                    ∃ definition ∈ earlier,
                      Table.firstDefinition? earlier table = some definition ∧
                        definition ∈ Applier.executed connection history blocks) := by
  rcases isDiscarded_or_isMadeFrom readable split with discarded |
    ⟨earlier, block, later, isBlock, madeFrom⟩
  · exact .inl discarded
  · refine .inr ⟨earlier, block, later, isBlock, madeFrom, ?_⟩
    by_cases creates : block.kind = .createDatabase
    · exact .inl creates
    · right
      intro connection history result ran succeeded
      have member : block ∈ blocks := by
        rw [isBlock]
        simp
      have solid := not_isBlank_of_read readable member creates
      rw [isBlock] at ran ⊢
      apply Applier.mem_executed_of_success ran succeeded
      simp [creates, solid]

/-- A table of two lines behind a comment, seen from its last line. -/
theorem table_behind_comment_is_executed :
    let substitution : Substitution :=
      { placeholder := defaultPlaceholder, target := "acme".toList }
    let table : Block :=
      {
        kind := .createTable
        text := "CREATE TABLE a (id INT) ENGINE=InnoDB;".toList
        order := 0
        lineNumber := 1
      }
    let reference : Block :=
      {
        kind := .createTable
        text := "CREATE TABLE b (\nid INT REFERENCES a (id)) ENGINE=InnoDB;".toList
        order := 1
        lineNumber := 3
      }
    let lines : List Text :=
      [
        table.text, "-- \x60b\x60 refers to it".toList, "CREATE TABLE \x60b\x60 (".toList,
        "id INT REFERENCES a (id)) ENGINE=InnoDB;".toList
      ]
    let script : Text := joinWith ['\n'] lines
    (read substitution script).blocks = .ok [table, reference] ∧
      (IsDiscarded substitution (Text.lines script) (read substitution script).notes 4
          "id INT REFERENCES a (id)) ENGINE=InnoDB;".toList ∨
        ∃ earlier block later,
          [table, reference] = earlier ++ block :: later ∧
            IsMadeFrom substitution (Text.lines script) 4 block ∧
            (block.kind = .createDatabase ∨
              ∀ connection history result,
                (Applier.run connection history [table, reference]).result = .ok result →
                result.success = true →
                block ∈ Applier.executed connection history [table, reference] ∨
                  ∃ name,
                    Table.nameOf? block = some name ∧
                      ∃ definition ∈ earlier,
                        Table.firstDefinition? earlier name = some definition ∧
                          definition ∈
                            Applier.executed connection history [table, reference])) := by
  intro substitution table reference lines script
  have readable : (read substitution script).blocks = .ok [table, reference] := rfl
  have split :
      Text.lines script =
        lines.take 3 ++ "id INT REFERENCES a (id)) ENGINE=InnoDB;".toList :: [] := rfl
  exact ⟨readable, line_is_discarded_or_executed readable split⟩

/--
The options of a table behind its storage engine, an alteration and a second definition are
lost to a run that succeeds.
-/
theorem alteration_behind_table_is_discarded :
    let substitution : Substitution :=
      { placeholder := defaultPlaceholder, target := "acme".toList }
    let table : Block :=
      {
        kind := .createTable
        text := "CREATE TABLE t (id INT) ENGINE=InnoDB".toList
        order := 0
        lineNumber := 1
      }
    let again : Block :=
      {
        kind := .createTable
        text := "CREATE TABLE t (c INT) ENGINE=InnoDB;".toList
        order := 1
        lineNumber := 4
      }
    let lost : List Text :=
      ["DEFAULT CHARSET=utf8;".toList, "ALTER TABLE t ADD c INT;".toList]
    let script : Text := joinWith ['\n'] (table.text :: (lost ++ [again.text]))
    (read substitution script).blocks = .ok [table, again] ∧
      (∀ line ∈ lost,
        isComment (statementLine line) = false ∧
          isIgnored (statementLine line) = false ∧
          delimiterToken? (statementLine line) = none ∧
          startsWithCapitals "SET".toList (statementLine line) = false ∧
          startsWithCapitals "LOCK TABLES".toList (statementLine line) = false ∧
          startsWithCapitals "UNLOCK TABLES".toList (statementLine line) = false ∧
          ∀ block ∈ [table, again], occursIn line block.text = false) ∧
      (Applier.run Applier.Sample.accepting [] [table, again]).result =
        .ok {
          failure := none
          createdTables := ["t".toList]
          executedStatements := 1
        } := by
  intro substitution table again lost script
  refine ⟨rfl, ?_, ?_⟩
  · decide
  · with_unfolding_all rfl

end TenantSchema
