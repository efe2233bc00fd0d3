import TenantSchema.Proofs.Provision.DatabaseName
import TenantSchema.Proofs.Script.BlockText

namespace TenantSchema.Script

open Text

/-!
# The shape of blocks

The blocks of a script are numbered in the order of their lines, none of them is blank, and
their texts are clean.  A table starts with `CREATE TABLE` and ends with its only storage
engine; only the last one of a script may be left open, and then it takes in all that is left.
A name of letters, digits and underscores in the place of the placeholder changes none of this.
-/

/-- Whether a block is made of all lines of a script from its own on. -/
def TakesTheRest (source : List Text) (block : Block) : Prop :=
  ∃ before rest,
    source = before ++ rest ∧
      block.lineNumber = before.length + 1 ∧
      block.text = blockText (rest.map unquoteIdentifiers)

/-- What is said about a block of a script with the given lines, between other blocks. -/
structure WellPlaced
    (source : List Text)
    (before : List Block)
    (block : Block)
    (after : List Block) : Prop where
  numbered :
    block.order = before.length
  inSource :
    1 ≤ block.lineNumber ∧ block.lineNumber ≤ source.length
  notBlank :
    block.isBlank = false
  clean :
    CleanText block.text
  table :
    block.kind = .createTable →
    opensTable (trim block.text) = true ∧
      (EndsAt hasEngineClause (Text.lines block.text) ∨
        after = [] ∧
          TakesTheRest source block ∧
          ∀ line ∈ Text.lines block.text, hasEngineClause line = false)

/-- What the blocks of a script with the given lines look like. -/
structure WellFormed (source : List Text) (blocks : List Block) : Prop where
  ascending :
    blocks.Pairwise fun earlier later => earlier.lineNumber < later.lineNumber
  placed :
    ∀ before block after,
      blocks = before ++ block :: after →
      WellPlaced source before block after

section

variable
  {substitution : Substitution}
  {lineNumber : Nat}
  {passages : List Passage}

/-- The block of a passage starts on one of its lines. -/
theorem Passage.bounds_of_draft?
    {passage : Passage}
    {draft : Draft}
    (found : passage.draft? substitution lineNumber = some draft) :
    lineNumber ≤ draft.lineNumber ∧
      draft.lineNumber < lineNumber + passage.lines.length := by
  cases passage with
  | skipped line =>
      cases found
  | database line | insert line | definition form first rest =>
      cases found
      exact ⟨Nat.le_refl _, Nat.lt_add_of_pos_right (Nat.succ_pos _)⟩
  | delimited token marker body closing =>
      rw [draft?] at found
      split at found
      · cases found
      · cases found
        simp only [lines, List.length_cons, List.length_append]
        omega

theorem bounds_of_mem_draftsOf
    {draft : Draft}
    (member : draft ∈ draftsOf substitution lineNumber passages) :
    lineNumber ≤ draft.lineNumber ∧
      draft.lineNumber < lineNumber + (linesOf passages).length := by
  induction passages generalizing lineNumber with
  | nil =>
      cases member
  | cons passage rest inductionHypothesis =>
      rw [linesOf, List.flatMap_cons, List.length_append, ← linesOf]
      rcases List.mem_append.mp member with here | later
      · have bounds := Passage.bounds_of_draft? (Option.mem_toList.mp here)
        omega
      · have bounds := inductionHypothesis later
        omega

/-- Blocks are in the order of their lines. -/
theorem pairwise_draftsOf
    (substitution : Substitution)
    (lineNumber : Nat)
    (passages : List Passage) :
    (draftsOf substitution lineNumber passages).Pairwise fun earlier later =>
      earlier.lineNumber < later.lineNumber := by
  induction passages generalizing lineNumber with
  | nil =>
      exact .nil
  | cons passage rest inductionHypothesis =>
      rw [draftsOf, List.pairwise_append]
      refine ⟨?_, inductionHypothesis _, ?_⟩
      · cases passage.draft? substitution lineNumber with
        | none =>
            exact .nil
        | some draft =>
            exact List.pairwise_singleton _ _
      · intro earlier isHere later isLater
        have bounds := Passage.bounds_of_draft? (Option.mem_toList.mp isHere)
        have laterBounds := bounds_of_mem_draftsOf isLater
        omega

/-- A block has its place by number, and the blocks after it are numbered on. -/
theorem exists_draft_of_numberDrafts
    {place : Nat}
    {drafts : List Draft}
    {before after : List Block}
    {block : Block}
    (split : numberDrafts place drafts = before ++ block :: after) :
    ∃ leading draft trailing,
      drafts = leading ++ draft :: trailing ∧
        block = {
          kind := draft.kind
          text := draft.text
          order := ↑(place + before.length)
          lineNumber := draft.lineNumber
        } ∧
        after = numberDrafts (place + before.length + 1) trailing := by
  induction drafts generalizing place before with
  | nil =>
      simp [numberDrafts] at split
  | cons draft rest inductionHypothesis =>
      cases before with
      | nil =>
          cases split
          exact ⟨[], draft, rest, rfl, rfl, rfl⟩
      | cons first others =>
          injection split with _ splitRest
          obtain ⟨leading, other, trailing, rfl, isBlock, isAfter⟩ :=
            inductionHypothesis splitRest
          have moved : place + 1 + others.length = place + (first :: others).length := by
            rw [List.length_cons]
            omega
          rw [moved] at isBlock isAfter
          exact ⟨draft :: leading, other, trailing, rfl, isBlock, isAfter⟩

/-- A block has a passage, and the blocks after it are those of the passages after that. -/
theorem exists_passage_of_draftsOf
    {leading trailing : List Draft}
    {draft : Draft}
    (split : draftsOf substitution lineNumber passages = leading ++ draft :: trailing) :
    ∃ front passage back number,
      passages = front ++ passage :: back ∧
        passage.draft? substitution (lineNumber + (linesOf front).length) = some draft ∧
        trailing = draftsOf substitution number back := by
  induction passages generalizing lineNumber leading with
  | nil =>
      simp [draftsOf] at split
  | cons passage rest inductionHypothesis =>
      have ofRest
          {others : List Draft}
          (splitRest :
            draftsOf substitution (lineNumber + passage.lines.length) rest =
              others ++ draft :: trailing) :
          ∃ front found back number,
            passage :: rest = front ++ found :: back ∧
              found.draft? substitution (lineNumber + (linesOf front).length) = some draft ∧
              trailing = draftsOf substitution number back := by
        obtain ⟨front, found, back, number, rfl, isDraft, isTrailing⟩ :=
          inductionHypothesis splitRest
        refine ⟨passage :: front, found, back, number, rfl, ?_, isTrailing⟩
        rw [linesOf, List.flatMap_cons, List.length_append, ← linesOf, ← Nat.add_assoc]
        exact isDraft
      rw [draftsOf] at split
      cases here : passage.draft? substitution lineNumber with
      | none =>
          rw [here] at split
          exact ofRest split
      | some first =>
          rw [here] at split
          cases leading with
          | nil =>
              cases split
              exact ⟨[], passage, rest, _, rfl, here, rfl⟩
          | cons other others =>
              exact ofRest (List.cons.inj split).2

/-- Numbering keeps the lines that blocks start on. -/
theorem map_lineNumber_numberDrafts
    (place : Nat)
    (drafts : List Draft) :
    (numberDrafts place drafts).map Block.lineNumber =
      drafts.map fun draft => (draft.lineNumber : Int) := by
  induction drafts generalizing place with
  | nil =>
      rfl
  | cons draft rest inductionHypothesis =>
      rw [numberDrafts, List.map_cons, List.map_cons, inductionHypothesis]

theorem pairwise_numberDrafts
    (place : Nat)
    {drafts : List Draft}
    (ascending :
      drafts.Pairwise fun earlier later => earlier.lineNumber < later.lineNumber) :
    (numberDrafts place drafts).Pairwise fun earlier later =>
      earlier.lineNumber < later.lineNumber := by
  have numbers :
      ((numberDrafts place drafts).map Block.lineNumber).Pairwise (· < ·) := by
    rw [map_lineNumber_numberDrafts, List.pairwise_map]
    exact ascending.imp Int.ofNat_lt.mpr
  exact List.pairwise_map.mp numbers

/-- A table takes in all lines of its passage, and those are all that are left if it is cut. -/
theorem Composes.takesTheRest
    {placeholder : Text}
    {source : List Text}
    {front : List Passage}
    {passage : Passage}
    {block : Block}
    (composes : Composes placeholder source (front ++ [passage]))
    (isText : block.text = blockText (passage.lines.map unquoteIdentifiers))
    (starts : block.lineNumber = (linesOf front).length + 1) :
    TakesTheRest source block := by
  refine ⟨linesOf front, passage.lines, ?_, starts, isText⟩
  rw [composes.covers]
  simp [linesOf]

theorem wellPlaced_of_composes
    {script : Text}
    {before after : List Block}
    {block : Block}
    (isClean : Provision.CleanName substitution.target)
    (composes : Composes substitution.placeholder (Text.lines script) passages)
    (split :
      numberDrafts 0 (draftsOf substitution 1 passages) = before ++ block :: after) :
    WellPlaced (Text.lines script) before block after := by
  obtain ⟨leading, draft, trailing, draftsSplit, rfl, rfl⟩ :=
    exists_draft_of_numberDrafts split
  have bounds : 1 ≤ draft.lineNumber ∧ draft.lineNumber < 1 + (linesOf passages).length :=
    bounds_of_mem_draftsOf (by rw [draftsSplit]; simp)
  rw [← composes.covers] at bounds
  obtain ⟨front, passage, back, number, rfl, found, rfl⟩ :=
    exists_passage_of_draftsOf draftsSplit
  have whole : passage.IsWhole substitution.placeholder :=
    composes.whole passage (by simp)
  have unbroken : ∀ line ∈ passage.lines, Unbroken line := by
    intro line member
    have isLine : line ∈ Text.lines script := by
      rw [composes.covers, linesOf, List.mem_flatMap]
      exact ⟨passage, by simp, member⟩
    exact unbroken_of_mem_lines isLine
  have unquoted : '\x60' ∉ substitution.target := by
    intro quote
    cases isClean.characters _ quote
  have clean : CleanText draft.text :=
    Passage.cleanText_of_draft? isClean.nonempty isClean.not_blank unquoted unbroken found
  exact {
    numbered := by simp
    inSource := by
      dsimp only
      omega
    notBlank :=
      Passage.not_allBlank_of_trimmed isClean.nonempty whole found clean.trimmed
    clean := clean
    table := by
      intro isTable
      obtain ⟨opens, ends | ⟨cut, noClause, isText, starts⟩⟩ :=
        Passage.table_of_draft? whole unbroken found isTable
      · exact ⟨opens, .inl ends⟩
      · cases composes.eq_nil_of_isCutShort cut
        refine ⟨opens, .inr ⟨rfl, composes.takesTheRest isText ?_, noClause⟩⟩
        dsimp only
        omega
  }

/-- Every block of a script is well formed if the database has a clean name. -/
theorem blocks_are_well_formed
    {target placeholder script : Text}
    {blocks : List Block}
    (isClean : Provision.CleanName target)
    (accepted : Substitution.of? target placeholder = .ok substitution)
    (readable : (read substitution script).blocks = .ok blocks) :
    WellFormed (Text.lines script) blocks := by
  obtain ⟨_, _, rfl⟩ := Substitution.of?_eq_ok_iff.mp accepted
  obtain ⟨passages, composes, rfl⟩ := exists_composes_of_read readable
  have isCleanTrimmed : Provision.CleanName (trim target) := by
    rw [isClean.trim_eq]
    exact isClean
  exact {
    ascending := pairwise_numberDrafts 0 (pairwise_draftsOf _ 1 passages)
    placed := fun _ _ _ split => wellPlaced_of_composes isCleanTrimmed composes split
  }

/-- A statement with a blank line, an empty section, a table, and one that is cut short. -/
theorem unfinished_script_is_well_formed :
    let target : Text := "acme_1".toList
    let substitution : Substitution :=
      { placeholder := defaultPlaceholder, target := target }
    let script : Text :=
      joinWith ['\n']
        [
          "  CREATE DATABASE \x60__database_name__\x60; ".toList, " \t".toList,
          "CREATE VIEW v AS".toList, [], "  SELECT 1;".toList,
          "DELIMITER $$".toList, " $$".toList, "DELIMITER ;".toList,
          "create table \x60a\x60 (".toList, ") engine = InnoDB; ".toList,
          "CREATE TABLE b (".toList, "id INT;".toList, [], " ".toList
        ]
    let blocks : List Block :=
      [
        { kind := .createDatabase, text := "CREATE DATABASE acme_1;".toList, order := 0,
          lineNumber := 1 },
        { kind := .other, text := "CREATE VIEW v AS\n\n  SELECT 1;".toList, order := 1,
          lineNumber := 3 },
        { kind := .createTable, text := "create table a (\n) engine = InnoDB;".toList,
          order := 2, lineNumber := 9 },
        { kind := .createTable, text := "CREATE TABLE b (\nid INT;".toList, order := 3,
          lineNumber := 11 }
      ]
    Provision.CleanName target ∧
      Substitution.of? target defaultPlaceholder = .ok substitution ∧
      (read substitution script).blocks = .ok blocks ∧
      WellFormed (Text.lines script) blocks := by
  intro target substitution script blocks
  have isClean : Provision.CleanName target :=
    ⟨by decide, by decide, List.all_eq_true.mp rfl⟩
  have accepted : Substitution.of? target defaultPlaceholder = .ok substitution := by
    rfl
  have readable : (read substitution script).blocks = .ok blocks := by
    rfl
  exact ⟨isClean, accepted, readable, blocks_are_well_formed isClean accepted readable⟩

end

end TenantSchema.Script
