import TenantSchema.Proofs.Script.DiscardedLines
import TenantSchema.Proofs.Script.InsertLines
import TenantSchema.Proofs.Script.Terminators
import TenantSchema.Proofs.Text.Replacement

namespace TenantSchema.Script

open Text

/-!
# The texts of blocks

The text of a block is made of its lines, and these are found in it again: only the blank
lines around them are lost, and the white space behind the last one.  Neither changes what a
line says, so a text still starts with the words of its first line and ends with the clause of
its last one.
-/

/-- Whether a text holds no back quote and no line boundary. -/
def IsPlain (text : Text) : Prop :=
  ∀ character ∈ text, character ≠ '\x60' ∧ isLineBreak character = false

theorem IsPlain.mono
    {text other : Text}
    (plain : IsPlain other)
    (contained : text ⊆ other) :
    IsPlain text :=
  fun character member => plain character (contained member)

theorem isPlain_unquoteIdentifiers
    {line : Text}
    (unbroken : Unbroken line) :
    IsPlain (unquoteIdentifiers line) := by
  intro character member
  rw [unquoteIdentifiers, List.mem_filter, bne_iff_ne] at member
  exact ⟨member.2, unbroken character member.1⟩

theorem isPlain_statementLine
    {line : Text}
    (unbroken : Unbroken line) :
    IsPlain (statementLine line) := by
  apply (isPlain_unquoteIdentifiers unbroken).mono
  intro character member
  exact (List.dropWhile_sublist _).subset (mem_of_mem_trimRight member)

theorem isPlain_bodyLine
    {line : Text}
    (unbroken : Unbroken line)
    (token : Text) :
    IsPlain (bodyLine token line) := by
  apply (isPlain_unquoteIdentifiers unbroken).mono
  intro character member
  rw [bodyLine, dropTrailingDelimiter] at member
  split at member
  · exact mem_of_mem_trimRight (List.mem_of_mem_take (mem_of_mem_trimRight member))
  · exact member

/-- A text as blocks hold it. -/
structure CleanText (text : Text) : Prop where
  unquoted :
    '\x60' ∉ text
  newlinesOnly :
    ∀ character ∈ text, isLineBreak character = true → character = '\n'
  noLeadingNewline :
    text.head? ≠ some '\n'
  trimmed :
    trimRight text = text

theorem cleanText_of_isPlain
    {text : Text}
    (plain : IsPlain text)
    (trimmed : trimRight text = text) :
    CleanText text where
  unquoted quote := (plain _ quote).1 rfl
  newlinesOnly := by
    intro character member breaks
    rw [(plain character member).2] at breaks
    cases breaks
  noLeadingNewline := by
    intro newline
    cases (plain '\n' (List.mem_of_head? newline)).2
  trimmed := trimmed

theorem cleanText_blockText
    {source : List Text}
    (plain : ∀ line ∈ source, IsPlain line) :
    CleanText (blockText source) := by
  have origin {character : Char} (member : character ∈ blockText source) :
      character = '\n' ∨ ∃ line ∈ source, character ∈ line := by
    have joined := (List.dropWhile_sublist _).subset (mem_of_mem_trimRight member)
    exact (mem_joinWith joined).imp_left List.mem_singleton.mp
  constructor
  · intro quote
    rcases origin quote with isNewline | ⟨line, isLine, inLine⟩
    · cases isNewline
    · exact (plain line isLine _ inLine).1 rfl
  · intro character member breaks
    rcases origin member with isNewline | ⟨line, isLine, inLine⟩
    · exact isNewline
    · rw [(plain line isLine character inLine).2] at breaks
      cases breaks
  · intro newline
    obtain ⟨rest, shape⟩ := List.head?_eq_some_iff.mp newline
    obtain ⟨blanks, split, _⟩ :=
      exists_eq_trimRight_append ((joinWith ['\n'] source).dropWhile (· == '\n'))
    rw [← blockText, shape] at split
    have refused := List.head?_dropWhile_not (· == '\n') (joinWith ['\n'] source)
    rw [split] at refused
    cases refused
  · exact trimRight_trimRight _

/--
A statement that creates a database stays trimmed and plain when the placeholder is replaced
by a name without white space and back quotes.
-/
theorem cleanText_databaseStatement
    {target line : Text}
    (unbroken : Unbroken line)
    (nonempty : target ≠ [])
    (solid : ∀ character ∈ target, isBlank character = false)
    (unquoted : '\x60' ∉ target)
    (placeholder : Text) :
    CleanText (databaseStatement placeholder target line) := by
  apply cleanText_of_isPlain
  · intro character member
    rcases mem_replaceFrom member with inLine | inTarget
    · exact isPlain_statementLine unbroken character inLine
    · refine ⟨fun quote => unquoted (quote ▸ inTarget), ?_⟩
      rw [Bool.eq_false_iff]
      intro breaks
      have notBlank := solid character inTarget
      rw [isBlank_of_isLineBreak breaks] at notBlank
      cases notBlank
  · exact trimRight_replaceFrom nonempty (trimRight_of_forall_not_blank solid)
      (trimRight_trimRight _)

theorem isSome_takeWord?_cons
    (first : Char)
    (rest : Text) :
    (takeWord? (first :: rest)).isSome = isWord first := by
  cases word : isWord first <;> simp [takeWord?, word]

/-- White space at the end does not matter to which word a text starts with. -/
theorem isSome_takeWord?_append_of_allBlank
    {blanks : Text}
    (blank : allBlank blanks = true)
    (text : Text) :
    (takeWord? (trimLeft (text ++ blanks))).isSome = (takeWord? (trimLeft text)).isSome := by
  rcases trimLeft_append_cases blank text with ⟨nothing, isNil⟩ | ⟨first, rest, kept, longer⟩
  · rw [nothing, isNil]
  · rw [kept, longer, isSome_takeWord?_cons, isSome_takeWord?_cons]

theorem startsWithEngineClause_append_of_allBlank
    {blanks : Text}
    (blank : allBlank blanks = true)
    (text : Text) :
    startsWithEngineClause (text ++ blanks) = startsWithEngineClause text := by
  have solid :
      ∀ letter ∈ "engine".toList,
        isBlank letter = false ∧ isBlank letter.toUpper = false := by
    simp [isBlank]
  rw [startsWithEngineClause, startsWithEngineClause,
    dropKeyword?_append_of_allBlank solid blank]
  cases dropKeyword? "engine".toList text with
  | none =>
      rfl
  | some after =>
      simp only [Option.map_some]
      rcases trimLeft_append_cases blank after with
        ⟨nothing, isNil⟩ | ⟨first, rest, kept, longer⟩
      · rw [nothing, isNil]
      · rw [kept, longer]
        by_cases assigns : first = '='
        · subst assigns
          exact isSome_takeWord?_append_of_allBlank blank rest
        · simp [assigns]

/-- White space at the end of a line does not matter to whether it holds a storage engine. -/
theorem hasEngineClause_trimRight (line : Text) :
    hasEngineClause (trimRight line) = hasEngineClause line := by
  obtain ⟨blanks, split, blank⟩ := exists_eq_trimRight_append line
  have nothing : startsWithEngineClause [] = false := rfl
  have same := anyWordStart_append_of_allBlank nothing
    (fun text blanks blank => startsWithEngineClause_append_of_allBlank blank text)
    blank false (trimRight line)
  rw [← split] at same
  exact same.symm

/-- What follows the words `CREATE TABLE` does not matter, if it goes on with no word. -/
theorem opensTable_append
    {stripped later : Text}
    (opens : opensTable stripped = true)
    (ends : wordEndsAt later = true) :
    opensTable (stripped ++ later) = true := by
  unfold opensTable dropKeywords? at opens ⊢
  cases create : dropKeyword? "create".toList stripped with
  | none =>
      rw [create] at opens
      cases opens
  | some after =>
      rw [create, Option.bind_some] at opens
      rw [dropKeyword?_append create, Option.bind_some]
      cases after with
      | nil =>
          cases opens
      | cons gap rest =>
          rw [dropBlanks?] at opens
          rw [List.cons_append, dropBlanks?]
          by_cases blank : isBlank gap = true
          · rw [if_pos blank, Option.bind_some] at opens
            cases table : dropKeyword? "table".toList (trimLeft rest) with
            | none =>
                rw [table] at opens
                cases opens
            | some name =>
                rw [table] at opens
                have solid : allBlank rest = false := by
                  obtain ⟨first, others, kept, _, _⟩ := exists_cons_of_dropKeyword? table
                  rw [Bool.eq_false_iff]
                  intro restBlank
                  rw [trimLeft_eq_nil_iff.mpr restBlank] at kept
                  cases kept
                rw [if_pos blank, Option.bind_some, trimLeft_append_of_not_allBlank solid,
                  dropKeyword?_append table]
                exact wordEndsAt_append opens ends
          · rw [if_neg blank] at opens
            cases opens

theorem wordEndsAt_trimRight
    {text : Text}
    (ends : wordEndsAt text = true) :
    wordEndsAt (trimRight text) = true := by
  obtain ⟨blanks, split, _⟩ := exists_eq_trimRight_append text
  cases kept : trimRight text with
  | nil =>
      rfl
  | cons first rest =>
      rw [kept] at split
      rw [split] at ends
      exact ends

/-- What follows a line that is not blank follows it when both are trimmed together. -/
theorem exists_trim_append
    {line later : Text}
    (solid : allBlank line = false)
    (ends : wordEndsAt later = true) :
    ∃ rest, trim (line ++ later) = trim line ++ rest ∧ wordEndsAt rest = true := by
  obtain ⟨blanks, split, blank⟩ := exists_eq_trimRight_append (trimLeft line)
  have parts : trimLeft (line ++ later) = trim line ++ (blanks ++ later) := by
    rw [trimLeft_append_of_not_allBlank solid, trim, ← List.append_assoc, ← split]
  have tailEnds := wordEndsAt_append (wordEndsAt_of_allBlank blank) ends
  rw [trim, parts]
  cases tailBlank : allBlank (blanks ++ later) with
  | true =>
      refine ⟨[], ?_, rfl⟩
      rw [trimRight_append_of_allBlank tailBlank, trim, trimRight_trimRight, List.append_nil]
  | false =>
      exact ⟨_, trimRight_append_of_not_allBlank tailBlank _, wordEndsAt_trimRight tailEnds⟩

/-- Trimming a block leaves what trimming its joined lines does. -/
theorem trim_blockText (source : List Text) :
    trim (blockText source) = trim (joinWith ['\n'] source) := by
  have newlines : allBlank ((joinWith ['\n'] source).takeWhile (· == '\n')) = true := by
    rw [allBlank, List.all_eq_true]
    intro character member
    have newline := List.mem_takeWhile_imp member
    rw [beq_iff_eq] at newline
    rw [newline]
    decide
  rw [blockText, trim_trimRight, ← trim_append_of_allBlank_left newlines,
    List.takeWhile_append_dropWhile]

/-- Joined lines are the first of them and what goes on with no word. -/
theorem exists_joinWith_cons
    (first : Text)
    (rest : List Text) :
    ∃ later, joinWith ['\n'] (first :: rest) = first ++ later ∧ wordEndsAt later = true := by
  cases rest with
  | nil =>
      exact ⟨[], (List.append_nil first).symm, rfl⟩
  | cons next others =>
      refine ⟨['\n'] ++ joinWith ['\n'] (next :: others), ?_, rfl⟩
      rw [joinWith_cons_of_ne_nil (by simp), List.append_assoc]

theorem not_allBlank_of_opensTable
    {line : Text}
    (opens : opensTable (trim line) = true) :
    allBlank line = false := by
  rw [Bool.eq_false_iff]
  intro blank
  rw [trim_eq_nil_iff.mpr blank] at opens
  cases opens

/-- A block starts with the words `CREATE TABLE` if its first line does. -/
theorem opensTable_trim_blockText
    {first : Text}
    (opens : opensTable (trim first) = true)
    (rest : List Text) :
    opensTable (trim (blockText (first :: rest))) = true := by
  obtain ⟨later, split, ends⟩ := exists_joinWith_cons first rest
  obtain ⟨trail, trimmed, trailEnds⟩ :=
    exists_trim_append (not_allBlank_of_opensTable opens) ends
  rw [trim_blockText, split, trimmed]
  exact opensTable_append opens trailEnds

/-- A line that is not blank closes some lines, apart from blank ones after it. -/
theorem exists_last_solid
    {source : List Text}
    (solid : ∃ line ∈ source, allBlank line = false) :
    ∃ opening last blanks,
      source = opening ++ last :: blanks ∧
        allBlank last = false ∧
        ∀ line ∈ blanks, allBlank line = true := by
  induction source with
  | nil =>
      obtain ⟨_, member, _⟩ := solid
      cases member
  | cons first rest inductionHypothesis =>
      by_cases restSolid : ∃ line ∈ rest, allBlank line = false
      · obtain ⟨opening, last, blanks, rfl, lastSolid, blank⟩ := inductionHypothesis restSolid
        exact ⟨first :: opening, last, blanks, rfl, lastSolid, blank⟩
      · have restBlank : ∀ line ∈ rest, allBlank line = true := by
          simpa using restSolid
        refine ⟨[], first, rest, rfl, ?_, restBlank⟩
        obtain ⟨line, member, lineSolid⟩ := solid
        rcases List.mem_cons.mp member with rfl | later
        · exact lineSolid
        · rw [restBlank line later] at lineSolid
          cases lineSolid

/-- Joined lines are trimmed where the last one is. -/
theorem trimRight_joinWith_concat
    {last : Text}
    (solid : allBlank last = false)
    (opening : List Text) :
    trimRight (joinWith ['\n'] (opening ++ [last])) =
      joinWith ['\n'] (opening ++ [trimRight last]) := by
  by_cases noOpening : opening = []
  · rw [noOpening]
    rfl
  · rw [joinWith_append noOpening (by simp), joinWith_append noOpening (by simp)]
    exact trimRight_append_of_not_allBlank solid _

/-- Joined lines start with no newline if the first of them is a line with some content. -/
theorem dropWhile_newline_joinWith
    {first : Text}
    (unbroken : Unbroken first)
    (nonempty : first ≠ [])
    (rest : List Text) :
    (joinWith ['\n'] (first :: rest)).dropWhile (· == '\n') =
      joinWith ['\n'] (first :: rest) := by
  obtain ⟨later, split, _⟩ := exists_joinWith_cons first rest
  cases first with
  | nil =>
      exact (nonempty rfl).elim
  | cons character others =>
      have other : ¬ (character == '\n') = true := by
        rw [beq_iff_eq]
        rintro rfl
        cases unbroken '\n' List.mem_cons_self
      rw [split, List.cons_append]
      exact List.dropWhile_cons_of_neg other

/-- The lines of a block end with its last line that is not blank, trimmed on the right. -/
theorem lines_blockText
    {opening blanks : List Text}
    {last : Text}
    (unbroken : ∀ line ∈ opening ++ [last], Unbroken line)
    (starts : ∀ line, opening.head? = some line → line ≠ [])
    (solid : allBlank last = false)
    (blank : ∀ line ∈ blanks, allBlank line = true) :
    Text.lines (blockText (opening ++ last :: blanks)) = opening ++ [trimRight last] := by
  have noNewline :
      (joinWith ['\n'] (opening ++ [last])).dropWhile (· == '\n') =
        joinWith ['\n'] (opening ++ [last]) := by
    cases opening with
    | nil =>
        have nonempty : last ≠ [] := by
          rintro rfl
          cases solid
        exact dropWhile_newline_joinWith (unbroken last (by simp)) nonempty []
    | cons first others =>
        exact dropWhile_newline_joinWith (unbroken first (by simp)) (starts first rfl) _
  rw [List.append_cons, blockText_append_of_blank ⟨last, by simp, solid⟩ blank, blockText,
    noNewline, trimRight_joinWith_concat solid]
  apply lines_joinWith
  · intro line member
    rcases List.mem_append.mp member with inOpening | isLast
    · exact unbroken line (List.mem_append_left _ inOpening)
    · rw [List.mem_singleton.mp isLast]
      intro character inLast
      exact unbroken last (by simp) character (mem_of_mem_trimRight inLast)
  · intro line isLast
    rw [List.getLast?_concat] at isLast
    cases isLast
    rw [ne_eq, trimRight_eq_nil_iff, solid]
    exact Bool.false_ne_true

section

variable
  {substitution : Substitution}
  {passage : Passage}
  {lineNumber : Nat}
  {draft : Draft}

/-- The text of a block is clean, if the name that it may get is plain and without blanks. -/
theorem Passage.cleanText_of_draft?
    (nonempty : substitution.target ≠ [])
    (solid : ∀ character ∈ substitution.target, isBlank character = false)
    (unquoted : '\x60' ∉ substitution.target)
    (unbroken : ∀ line ∈ passage.lines, Unbroken line)
    (found : passage.draft? substitution lineNumber = some draft) :
    CleanText draft.text := by
  cases passage with
  | skipped line =>
      cases found
  | database line =>
      cases found
      exact cleanText_databaseStatement (unbroken line List.mem_cons_self) nonempty solid
        unquoted substitution.placeholder
  | insert line =>
      cases found
      exact cleanText_of_isPlain (isPlain_statementLine (unbroken line List.mem_cons_self))
        (trimRight_trimRight _)
  | definition form first rest =>
      cases found
      apply cleanText_blockText
      intro line member
      obtain ⟨source, isSource, rfl⟩ := List.mem_map.mp member
      exact isPlain_unquoteIdentifiers (unbroken source isSource)
  | delimited token marker body closing =>
      rw [Passage.draft?] at found
      split at found
      · cases found
      · cases found
        apply cleanText_blockText
        intro line member
        obtain ⟨source, isSource, rfl⟩ := List.mem_map.mp member
        exact isPlain_bodyLine (unbroken source (by simp [Passage.lines, isSource])) token

theorem bodyKind_cases (body : List Text) :
    bodyKind body = .procedureBody ∨ bodyKind body = .other := by
  cases body with
  | nil =>
      exact .inr rfl
  | cons first rest =>
      rw [bodyKind, sectionKind]
      split
      · exact .inl rfl
      · exact .inr rfl

/-- A block that creates the database is a line, one that creates a table a definition. -/
theorem Passage.of_kind_of_draft?
    (found : passage.draft? substitution lineNumber = some draft) :
    (draft.kind = .createDatabase → ∃ line, passage = .database line) ∧
      (draft.kind = .createTable →
        ∃ first rest, passage = .definition .table first rest) := by
  cases passage with
  | skipped line =>
      cases found
  | database line =>
      cases found
      exact ⟨fun _ => ⟨line, rfl⟩, nofun⟩
  | insert line =>
      cases found
      exact ⟨nofun, nofun⟩
  | definition form first rest =>
      cases found
      cases form with
      | table =>
          exact ⟨nofun, fun _ => ⟨first, rest, rfl⟩⟩
      | statement =>
          exact ⟨nofun, nofun⟩
  | delimited token marker body closing =>
      rw [Passage.draft?] at found
      split at found
      · cases found
      · cases found
        rcases bodyKind_cases body with kind | kind <;>
          simp [kind]

/-- No block is blank. -/
theorem Passage.not_allBlank_of_trimmed
    (nonempty : substitution.target ≠ [])
    (whole : passage.IsWhole substitution.placeholder)
    (found : passage.draft? substitution lineNumber = some draft)
    (trimmed : trimRight draft.text = draft.text) :
    allBlank draft.text = false := by
  by_cases creates : draft.kind = .createDatabase
  · obtain ⟨line, rfl⟩ := (Passage.of_kind_of_draft? found).1 creates
    cases found
    refine Text.not_allBlank_of_trimmed trimmed (replaceAll_ne_nil nonempty ?_)
    intro isNil
    rcases whole with ⟨opens, _⟩ | cut
    · rw [isNil] at opens
      cases opens
    · exact cut.elim
  · exact Passage.not_allBlank_of_draft? whole found creates

theorem opensTable_of_ofLine
    {stripped : Text}
    (table : LineClass.ofLine stripped = .table) :
    opensTable stripped = true := by
  unfold LineClass.ofLine at table
  repeat' split at table
  all_goals cases table
  assumption

/-- The lines of a block that starts with some content. -/
theorem exists_lines_blockText
    {first : Text}
    {rest : List Text}
    (unbroken : ∀ line ∈ first :: rest, Unbroken line)
    (starts : allBlank first = false) :
    ∃ opening last blanks,
      first :: rest = opening ++ last :: blanks ∧
        allBlank last = false ∧
        (∀ line ∈ blanks, allBlank line = true) ∧
        Text.lines (blockText (first :: rest)) = opening ++ [trimRight last] := by
  obtain ⟨opening, last, blanks, split, solid, blank⟩ :=
    exists_last_solid ⟨first, List.mem_cons_self, starts⟩
  refine ⟨opening, last, blanks, split, solid, blank, ?_⟩
  rw [split]
  apply lines_blockText _ _ solid blank
  · intro line member
    apply unbroken
    rw [split, List.append_cons]
    exact List.mem_append_left _ member
  · rintro line isFirst rfl
    obtain ⟨others, rfl⟩ := List.head?_eq_some_iff.mp isFirst
    rw [(List.cons.inj split).1] at starts
    cases starts

theorem hasEngineClause_of_allBlank
    {line : Text}
    (blank : allBlank line = true) :
    hasEngineClause line = false := by
  rw [← hasEngineClause_trimRight, trimRight_eq_nil_iff.mpr blank]
  rfl

/-- A block ends where its lines do. -/
theorem endsAt_lines_blockText
    {first : Text}
    {rest : List Text}
    (unbroken : ∀ line ∈ first :: rest, Unbroken line)
    (starts : allBlank first = false)
    (ends : EndsAt hasEngineClause (first :: rest)) :
    EndsAt hasEngineClause (Text.lines (blockText (first :: rest))) := by
  obtain ⟨opening, last, blanks, split, _, blank, isLines⟩ :=
    exists_lines_blockText unbroken starts
  rw [split] at ends
  rcases List.eq_nil_or_concat blanks with rfl | ⟨others, final, rfl⟩
  · rw [isLines, endsAt_concat_iff, hasEngineClause_trimRight]
    exact endsAt_concat_iff.mp ends
  · -- The last line holds the clause, so it is not one of the blank ones.
    rw [List.concat_eq_append, ← List.cons_append, ← List.append_assoc] at ends
    have closes := (endsAt_concat_iff.mp ends).1
    rw [hasEngineClause_of_allBlank (blank final (by simp))] at closes
    cases closes

theorem not_hasEngineClause_lines_blockText
    {first line : Text}
    {rest : List Text}
    (unbroken : ∀ line ∈ first :: rest, Unbroken line)
    (starts : allBlank first = false)
    (goesOn : ∀ line ∈ first :: rest, hasEngineClause line = false)
    (member : line ∈ Text.lines (blockText (first :: rest))) :
    hasEngineClause line = false := by
  obtain ⟨opening, last, blanks, split, _, _, isLines⟩ :=
    exists_lines_blockText unbroken starts
  rw [split] at goesOn
  rw [isLines] at member
  rcases List.mem_append.mp member with inOpening | isLast
  · exact goesOn line (List.mem_append_left _ inOpening)
  · rw [List.mem_singleton.mp isLast, hasEngineClause_trimRight]
    exact goesOn last (by simp)

/--
The block of a table starts with `CREATE TABLE`.  It ends with its only storage engine, unless
its passage is cut short: then it holds none, and is made of all lines of the passage.
-/
theorem Passage.table_of_draft?
    {placeholder : Text}
    (whole : passage.IsWhole placeholder)
    (unbroken : ∀ line ∈ passage.lines, Unbroken line)
    (found : passage.draft? substitution lineNumber = some draft)
    (isTable : draft.kind = .createTable) :
    opensTable (trim draft.text) = true ∧
      (EndsAt hasEngineClause (Text.lines draft.text) ∨
        passage.IsCutShort ∧
          (∀ line ∈ Text.lines draft.text, hasEngineClause line = false) ∧
          draft.text = blockText (passage.lines.map unquoteIdentifiers) ∧
          draft.lineNumber = lineNumber) := by
  obtain ⟨first, rest, rfl⟩ := (Passage.of_kind_of_draft? found).2 isTable
  cases found
  have opens : opensTable (trim (unquoteIdentifiers first)) = true := by
    apply opensTable_of_ofLine
    rcases whole with complete | cut
    · exact complete.1
    · exact cut.1
  have starts := not_allBlank_of_opensTable opens
  have unbrokenBlock :
      ∀ line ∈ unquoteIdentifiers first :: rest.map unquoteIdentifiers, Unbroken line := by
    intro line member
    rw [← List.map_cons] at member
    obtain ⟨source, isSource, rfl⟩ := List.mem_map.mp member
    exact fun character inLine =>
      (isPlain_unquoteIdentifiers (unbroken source isSource) character inLine).2
  refine ⟨opensTable_trim_blockText opens _, ?_⟩
  rcases whole with ⟨_, opening, last, split, closes, goesOn⟩ | cut
  · left
    apply endsAt_lines_blockText unbrokenBlock starts
    rw [← List.map_cons, split, List.map_append, List.map_singleton, endsAt_concat_iff]
    refine ⟨closes, ?_⟩
    intro line member
    obtain ⟨source, isSource, rfl⟩ := List.mem_map.mp member
    exact goesOn source isSource
  · right
    refine ⟨cut, ?_, rfl, rfl⟩
    intro line member
    apply not_hasEngineClause_lines_blockText unbrokenBlock starts _ member
    intro blockLine isBlockLine
    rw [← List.map_cons] at isBlockLine
    obtain ⟨source, isSource, rfl⟩ := List.mem_map.mp isBlockLine
    exact cut.2 source isSource

end

end TenantSchema.Script
