import TenantSchema.Proofs.Script.LineClasses
import TenantSchema.Proofs.Text.Capitals

namespace TenantSchema.Script

open Text

/-!
# Lines with two keywords

Most statements are opened by two keywords.  The patterns for `CREATE TABLE` and `DROP TABLE`
take any white space between them, while `CREATE DATABASE` and `INSERT INTO` are looked for
with one space.  All other tests of a line take no notice of what white space that is.
-/

/-- The keywords that a statement is opened with. -/
inductive Opening where
  | createDatabase
  | createTable
  | dropTable
  | insertInto
  deriving Repr, DecidableEq

namespace Opening

/-- The first keyword. -/
def first : Opening → Text
  | .createDatabase | .createTable =>
      "CREATE".toList
  | .dropTable =>
      "DROP".toList
  | .insertInto =>
      "INSERT".toList

/-- The second keyword. -/
def second : Opening → Text
  | .createDatabase =>
      "DATABASE".toList
  | .createTable | .dropTable =>
      "TABLE".toList
  | .insertInto =>
      "INTO".toList

/-- Whether the keywords are looked for with one space between them. -/
def WantsOneSpace : Opening → Prop
  | .createDatabase | .insertInto =>
      True
  | .createTable | .dropTable =>
      False

theorem isUpper_first (opening : Opening) :
    ∀ capital ∈ opening.first, capital.isUpper = true := by
  cases opening <;> exact List.all_eq_true.mp rfl

theorem isUpper_second (opening : Opening) :
    ∀ capital ∈ opening.second, capital.isUpper = true := by
  cases opening <;> exact List.all_eq_true.mp rfl

end Opening

/-- A line that is opened by two keywords, without the white space between them. -/
structure KeywordLine where
  opening : Opening
  /-- What stands before the first keyword. -/
  lead : Text
  /-- How the first keyword is spelt. -/
  first : Text
  /-- How the second keyword is spelt. -/
  second : Text
  /-- What stands behind the second keyword. -/
  rest : Text
  blank : allBlank lead = true
  spellsFirst : SpellsCapitals opening.first first
  spellsSecond : SpellsCapitals opening.second second

/-- Whether a text ends a statement is told by what follows if that is not blank. -/
theorem endsStatement_append
    {later : Text}
    (solid : allBlank later = false)
    (text : Text) :
    endsStatement (text ++ later) = endsStatement later := by
  have nonempty : trimRight later ≠ [] := by
    rw [ne_eq, trimRight_eq_nil_iff, solid]
    exact Bool.false_ne_true
  rw [endsStatement, endsStatement, trimRight_append_of_not_allBlank solid, endsWith, endsWith,
    Bool.eq_iff_iff, List.isSuffixOf_iff_suffix, List.isSuffixOf_iff_suffix]
  constructor
  · intro ends
    exact List.suffix_of_suffix_length_le ends (List.suffix_append _ _)
      (List.length_pos_iff.mpr nonempty)
  · intro ends
    exact ends.trans (List.suffix_append _ _)

namespace KeywordLine

/-- The line with something between its keywords. -/
def spaced (line : KeywordLine) (gap : Text) : Text :=
  line.lead ++ (line.first ++ (gap ++ (line.second ++ line.rest)))

/-- The line without white space around it. -/
def trimmed (line : KeywordLine) : KeywordLine :=
  { line with lead := [], rest := trimRight line.rest, blank := rfl }

/-- The class of a trimmed line with white space between its keywords. -/
def lineClass (line : KeywordLine) (gap : Text) : LineClass :=
  match line.opening with
  | .createDatabase =>
      if gap = [' '] then .database else .statement
  | .createTable =>
      if wordEndsAt line.rest then .table else .statement
  | .dropTable =>
      if wordEndsAt line.rest then .ignored else .remark
  | .insertInto =>
      if gap = [' '] then .insert else .remark

theorem lineClass_congr
    (line : KeywordLine)
    {gap other : Text}
    (same : line.opening.WantsOneSpace → (gap = [' '] ↔ other = [' '])) :
    line.lineClass gap = line.lineClass other := by
  unfold lineClass
  cases opening : line.opening with
  | createTable | dropTable =>
      rfl
  | createDatabase | insertInto =>
      rw [opening] at same
      simp only [same trivial]

theorem oneSpace_of_database
    {line : KeywordLine}
    {gap : Text}
    (isDatabase : line.lineClass gap = .database) :
    line.opening.WantsOneSpace ∧ gap = [' '] := by
  unfold lineClass at isDatabase
  cases opening : line.opening <;>
    rw [opening] at isDatabase <;>
    dsimp only at isDatabase <;>
    split at isDatabase
  all_goals cases isDatabase
  exact ⟨trivial, by assumption⟩

section

variable (line : KeywordLine)

theorem isWord_first :
    ∀ character ∈ line.first, isWord character = true :=
  line.spellsFirst.isWord line.opening.isUpper_first

theorem isWord_second :
    ∀ character ∈ line.second, isWord character = true :=
  line.spellsSecond.isWord line.opening.isUpper_second

theorem first_ne_nil :
    line.first ≠ [] :=
  line.spellsFirst.ne_nil (by cases line.opening <;> exact List.cons_ne_nil _ _)

theorem second_ne_nil :
    line.second ≠ [] :=
  line.spellsSecond.ne_nil (by cases line.opening <;> exact List.cons_ne_nil _ _)

theorem isBlank_first :
    ∀ character ∈ line.first, isBlank character = false :=
  fun character member => isBlank_of_isWord (line.isWord_first character member)

theorem isBlank_second :
    ∀ character ∈ line.second, isBlank character = false :=
  fun character member => isBlank_of_isWord (line.isWord_second character member)

theorem allBlank_second_append (later : Text) :
    allBlank (line.second ++ later) = false := by
  obtain ⟨character, rest, shape⟩ := List.exists_cons_of_ne_nil line.second_ne_nil
  have solid := line.isBlank_second character (by simp [shape])
  rw [shape, List.cons_append, allBlank, List.all_cons, solid, Bool.false_and]

theorem allBlank_append_second (text later : Text) :
    allBlank (text ++ (line.second ++ later)) = false := by
  rw [allBlank, List.all_append, ← allBlank, ← allBlank, line.allBlank_second_append,
    Bool.and_false]

theorem allBlank_spaced (gap : Text) :
    allBlank (line.spaced gap) = false := by
  rw [spaced, ← List.append_assoc, ← List.append_assoc, line.allBlank_append_second]

theorem trimRight_second_append :
    trimRight (line.second ++ line.rest) = line.second ++ trimRight line.rest := by
  cases blank : allBlank line.rest with
  | true =>
      rw [trimRight_append_of_allBlank blank, trimRight_of_forall_not_blank line.isBlank_second,
        trimRight_eq_nil_iff.mpr blank, List.append_nil]
  | false =>
      exact trimRight_append_of_not_allBlank blank line.second

/-- Trimming does not get between the keywords. -/
theorem trim_spaced (gap : Text) :
    trim (line.spaced gap) = line.trimmed.spaced gap := by
  rw [spaced, trim_append_of_allBlank_left line.blank, trim,
    trimLeft_append_of_forall_not_blank line.first_ne_nil line.isBlank_first,
    trimRight_append_of_not_allBlank (line.allBlank_append_second gap line.rest),
    trimRight_append_of_not_allBlank (line.allBlank_second_append line.rest),
    line.trimRight_second_append]
  rfl

theorem spells_of_opening
    {opening : Opening}
    (isOpening : line.opening = opening) :
    line.opening.first = opening.first ∧ SpellsCapitals opening.second line.second := by
  subst isOpening
  exact ⟨rfl, line.spellsSecond⟩

/-- A line starts with its first keyword. -/
theorem starts_first (later : Text) :
    startsWithCapitals line.opening.first (line.first ++ later) = true := by
  have starts := line.spellsFirst.startsWithCapitals_append [] later
  rwa [List.append_nil] at starts

/-- A pattern for another word does not match at the first keyword. -/
theorem dropKeyword?_first
    {keyword : Text}
    (small : ∀ letter ∈ keyword, letter.isLower = true)
    (differ :
      ∀ opening : Opening, differInLetter (keyword.map Char.toUpper) opening.first = true)
    (later : Text) :
    dropKeyword? keyword (line.first ++ later) = none :=
  dropKeyword?_eq_none_of_differ small line.opening.isUpper_first line.spellsFirst
    (differ line.opening) later

section

variable
  {gap : Text}
  (run : IsBlankRun gap)

include run

/-- A pattern for both keywords goes on behind the white space. -/
theorem dropKeywords?_append
    {keyword : Text}
    (plain : IsPlainKeyword keyword)
    (isFirst : line.opening.first = keyword.map Char.toUpper)
    (other : Text) :
    dropKeywords? keyword other (line.first ++ (gap ++ (line.second ++ line.rest))) =
      dropKeyword? other (line.second ++ line.rest) := by
  have spells := line.spellsFirst
  rw [isFirst] at spells
  rw [dropKeywords?, dropKeyword?_of_spellsCapitals plain spells, Option.bind_some,
    dropBlanks?_append run,
    trimLeft_append_of_forall_not_blank line.second_ne_nil line.isBlank_second,
    Option.bind_some]

/-- A start of both keywords with one space between them is found if there is one. -/
theorem startsWithCapitals_append_iff
    {capital : Char}
    (isCapital : capital.isUpper = true)
    (keyword : Text) :
    startsWithCapitals (line.opening.first ++ ' ' :: capital :: keyword)
        (line.first ++ (gap ++ (line.second ++ line.rest))) = true ↔
      gap = [' '] ∧
        startsWithCapitals (capital :: keyword) (line.second ++ line.rest) = true := by
  rw [line.spellsFirst.startsWithCapitals_append, startsWithCapitals_space isCapital run]

theorem opensTable_append
    (isCreate : line.opening.first = "CREATE".toList) :
    opensTable (line.first ++ (gap ++ (line.second ++ line.rest))) =
      (dropKeyword? "table".toList (line.second ++ line.rest)).any wordEndsAt := by
  have isFirst : line.opening.first = "create".toList.map Char.toUpper := isCreate.trans rfl
  rw [opensTable, line.dropKeywords?_append run (by decide) isFirst]
  cases dropKeyword? "table".toList (line.second ++ line.rest) <;> rfl

theorem starts_createDatabase_iff
    (isCreate : line.opening.first = "CREATE".toList) :
    startsWithCapitals "CREATE DATABASE".toList
        (line.first ++ (gap ++ (line.second ++ line.rest))) = true ↔
      gap = [' '] ∧
        startsWithCapitals "DATABASE".toList (line.second ++ line.rest) = true := by
  have twoWords : "CREATE DATABASE".toList = "CREATE".toList ++ ' ' :: "DATABASE".toList := by
    decide
  have isCapital : 'D'.isUpper = true := rfl
  rw [twoWords, ← isCreate]
  exact line.startsWithCapitals_append_iff run isCapital _

theorem ofLine_createDatabase
    (opening : line.opening = .createDatabase) :
    LineClass.ofLine (line.first ++ (gap ++ (line.second ++ line.rest))) =
      line.lineClass gap := by
  obtain ⟨isCreate, spells⟩ :
      line.opening.first = "CREATE".toList ∧ SpellsCapitals "DATABASE".toList line.second :=
    line.spells_of_opening opening
  have database := (line.starts_createDatabase_iff run isCreate).trans
    (and_iff_left (spells.startsWithCapitals_append [] line.rest))
  have noTable : opensTable (line.first ++ (gap ++ (line.second ++ line.rest))) = false := by
    rw [line.opensTable_append run isCreate,
      dropKeyword?_eq_none_of_differ (List.all_eq_true.mp rfl)
        (Opening.isUpper_second .createDatabase) spells rfl line.rest]
    rfl
  rw [lineClass, opening]
  dsimp only
  split
  case isTrue oneSpace =>
    exact ofLine_of_database (database.mpr oneSpace)
  case isFalse otherSpace =>
    rw [← database, Bool.not_eq_true] at otherSpace
    have create := line.starts_first (gap ++ (line.second ++ line.rest))
    rw [isCreate] at create
    exact ofLine_of_create create otherSpace noTable

theorem ofLine_createTable
    (opening : line.opening = .createTable) :
    LineClass.ofLine (line.first ++ (gap ++ (line.second ++ line.rest))) =
      line.lineClass gap := by
  obtain ⟨isCreate, spells⟩ :
      line.opening.first = "CREATE".toList ∧
        SpellsCapitals ("table".toList.map Char.toUpper) line.second :=
    line.spells_of_opening opening
  have table :
      opensTable (line.first ++ (gap ++ (line.second ++ line.rest))) =
        wordEndsAt line.rest := by
    rw [line.opensTable_append run isCreate,
      dropKeyword?_of_spellsCapitals (by decide) spells line.rest]
    rfl
  rw [lineClass, opening]
  dsimp only
  split
  case isTrue ends =>
    exact ofLine_of_opensTable (table.trans ends)
  case isFalse goesOn =>
    have noDatabase :
        startsWithCapitals "CREATE DATABASE".toList
          (line.first ++ (gap ++ (line.second ++ line.rest))) = false := by
      rw [Bool.eq_false_iff, ne_eq, line.starts_createDatabase_iff run isCreate]
      rintro ⟨_, database⟩
      obtain ⟨first, rest, shape, capitalD, _⟩ := exists_cons_of_startsWithCapitals database
      cases second : line.second with
      | nil =>
          exact line.second_ne_nil second
      | cons character others =>
          rw [second] at spells shape
          cases spells with
          | cons capitalT _ =>
              obtain ⟨rfl, _⟩ := List.cons.inj shape
              exact absurd (capitalizesTo_unique rfl rfl capitalD capitalT) (by decide)
    have create := line.starts_first (gap ++ (line.second ++ line.rest))
    rw [isCreate] at create
    rw [Bool.not_eq_true, ← table] at goesOn
    exact ofLine_of_create create noDatabase goesOn

theorem ofLine_dropTable
    (opening : line.opening = .dropTable) :
    LineClass.ofLine (line.first ++ (gap ++ (line.second ++ line.rest))) =
      line.lineClass gap := by
  obtain ⟨isDrop, spells⟩ :
      line.opening.first = "drop".toList.map Char.toUpper ∧
        SpellsCapitals ("table".toList.map Char.toUpper) line.second :=
    line.spells_of_opening opening
  have ignored :
      isIgnored (line.first ++ (gap ++ (line.second ++ line.rest))) =
        wordEndsAt line.rest := by
    have noUse :
        dropKeyword? "use".toList (line.first ++ (gap ++ (line.second ++ line.rest))) = none :=
      line.dropKeyword?_first (List.all_eq_true.mp rfl) (by rintro ⟨⟩ <;> rfl) _
    rw [isIgnored, noUse, line.dropKeywords?_append run (by decide) isDrop,
      dropKeyword?_of_spellsCapitals (by decide) spells line.rest]
    rfl
  have starts := line.starts_first (gap ++ (line.second ++ line.rest))
  rw [opening] at starts
  rw [ofLine_of_startsWith_drop starts, ignored, lineClass, opening]

theorem ofLine_insertInto
    (opening : line.opening = .insertInto) :
    LineClass.ofLine (line.first ++ (gap ++ (line.second ++ line.rest))) =
      line.lineClass gap := by
  have twoWords : "INSERT INTO".toList = "INSERT".toList ++ ' ' :: "INTO".toList := by
    decide
  obtain ⟨isInsert, spells⟩ :
      line.opening.first = "INSERT".toList ∧ SpellsCapitals "INTO".toList line.second :=
    line.spells_of_opening opening
  have insert :
      startsWithCapitals "INSERT INTO".toList
          (line.first ++ (gap ++ (line.second ++ line.rest))) = true ↔
        gap = [' '] := by
    have isCapital : 'I'.isUpper = true := rfl
    rw [twoWords, ← isInsert]
    exact (line.startsWithCapitals_append_iff run isCapital _).trans
      (and_iff_left (spells.startsWithCapitals_append [] line.rest))
  have starts := line.starts_first (gap ++ (line.second ++ line.rest))
  rw [isInsert] at starts
  rw [ofLine_of_startsWith_insert starts, lineClass, opening]
  simp only [insert]

end

/-- The class of a line with keywords, by its keywords and the white space between them. -/
theorem ofLine_spaced
    {gap : Text}
    (run : IsBlankRun gap) :
    LineClass.ofLine (trim (line.spaced gap)) = line.trimmed.lineClass gap := by
  rw [line.trim_spaced]
  cases opening : line.opening with
  | createDatabase =>
      exact line.trimmed.ofLine_createDatabase run opening
  | createTable =>
      exact line.trimmed.ofLine_createTable run opening
  | dropTable =>
      exact line.trimmed.ofLine_dropTable run opening
  | insertInto =>
      exact line.trimmed.ofLine_insertInto run opening

theorem anyWordStart_spaced
    {accepts : Text → Bool}
    {gap : Text}
    (refusesBlanks :
      ∀ character rest, isBlank character = true → accepts (character :: rest) = false)
    (refusesFirst : ∀ later, accepts (line.first ++ later) = false)
    (run : IsBlankRun gap) :
    anyWordStart accepts false (line.spaced gap) =
      anyWordStart accepts false (line.second ++ line.rest) := by
  obtain ⟨first, rest, shape⟩ := List.exists_cons_of_ne_nil line.first_ne_nil
  have inside := line.isWord_first
  have refuses := refusesFirst (gap ++ (line.second ++ line.rest))
  rw [shape, List.forall_mem_cons] at inside
  rw [shape] at refuses
  have behindLead :
      anyWordStart accepts false (line.spaced gap) =
        anyWordStart accepts false (line.first ++ (gap ++ (line.second ++ line.rest))) := by
    by_cases noLead : line.lead = []
    · rw [spaced, noLead, List.nil_append]
    · exact anyWordStart_append_of_blank refusesBlanks ⟨noLead, line.blank⟩ false _
  rw [behindLead, shape, List.cons_append, anyWordStart, ← List.cons_append, refuses,
    Bool.and_false, Bool.false_or, inside.1, anyWordStart_append_of_word inside.2,
    anyWordStart_append_of_blank refusesBlanks run]

section

variable
  {gap : Text}
  (run : IsBlankRun gap)

include run

theorem hasEngineClause_spaced :
    hasEngineClause (line.spaced gap) = hasEngineClause (line.second ++ line.rest) := by
  have ofNone {text : Text} (none : dropKeyword? "engine".toList text = none) :
      startsWithEngineClause text = false := by
    rw [startsWithEngineClause, none]
    rfl
  apply line.anyWordStart_spaced
  · intro character rest blank
    exact ofNone (dropKeyword?_of_isBlank (by decide) blank _ rest)
  · intro later
    exact ofNone (line.dropKeyword?_first (List.all_eq_true.mp rfl) (by rintro ⟨⟩ <;> rfl) later)
  · exact run

theorem hasRoutineWord_spaced :
    hasRoutineWord (line.spaced gap) = hasRoutineWord (line.second ++ line.rest) := by
  have ofNone {text : Text}
      (noProcedure : dropKeyword? "procedure".toList text = none)
      (noFunction : dropKeyword? "function".toList text = none) :
      startsWithRoutineWord text = false := by
    rw [startsWithRoutineWord, noProcedure, noFunction]
    rfl
  apply line.anyWordStart_spaced
  · intro character rest blank
    exact ofNone (dropKeyword?_of_isBlank (by decide) blank _ rest)
      (dropKeyword?_of_isBlank (by decide) blank _ rest)
  · intro later
    exact ofNone
      (line.dropKeyword?_first (List.all_eq_true.mp rfl) (by rintro ⟨⟩ <;> rfl) later)
      (line.dropKeyword?_first (List.all_eq_true.mp rfl) (by rintro ⟨⟩ <;> rfl) later)
  · exact run

end

theorem endsStatement_spaced (gap : Text) :
    endsStatement (line.spaced gap) = endsStatement (line.second ++ line.rest) := by
  rw [spaced, ← List.append_assoc, ← List.append_assoc]
  exact endsStatement_append (line.allBlank_second_append line.rest) _

theorem closesSection_spaced (gap : Text) :
    closesSection (trim (line.spaced gap)) = false := by
  have noMarker : delimiterToken? (trim (line.spaced gap)) = none := by
    have none : dropKeyword? "delimiter".toList (trim (line.spaced gap)) = none := by
      rw [line.trim_spaced]
      exact line.trimmed.dropKeyword?_first (List.all_eq_true.mp rfl)
        (by rintro ⟨⟩ <;> rfl) _
    rw [delimiterToken?, none]
    rfl
  rw [closesSection, noMarker]
  rfl

/-- A delimiter without white space does not take in the first keyword. -/
theorem allBlank_dropTrailingDelimiter
    {token gap : Text}
    (solid : ∀ character ∈ token, isBlank character = false)
    (run : IsBlankRun gap) :
    allBlank (dropTrailingDelimiter token (line.spaced gap)) = false := by
  have trimmed :
      trimRight (line.spaced gap) =
        line.lead ++ (line.first ++ (gap ++ (line.second ++ trimRight line.rest))) := by
    rw [spaced, ← List.append_assoc, ← List.append_assoc,
      trimRight_append_of_not_allBlank (line.allBlank_second_append line.rest),
      line.trimRight_second_append, List.append_assoc, List.append_assoc]
  rw [dropTrailingDelimiter]
  split
  case isFalse =>
    exact line.allBlank_spaced gap
  case isTrue ends =>
    obtain ⟨kept, split⟩ := List.isSuffixOf_iff_suffix.mp ends
    have cut :
        (trimRight (line.spaced gap)).take
            ((trimRight (line.spaced gap)).length - token.length) =
          kept := by
      rw [← split, List.length_append, Nat.add_sub_cancel, List.take_left]
    rw [cut, allBlank_trimRight, Bool.eq_false_iff]
    intro blank
    -- What is left of the line without its leading white space would be in the delimiter.
    have whole : trimLeft token = line.first ++ (gap ++ (line.second ++ trimRight line.rest)) := by
      rw [← trimLeft_append_of_allBlank blank, split, trimmed,
        trimLeft_append_of_allBlank line.blank,
        trimLeft_append_of_forall_not_blank line.first_ne_nil line.isBlank_first]
    obtain ⟨character, rest, isGap⟩ := List.exists_cons_of_ne_nil run.nonempty
    have isBlankHere := run.blank
    have inToken : character ∈ token := by
      apply List.dropWhile_subset
      rw [← trimLeft, whole, isGap]
      simp
    rw [isGap, allBlank, List.all_cons, solid character inToken] at isBlankHere
    cases isBlankHere

end

end KeywordLine

end TenantSchema.Script
