import TenantSchema.Proofs.Script.InsertLines
import TenantSchema.Proofs.Script.Likeness
import TenantSchema.Proofs.Text.Occurrences

namespace TenantSchema.Script

open Text

/-!
# Scripts in either case

Every test of a line is blind to the case of letters, and every cut of a line cuts the small
letters as it cuts the line.  What a script spells out is the exception: the placeholder and
the delimiters of sections are compared as they are.  Two scripts that differ in the case of
letters alone, and not in those, are read alike.
-/

theorem unquoteIdentifiers_lowered (line : Text) :
    unquoteIdentifiers (lowered line) = lowered (unquoteIdentifiers line) := by
  have blind (character : Char) : (character.toLower != '\x60') = (character != '\x60') := by
    rw [bne, bne, toLower_beq '\x60' rfl]
  exact filter_lowered blind line

theorem isComment_lowered (stripped : Text) :
    isComment (lowered stripped) = isComment stripped := by
  unfold isComment
  rw [startsWith_lowered (by decide), startsWith_lowered (by decide),
    startsWith_lowered (by decide), length_lowered]

theorem dropKeywords?_lowered (first second text : Text) :
    dropKeywords? first second (lowered text) =
      (dropKeywords? first second text).map lowered := by
  unfold dropKeywords?
  rw [dropKeyword?_lowered]
  cases dropKeyword? first text with
  | none =>
      rfl
  | some rest =>
      rw [Option.map_some, Option.bind_some, Option.bind_some, dropBlanks?_lowered]
      cases dropBlanks? rest with
      | none =>
          rfl
      | some later =>
          exact dropKeyword?_lowered second later

theorem any_wordEndsAt_lowered (rest : Option Text) :
    (rest.map lowered).any wordEndsAt = rest.any wordEndsAt := by
  cases rest with
  | none =>
      rfl
  | some text =>
      exact wordEndsAt_lowered text

theorem opensTable_lowered (stripped : Text) :
    opensTable (lowered stripped) = opensTable stripped := by
  unfold opensTable
  rw [dropKeywords?_lowered]
  cases dropKeywords? "create".toList "table".toList stripped with
  | none =>
      rfl
  | some rest =>
      exact wordEndsAt_lowered rest

theorem isIgnored_lowered (stripped : Text) :
    isIgnored (lowered stripped) = isIgnored stripped := by
  unfold isIgnored
  rw [dropKeyword?_lowered, dropKeywords?_lowered]
  dsimp only
  rw [any_wordEndsAt_lowered, any_wordEndsAt_lowered]

theorem delimiterToken?_lowered (stripped : Text) :
    delimiterToken? (lowered stripped) = (delimiterToken? stripped).map lowered := by
  have solid (character : Char) : (!isBlank character.toLower) = !isBlank character := by
    rw [isBlank_toLower]
  unfold delimiterToken?
  rw [dropKeyword?_lowered]
  cases dropKeyword? "delimiter".toList stripped with
  | none =>
      rfl
  | some rest =>
      rw [Option.map_some, Option.bind_some, Option.bind_some, dropBlanks?_lowered]
      cases dropBlanks? rest with
      | none =>
          rfl
      | some later =>
          dsimp only [Option.map_some]
          rw [takeWhile_lowered solid, dropWhile_lowered solid, allBlank_lowered,
            isEmpty_lowered]
          split <;> rfl

theorem closesSection_lowered (stripped : Text) :
    closesSection (lowered stripped) = closesSection stripped := by
  unfold closesSection
  rw [delimiterToken?_lowered]
  cases delimiterToken? stripped with
  | none =>
      rfl
  | some token =>
      have letterless : IsLetterless ordinaryDelimiter := by
        decide
      rw [Option.map_some, Bool.eq_iff_iff, beq_iff_eq, beq_iff_eq, Option.some_inj,
        Option.some_inj, lowered_eq_iff letterless]

theorem startsWithEngineClause_lowered (text : Text) :
    startsWithEngineClause (lowered text) = startsWithEngineClause text := by
  unfold startsWithEngineClause
  rw [dropKeyword?_lowered]
  cases dropKeyword? "engine".toList text with
  | none =>
      rfl
  | some after =>
      rw [Option.map_some, Option.map_some, Option.map_some, trimLeft_lowered]
      cases trimLeft after with
      | nil =>
          rfl
      | cons character rest =>
          rw [lowered_cons]
          by_cases assigns : character = '='
          · have word :
                (takeWord? (trimLeft (lowered rest))).isSome =
                  (takeWord? (trimLeft rest)).isSome := by
              rw [trimLeft_lowered, isSome_takeWord?_lowered]
            subst assigns
            exact word
          · have other : character.toLower ≠ '=' := assigns ∘ (toLower_eq_iff rfl).mp
            simp [assigns, other]

theorem hasEngineClause_lowered (line : Text) :
    hasEngineClause (lowered line) = hasEngineClause line :=
  anyWordStart_lowered startsWithEngineClause_lowered false line

theorem endsStatement_lowered (line : Text) :
    endsStatement (lowered line) = endsStatement line := by
  rw [endsStatement, trimRight_lowered, endsWith_lowered (by decide), ← endsStatement]

theorem startsWithRoutineWord_lowered (text : Text) :
    startsWithRoutineWord (lowered text) = startsWithRoutineWord text := by
  unfold startsWithRoutineWord
  rw [dropKeyword?_lowered, dropKeyword?_lowered, any_wordEndsAt_lowered,
    any_wordEndsAt_lowered]

theorem hasRoutineWord_lowered (line : Text) :
    hasRoutineWord (lowered line) = hasRoutineWord line :=
  anyWordStart_lowered startsWithRoutineWord_lowered false line

theorem dropTrailingDelimiter_lowered
    {token : Text}
    (letterless : IsLetterless token)
    (line : Text) :
    dropTrailingDelimiter token (lowered line) =
      lowered (dropTrailingDelimiter token line) := by
  unfold dropTrailingDelimiter
  dsimp only
  rw [trimRight_lowered, endsWith_lowered letterless, length_lowered]
  split
  · rw [take_lowered, trimRight_lowered]
  · rfl

theorem blockText_map_lowered (lines : List Text) :
    blockText (lines.map lowered) = lowered (blockText lines) := by
  rw [blockText, joinWith_map_lowered rfl,
    dropWhile_lowered fun character => toLower_beq '\n' rfl, trimRight_lowered, ← blockText]

section

variable {first second : Text}

/-- Markers in either case name the same delimiter if the first names one without letters. -/
theorem delimiterToken?_eq_of_sameLetters
    (same : SameLetters first second)
    (letterless : ∀ token, delimiterToken? first = some token → IsLetterless token) :
    delimiterToken? first = delimiterToken? second := by
  have sameMarks :
      (delimiterToken? first).map lowered = (delimiterToken? second).map lowered := by
    rw [← delimiterToken?_lowered, same, delimiterToken?_lowered]
  cases marks : delimiterToken? first with
  | none =>
      rw [marks] at sameMarks
      exact (Option.map_eq_none_iff.mp sameMarks.symm).symm
  | some token =>
      have tokenLetterless := letterless token marks
      rw [marks] at sameMarks
      obtain ⟨other, marksOther, sameToken⟩ := Option.map_eq_some_iff.mp sameMarks.symm
      rw [(lowered_eq_iff tokenLetterless).mpr rfl, lowered_eq_iff tokenLetterless]
        at sameToken
      rw [marksOther, sameToken]

theorem ofLine_eq_of_sameLetters
    (same : SameLetters first second)
    (letterless : ∀ token, delimiterToken? first = some token → IsLetterless token) :
    LineClass.ofLine first = LineClass.ofLine second := by
  unfold LineClass.ofLine
  rw [same.congr isEmpty_lowered, same.congr isComment_lowered,
    same.congr (startsWithCapitals_lowered _), same.congr isIgnored_lowered,
    same.congr (startsWithCapitals_lowered _), same.congr opensTable_lowered,
    delimiterToken?_eq_of_sameLetters same letterless,
    same.congr (startsWithCapitals_lowered _)]

end

/-- Scripts in either case: delimiters are without letters, all other texts differ in case. -/
def letterCase : Likeness where
  collected := SameLetters
  text := SameLetters
  delimiter := IsLetterless
  blank same := same.congr allBlank_lowered
  joined {first second} same := by
    have sameLines : first.map lowered = second.map lowered := by
      rw [← List.forall₂_eq_eq_eq, List.forall₂_map_left_iff, List.forall₂_map_right_iff]
      exact same
    rw [SameLetters, ← blockText_map_lowered, sameLines, blockText_map_lowered]

section

variable {first second : Text}

theorem continueAlike_of_sameLetters
    (same : SameLetters first second) :
    ContinueAlike letterCase first second where
  engine := same.congr hasEngineClause_lowered
  ends := same.congr endsStatement_lowered
  closes := (same.map trim_lowered).congr closesSection_lowered
  routine := same.congr hasRoutineWord_lowered
  kept := same
  cut _ letterless := same.map (dropTrailingDelimiter_lowered letterless)

theorem openAlike_of_sameLetters
    {substitution : Substitution}
    (same : SameLetters first second)
    (places : SamePlaces substitution.placeholder first second)
    (letterless :
      ∀ token, delimiterToken? (trim first) = some token → IsLetterless token) :
    OpenAlike letterCase substitution first second := by
  have sameTrimmed : SameLetters (trim first) (trim second) := same.map trim_lowered
  have placesTrimmed := places.trimmed same
  exact {
    lineClass := ofLine_eq_of_sameLetters sameTrimmed letterless
    delimiter := fun token opens => letterless token (delimiterToken?_of_ofLine opens)
    placeholder := fun _ => placesTrimmed.occursIn_eq sameTrimmed
    database := fun _ => placesTrimmed.sameLetters_replaceFrom sameTrimmed _ 0
    insert := fun _ => sameTrimmed
  }

end

section

variable {part first second : Text}

theorem samePlaces_firstLine
    (same : SameLetters first second)
    (places : SamePlaces part (unquoteIdentifiers first) (unquoteIdentifiers second)) :
    SamePlaces part (unquoteIdentifiers (firstLine first))
      (unquoteIdentifiers (firstLine second)) := by
  have sameLine :
      SameLetters (unquoteIdentifiers (firstLine first))
        (unquoteIdentifiers (firstLine second)) :=
    (same.map firstLine_lowered).map unquoteIdentifiers_lowered
  obtain ⟨firstRest, firstSplit⟩ : firstLine first <+: first := List.takeWhile_prefix _
  obtain ⟨secondRest, secondSplit⟩ : firstLine second <+: second := List.takeWhile_prefix _
  rw [← firstSplit, ← secondSplit, unquoteIdentifiers_append, unquoteIdentifiers_append]
    at places
  exact places.left sameLine.length

/-- Behind characters that differ in case alone the places stay the same. -/
theorem samePlaces_of_cons
    {firstChar secondChar : Char}
    (sameChar : firstChar.toLower = secondChar.toLower)
    (places :
      SamePlaces part (unquoteIdentifiers (firstChar :: first))
        (unquoteIdentifiers (secondChar :: second))) :
    SamePlaces part (unquoteIdentifiers first) (unquoteIdentifiers second) := by
  have sameFirst : SameLetters [firstChar] [secondChar] := congrArg (fun c => [c]) sameChar
  have split (character : Char) (rest : Text) :
      unquoteIdentifiers (character :: rest) =
        unquoteIdentifiers [character] ++ unquoteIdentifiers rest :=
    unquoteIdentifiers_append [character] rest
  rw [split firstChar first, split secondChar second] at places
  exact places.right (sameFirst.map unquoteIdentifiers_lowered).length

/-- A carriage return is in either case a boundary by itself. -/
theorem single_of_sameLetters
    {firstChar secondChar : Char}
    (sameChar : firstChar.toLower = secondChar.toLower)
    (same : SameLetters first second)
    (single : ∀ later, firstChar = '\r' → first = '\n' :: later → False) :
    ∀ later, secondChar = '\r' → second = '\n' :: later → False := by
  rintro later rfl rfl
  obtain ⟨next, others, rfl, sameNext, _⟩ := SameLetters.exists_cons same.symm
  exact single others ((toLower_eq_iff rfl).mp sameChar)
    (congrArg (· :: others) ((toLower_eq_iff rfl).mp sameNext.symm))

/-- Lines of scripts that differ in case alone do so as well. -/
theorem forall₂_lines
    (same : SameLetters first second)
    (places : SamePlaces part (unquoteIdentifiers first) (unquoteIdentifiers second)) :
    List.Forall₂
      (fun firstLine secondLine =>
        SameLetters firstLine secondLine ∧
          SamePlaces part (unquoteIdentifiers firstLine) (unquoteIdentifiers secondLine))
      (Text.lines first) (Text.lines second) := by
  fun_induction Text.lines first generalizing second with
  | case1 =>
      cases same.forall₂
      exact .nil
  | case2 rest inductionHypothesis =>
      obtain ⟨return₂, _, rfl, sameReturn, sameMore⟩ := same.exists_cons
      obtain ⟨newline₂, secondRest, rfl, sameNewline, sameRest⟩ := sameMore.exists_cons
      have placesRest := samePlaces_of_cons sameNewline (samePlaces_of_cons sameReturn places)
      cases (toLower_eq_iff rfl).mp sameReturn.symm
      cases (toLower_eq_iff rfl).mp sameNewline.symm
      exact .cons ⟨.refl [], fun _ => rfl⟩ (inductionHypothesis sameRest placesRest)
  | case3 character rest single breaks inductionHypothesis =>
      obtain ⟨secondChar, secondRest, rfl, sameChar, sameRest⟩ := same.exists_cons
      have breaksSecond : isLineBreak secondChar = true := by
        rw [← isLineBreak_toLower, ← sameChar, isLineBreak_toLower, breaks]
      rw [Text.lines.eq_3 _ _ (single_of_sameLetters sameChar sameRest single),
        if_pos breaksSecond]
      exact .cons ⟨.refl [], fun _ => rfl⟩
        (inductionHypothesis sameRest (samePlaces_of_cons sameChar places))
  | case4 character rest single goesOn inductionHypothesis =>
      obtain ⟨secondChar, secondRest, rfl, sameChar, sameRest⟩ := same.exists_cons
      have goesOnFirst : isLineBreak character = false := by
        rwa [Bool.not_eq_true] at goesOn
      have goesOnSecond : isLineBreak secondChar = false := by
        rw [← isLineBreak_toLower, ← sameChar, isLineBreak_toLower, goesOnFirst]
      rw [lines_cons_of_unbroken goesOnSecond, consToFirst_lines goesOnFirst,
        consToFirst_lines goesOnSecond]
      exact .cons ⟨same.map firstLine_lowered, samePlaces_firstLine same places⟩
        (List.forall₂_drop 1
          (inductionHypothesis sameRest (samePlaces_of_cons sameChar places)))

end

/--
Two scripts that differ in the case of letters alone are both refused with one error, or they
have blocks that differ in the case of letters alone, if the placeholder occurs in them at the
same places and the delimiters of sections have no letters.
-/
theorem keywords_ignore_letter_case
    {substitution : Substitution}
    {first second : Text}
    (sameLetters : SameLetters first second)
    (samePlaces :
      SamePlaces substitution.placeholder (unquoteIdentifiers first)
        (unquoteIdentifiers second))
    (letterless :
      ∀ line ∈ Text.lines first,
        ∀ token ∈ delimiterToken? (statementLine line), IsLetterless token) :
    SameOutcome (List.Forall₂ (Block.Alike SameLetters))
      (read substitution first).blocks (read substitution second).blocks := by
  have start : ScanState.Alike letterCase .outside .outside := .outside
  apply Scan.Alike.sameOutcome
  apply scanLines_alike start
  refine ((List.forall₂_and_left _ _).mpr
    ⟨letterless, forall₂_lines sameLetters samePlaces⟩).imp ?_
  rintro firstLine secondLine ⟨noLetters, same, places⟩
  have sameLine := same.map unquoteIdentifiers_lowered
  exact ⟨continueAlike_of_sameLetters sameLine,
    openAlike_of_sameLetters sameLine places noLetters⟩

/-- A database, a table and a function, with every keyword in the other case. -/
theorem capitals_are_read_as_small_letters :
    let substitution : Substitution :=
      { placeholder := defaultPlaceholder, target := "acme".toList }
    let first : Text :=
      joinWith ['\n']
        [
          "CREATE DATABASE __database_name__;".toList,
          "CREATE TABLE t (id INT) ENGINE=InnoDB;".toList, "DELIMITER ;;".toList,
          "CREATE FUNCTION f() RETURN 1;;".toList, "DELIMITER ;".toList
        ]
    let second : Text :=
      joinWith ['\n']
        [
          "create database __database_name__;".toList,
          "create table T (ID int) engine=innodb;".toList, "delimiter ;;".toList,
          "create function F() return 1;;".toList, "delimiter ;".toList
        ]
    SameLetters first second ∧
      SamePlaces substitution.placeholder (unquoteIdentifiers first)
        (unquoteIdentifiers second) ∧
      (∀ line ∈ Text.lines first,
        ∀ token ∈ delimiterToken? (statementLine line), IsLetterless token) ∧
      (read substitution first).blocks.map (List.map Block.kind) =
        .ok [.createDatabase, .createTable, .procedureBody] ∧
      SameOutcome (List.Forall₂ (Block.Alike SameLetters))
        (read substitution first).blocks (read substitution second).blocks := by
  intro substitution first second
  have sameLetters : SameLetters first second := by
    decide +kernel
  have samePlaces :
      SamePlaces substitution.placeholder (unquoteIdentifiers first)
        (unquoteIdentifiers second) := by
    decide +kernel
  have letterless :
      ∀ line ∈ Text.lines first,
        ∀ token ∈ delimiterToken? (statementLine line), IsLetterless token := by
    decide +kernel
  exact ⟨sameLetters, samePlaces, letterless, rfl,
    keywords_ignore_letter_case sameLetters samePlaces letterless⟩

end TenantSchema.Script
