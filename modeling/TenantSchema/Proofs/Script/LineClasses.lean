import TenantSchema.Proofs.Script.DatabaseStatement
import TenantSchema.Proofs.Text.Patterns

namespace TenantSchema.Script

open Text

/-!
# Classes of lines

The class of a line is told by the first test that accepts it.  For the lines that the format
of a script knows the order of the tests does not matter: a line that one test accepts is
accepted by no earlier one.  The first letter tells most of the classes apart, the second one
a section marker from `DROP TABLE`, and the second word a table from a database.
-/

/--
Whether a trimmed line is blank, a comment, or a statement that a fresh schema has no use
for.  `DROP TABLE` may run on into a longer word.
-/
def IsNoise (stripped : Text) : Prop :=
  stripped = [] ∨
    isComment stripped = true ∨
    isIgnored stripped = true ∨
    startsWithCapitals "DROP TABLE".toList stripped = true

instance (stripped : Text) : Decidable (IsNoise stripped) :=
  instDecidableOr

section

variable {stripped : Text}

theorem eq_cons_of_startsWith_create
    {keyword : Text}
    (starts : startsWithCapitals ('C' :: keyword) stripped = true) :
    ∃ rest, stripped = 'C' :: rest ∨ stripped = 'c' :: rest := by
  obtain ⟨first, rest, rfl, capital, _⟩ := exists_cons_of_startsWithCapitals starts
  have upper : first.toUpper = 'C' := by
    simpa [capitalizesTo] using capital
  rcases eq_or_eq_toLower_of_toUpper upper with rfl | rfl
  · exact ⟨rest, .inl rfl⟩
  · exact ⟨rest, .inr rfl⟩

theorem eq_cons_of_startsWith_insert
    {keyword : Text}
    (starts : startsWithCapitals ('I' :: keyword) stripped = true) :
    ∃ rest,
      stripped = 'I' :: rest ∨ stripped = 'i' :: rest ∨ stripped = 'ı' :: rest := by
  obtain ⟨first, rest, rfl, capital, _⟩ := exists_cons_of_startsWithCapitals starts
  rw [capitalizesTo, Bool.or_eq_true, beq_iff_eq, beq_iff_eq] at capital
  rcases capital with upper | rfl
  · rcases eq_or_eq_toLower_of_toUpper upper with rfl | rfl
    · exact ⟨rest, .inl rfl⟩
    · exact ⟨rest, .inr (.inl rfl)⟩
  · exact ⟨rest, .inr (.inr rfl)⟩

theorem eq_cons_of_startsWith_drop
    {keyword : Text}
    (starts : startsWithCapitals ('D' :: 'R' :: keyword) stripped = true) :
    ∃ first second rest,
      stripped = first :: second :: rest ∧
        (first = 'D' ∨ first = 'd') ∧ (second = 'R' ∨ second = 'r') := by
  obtain ⟨first, others, rfl, firstCapital, more⟩ := exists_cons_of_startsWithCapitals starts
  obtain ⟨second, rest, rfl, secondCapital, _⟩ := exists_cons_of_startsWithCapitals more
  have firstUpper : first.toUpper = 'D' := by
    simpa [capitalizesTo] using firstCapital
  have secondUpper : second.toUpper = 'R' := by
    simpa [capitalizesTo] using secondCapital
  refine ⟨first, second, rest, rfl, ?_, ?_⟩
  · exact eq_or_eq_toLower_of_toUpper firstUpper
  · exact eq_or_eq_toLower_of_toUpper secondUpper

/-- A marker starts with the letters `DE`, in any case. -/
theorem eq_cons_of_delimiterToken?
    {token : Text}
    (marks : delimiterToken? stripped = some token) :
    ∃ first second rest,
      stripped = first :: second :: rest ∧
        (first = 'd' ∨ first = 'D') ∧ (second = 'e' ∨ second = 'E') := by
  unfold delimiterToken? at marks
  cases found : dropKeyword? "delimiter".toList stripped with
  | none =>
      rw [found] at marks
      cases marks
  | some after =>
      obtain ⟨first, others, rfl, firstFolds, more⟩ :=
        exists_cons_of_dropKeyword? found
      obtain ⟨second, rest, rfl, secondFolds, _⟩ :=
        exists_cons_of_dropKeyword? more
      have firstPlain : IsPlainLetter 'd' := by
        decide
      have secondPlain : IsPlainLetter 'e' := by
        decide
      refine ⟨first, second, rest, rfl, ?_, ?_⟩
      · exact eq_or_eq_toUpper_of_toLower (toLower_of_foldsTo firstPlain firstFolds)
      · exact eq_or_eq_toUpper_of_toLower (toLower_of_foldsTo secondPlain secondFolds)

theorem startsWith_create_of_opensTable
    (opens : opensTable stripped = true) :
    startsWithCapitals "CREATE".toList stripped = true := by
  unfold opensTable dropKeywords? at opens
  cases found : dropKeyword? "create".toList stripped with
  | none =>
      rw [found] at opens
      cases opens
  | some after =>
      have plain : ∀ letter ∈ "create".toList, IsPlainLetter letter := by
        simp [IsPlainLetter]
      exact startsWithCapitals_of_dropKeyword? plain found

/-- After `CREATE` a second word `TABLE` leaves no room for `DATABASE`. -/
theorem not_startsWith_database_of_opensTable
    (opens : opensTable stripped = true) :
    startsWithCapitals "CREATE DATABASE".toList stripped = false := by
  unfold opensTable dropKeywords? at opens
  cases found : dropKeyword? "create".toList stripped with
  | none =>
      rw [found] at opens
      cases opens
  | some after =>
      rw [found] at opens
      rw [Bool.eq_false_iff]
      intro starts
      have twoWords :
          "CREATE DATABASE".toList = "CREATE".toList ++ ' ' :: 'D' :: "ATABASE".toList := by
        decide
      have sameLength : "create".toList.length = "CREATE".toList.length := by
        decide
      have database :
          startsWithCapitals (' ' :: 'D' :: "ATABASE".toList) after = true := by
        rw [twoWords] at starts
        rw [eq_drop_of_dropKeyword? found, sameLength]
        exact startsWithCapitals_drop "CREATE".toList starts
      obtain ⟨blank, rest, rfl, _, more⟩ := exists_cons_of_startsWithCapitals database
      obtain ⟨letter, others, rfl, capital, _⟩ := exists_cons_of_startsWithCapitals more
      have upper : letter.toUpper = 'D' := by
        simpa [capitalizesTo] using capital
      have noTable :
          dropKeyword? "table".toList (trimLeft (letter :: others)) = none := by
        rcases eq_or_eq_toLower_of_toUpper upper with rfl | rfl <;> rfl
      rw [Option.bind_some, dropBlanks?] at opens
      by_cases gap : isBlank blank = true
      · rw [if_pos gap, Option.bind_some, noTable] at opens
        cases opens
      · rw [if_neg gap] at opens
        cases opens

/-- A line that starts with `CREATE` is no noise. -/
theorem not_noise_of_create
    {keyword : Text}
    (starts : startsWithCapitals ('C' :: keyword) stripped = true) :
    (stripped.isEmpty || isComment stripped) = false ∧ isIgnored stripped = false := by
  obtain ⟨rest, rfl | rfl⟩ := eq_cons_of_startsWith_create starts
  · exact ⟨rfl, rfl⟩
  · exact ⟨rfl, rfl⟩

theorem ofLine_of_ignored
    (ignored : isIgnored stripped = true) :
    LineClass.ofLine stripped = .silent ∨ LineClass.ofLine stripped = .ignored := by
  by_cases silent : (stripped.isEmpty || isComment stripped) = true
  · left
    rw [LineClass.ofLine, if_pos silent]
  · right
    have noDatabase :
        ¬ startsWithCapitals "CREATE DATABASE".toList stripped = true := by
      intro starts
      rw [(not_noise_of_create starts).2] at ignored
      cases ignored
    rw [LineClass.ofLine, if_neg silent, if_neg noDatabase, if_pos ignored]

/-- A line whose first word starts like `DROP` is ignored or belongs to no statement. -/
theorem ofLine_of_startsWith_drop
    {keyword : Text}
    (starts : startsWithCapitals ('D' :: 'R' :: keyword) stripped = true) :
    LineClass.ofLine stripped = if isIgnored stripped then .ignored else .remark := by
  have others :
      (stripped.isEmpty || isComment stripped) = false ∧
        startsWithCapitals "CREATE DATABASE".toList stripped = false ∧
        startsWithCapitals "CREATE".toList stripped = false ∧
        delimiterToken? stripped = none ∧
        startsWithCapitals "INSERT INTO".toList stripped = false := by
    obtain ⟨first, second, rest, rfl, rfl | rfl, rfl | rfl⟩ :=
      eq_cons_of_startsWith_drop starts <;>
      exact ⟨rfl, rfl, rfl, rfl, rfl⟩
  obtain ⟨notSilent, noDatabase, noCreate, noMarker, noInsert⟩ := others
  simp only [LineClass.ofLine, notSilent, Bool.false_eq_true, if_false, noDatabase, noCreate,
    noMarker, noInsert]

theorem ofLine_of_drop
    (starts : startsWithCapitals "DROP TABLE".toList stripped = true) :
    LineClass.ofLine stripped = .ignored ∨ LineClass.ofLine stripped = .remark := by
  rw [ofLine_of_startsWith_drop starts]
  split
  · exact .inl rfl
  · exact .inr rfl

/-- Noise becomes no block. -/
theorem ofLine_of_noise
    (noise : IsNoise stripped) :
    LineClass.ofLine stripped ∈ [.silent, .ignored, .remark] := by
  rcases noise with rfl | comment | ignored | drop
  · decide
  · have silent : (stripped.isEmpty || isComment stripped) = true := by
      rw [comment, Bool.or_true]
    rw [LineClass.ofLine, if_pos silent]
    decide
  · rcases ofLine_of_ignored ignored with same | same <;>
      simp [same]
  · rcases ofLine_of_drop drop with same | same <;>
      simp [same]

theorem ofLine_of_database
    (starts : startsWithCapitals "CREATE DATABASE".toList stripped = true) :
    LineClass.ofLine stripped = .database := by
  have noise := not_noise_of_create starts
  simp only [LineClass.ofLine, noise.1, Bool.false_eq_true, if_false, starts, if_true]

theorem ofLine_of_opensTable
    (opens : opensTable stripped = true) :
    LineClass.ofLine stripped = .table := by
  have starts := startsWith_create_of_opensTable opens
  have noise := not_noise_of_create starts
  have noDatabase := not_startsWith_database_of_opensTable opens
  simp only [LineClass.ofLine, noise, Bool.false_eq_true, if_false, noDatabase, starts,
    if_true, opens]

theorem ofLine_of_create
    (starts : startsWithCapitals "CREATE".toList stripped = true)
    (noDatabase : startsWithCapitals "CREATE DATABASE".toList stripped = false)
    (noTable : opensTable stripped = false) :
    LineClass.ofLine stripped = .statement := by
  have noise := not_noise_of_create starts
  simp only [LineClass.ofLine, noise, Bool.false_eq_true, if_false, noDatabase, starts,
    if_true, noTable]

/-- A line that starts with an `I` inserts rows or belongs to no statement. -/
theorem ofLine_of_startsWith_insert
    {keyword : Text}
    (starts : startsWithCapitals ('I' :: keyword) stripped = true) :
    LineClass.ofLine stripped =
      if startsWithCapitals "INSERT INTO".toList stripped then .insert else .remark := by
  have others :
      (stripped.isEmpty || isComment stripped) = false ∧
        startsWithCapitals "CREATE DATABASE".toList stripped = false ∧
        isIgnored stripped = false ∧
        startsWithCapitals "CREATE".toList stripped = false ∧
        delimiterToken? stripped = none := by
    obtain ⟨rest, rfl | rfl | rfl⟩ := eq_cons_of_startsWith_insert starts
    · exact ⟨rfl, rfl, rfl, rfl, rfl⟩
    · exact ⟨rfl, rfl, rfl, rfl, rfl⟩
    · exact ⟨rfl, rfl, rfl, rfl, rfl⟩
  obtain ⟨notSilent, noDatabase, notIgnored, noCreate, noMarker⟩ := others
  simp only [LineClass.ofLine, notSilent, Bool.false_eq_true, if_false, noDatabase,
    notIgnored, noCreate, noMarker]

theorem ofLine_of_insert
    (starts : startsWithCapitals "INSERT INTO".toList stripped = true) :
    LineClass.ofLine stripped = .insert := by
  rw [ofLine_of_startsWith_insert starts, if_pos starts]

theorem ofLine_of_marker
    {token : Text}
    (marks : delimiterToken? stripped = some token)
    (custom : token ≠ ordinaryDelimiter) :
    LineClass.ofLine stripped = .sectionStart token := by
  have others :
      (stripped.isEmpty || isComment stripped) = false ∧
        startsWithCapitals "CREATE DATABASE".toList stripped = false ∧
        isIgnored stripped = false ∧
        startsWithCapitals "CREATE".toList stripped = false := by
    obtain ⟨first, second, rest, rfl, rfl | rfl, rfl | rfl⟩ :=
      eq_cons_of_delimiterToken? marks <;>
      exact ⟨rfl, rfl, rfl, rfl⟩
  obtain ⟨notSilent, noDatabase, notIgnored, noCreate⟩ := others
  simp only [LineClass.ofLine, notSilent, Bool.false_eq_true, if_false, noDatabase,
    notIgnored, noCreate, marks, ne_eq, custom, not_false_eq_true, if_true]

/-- A line that becomes no block starts no statement that becomes one. -/
theorem not_starts_of_skipped
    (skipped : LineClass.ofLine stripped ∈ [.silent, .ignored, .remark]) :
    startsWithCapitals "CREATE".toList stripped = false ∧
      startsWithCapitals "INSERT INTO".toList stripped = false := by
  constructor
  · rw [Bool.eq_false_iff]
    intro create
    cases database : startsWithCapitals "CREATE DATABASE".toList stripped with
    | true =>
        rw [ofLine_of_database database] at skipped
        exact absurd skipped (by decide)
    | false =>
        cases table : opensTable stripped with
        | true =>
            rw [ofLine_of_opensTable table] at skipped
            exact absurd skipped (by decide)
        | false =>
            rw [ofLine_of_create create database table] at skipped
            exact absurd skipped (by decide)
  · rw [Bool.eq_false_iff]
    intro insert
    rw [ofLine_of_insert insert] at skipped
    exact absurd skipped (by decide)

theorem not_starts_of_marker
    {token : Text}
    (marks : delimiterToken? stripped = some token) :
    startsWithCapitals "CREATE".toList stripped = false ∧
      startsWithCapitals "INSERT INTO".toList stripped = false := by
  obtain ⟨first, second, rest, rfl, rfl | rfl, rfl | rfl⟩ :=
    eq_cons_of_delimiterToken? marks <;>
    exact ⟨rfl, rfl⟩

theorem silent_of_ofLine
    (silent : LineClass.ofLine stripped = .silent) :
    stripped = [] ∨ isComment stripped = true := by
  unfold LineClass.ofLine at silent
  repeat' split at silent
  all_goals cases silent
  rwa [Bool.or_eq_true, List.isEmpty_iff] at *

theorem ignored_of_ofLine
    (ignored : LineClass.ofLine stripped = .ignored) :
    isIgnored stripped = true := by
  unfold LineClass.ofLine at ignored
  repeat' split at ignored
  all_goals cases ignored
  assumption

/-- The delimiter that a marker names is a word of the line. -/
theorem delimiterToken?_eq_some
    {stripped token : Text}
    (marks : delimiterToken? stripped = some token) :
    token ≠ [] ∧
      (∀ character ∈ token, isBlank character = false) ∧
      token ⊆ stripped := by
  unfold delimiterToken? at marks
  split at marks
  · cases marks
  · rename_i rest found
    dsimp only at marks
    split at marks
    · rename_i shape
      cases marks
      rw [Bool.and_eq_true] at shape
      refine ⟨by simpa using shape.1, ?_, ?_⟩
      · intro character member
        simpa using List.mem_takeWhile_imp member
      · obtain ⟨after, keyword, blanks⟩ := Option.bind_eq_some_iff.mp found
        obtain ⟨lead, rfl, _⟩ := dropKeyword?_suffix keyword
        obtain ⟨run, _, rfl⟩ := exists_of_dropBlanks? blanks
        intro character member
        have inRest := (List.takeWhile_sublist _).subset member
        simp [inRest]
    · cases marks

/-- A line that opens a section is the marker that names its delimiter. -/
theorem delimiterToken?_of_ofLine
    {token : Text}
    (opens : LineClass.ofLine stripped = .sectionStart token) :
    delimiterToken? stripped = some token := by
  unfold LineClass.ofLine at opens
  repeat' split at opens
  all_goals cases opens
  assumption

/-- The marker that closes a section opens none. -/
theorem ne_ordinaryDelimiter_of_ofLine
    {token : Text}
    (opens : LineClass.ofLine stripped = .sectionStart token) :
    token ≠ ordinaryDelimiter := by
  unfold LineClass.ofLine at opens
  repeat' split at opens
  all_goals cases opens
  assumption

end

end TenantSchema.Script
