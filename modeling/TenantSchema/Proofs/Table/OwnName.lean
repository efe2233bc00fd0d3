import TenantSchema.Proofs.Applier.Course
import TenantSchema.Proofs.Table.References
import TenantSchema.Report

namespace TenantSchema.Table

open Text

/-!
# The name in a definition

A definition names its table behind the words `CREATE TABLE`, and perhaps `IF NOT EXISTS`, with
white space behind each word; a bracket follows the name, perhaps after more white space.  The
name may be the word `IF` itself, so the words in front of it are told from the name only by
what comes next: behind a name there is a bracket, behind a word of the condition another word.
No text has both, so a definition gives its table one name at most.
-/

/-- Whether a text spells keywords in any case, with white space behind each. -/
inductive SpellsSpaced : List Text → Text → Prop where
  | nil :
      SpellsSpaced [] []
  | cons
      {keyword word blanks rest : Text}
      {keywords : List Text} :
      Spells keyword word →
      IsBlankRun blanks →
      SpellsSpaced keywords rest →
      SpellsSpaced (keyword :: keywords) (word ++ (blanks ++ rest))

/-- The words that a definition of a table starts with. -/
def definingWords : List Text :=
  ["create".toList, "table".toList]

/-- The words of the condition that a definition may state. -/
def conditionWords : List Text :=
  ["if".toList, "not".toList, "exists".toList]

/--
Whether a trimmed definition has a table name in its place: behind the defining words and
perhaps the condition, and in front of a bracket.
-/
def NamesTable (definition name : Text) : Prop :=
  ∃ start condition gap rest,
    SpellsSpaced definingWords start ∧
      (condition = [] ∨ SpellsSpaced conditionWords condition) ∧
      IsWordRun name ∧
      allBlank gap = true ∧
      definition = start ++ condition ++ name ++ gap ++ '(' :: rest

/-- What follows keywords with white space behind each. -/
def dropSpaced? : List Text → Text → Option Text
  | [], text =>
      some text
  | keyword :: keywords, text =>
      ((dropKeyword? keyword text).bind dropBlanks?).bind (dropSpaced? keywords)

theorem dropCreateTable?_eq_dropSpaced?
    (text : Text) :
    dropCreateTable? text = dropSpaced? definingWords text := by
  rw [dropCreateTable?, definingWords, dropSpaced?]
  congr 1
  funext afterCreate
  rw [dropSpaced?]
  exact (Option.bind_fun_some _).symm

theorem dropIfNotExists?_eq_dropSpaced?
    (text : Text) :
    dropIfNotExists? text = dropSpaced? conditionWords text := by
  rw [dropIfNotExists?, conditionWords, dropSpaced?, Option.bind_assoc]
  congr 1
  funext afterIf
  rw [dropSpaced?]
  congr 1
  funext afterNot
  rw [dropSpaced?]
  exact (Option.bind_fun_some _).symm

/-- Whether a text, given in small letters, is a word however its letters are written. -/
def IsKeyword (keyword : Text) : Prop :=
  keyword ≠ [] ∧
    ∀ letter ∈ keyword, isWord letter = true ∧ isWord letter.toUpper = true

instance (keyword : Text) : Decidable (IsKeyword keyword) :=
  decidable_of_iff
    (keyword ≠ [] ∧
      keyword.all (fun letter => isWord letter && isWord letter.toUpper) = true)
    (by simp [IsKeyword])

theorem isKeyword_of_mem_definingWords :
    ∀ keyword ∈ definingWords, IsKeyword keyword := by
  decide

theorem isKeyword_of_mem_conditionWords :
    ∀ keyword ∈ conditionWords, IsKeyword keyword := by
  decide

theorem isWordRun_of_spells
    {keyword text : Text}
    (spells : Spells keyword text)
    (isKeyword : IsKeyword keyword) :
    IsWordRun text where
  nonempty := by
    obtain ⟨first, others, rfl⟩ := spells.exists_cons isKeyword.1
    exact List.cons_ne_nil first others
  word := spells.isWord isKeyword.2

/-- White space in front of keywords is no part of them. -/
theorem SpellsSpaced.trimLeft_append
    {keywords : List Text}
    {lead text : Text}
    (spells : SpellsSpaced keywords lead)
    (areKeywords : ∀ keyword ∈ keywords, IsKeyword keyword)
    (trimmed : trimLeft text = text) :
    trimLeft (lead ++ text) = lead ++ text := by
  cases spells with
  | nil =>
      exact trimmed
  | cons spelt _ _ =>
      rw [List.append_assoc]
      exact (isWordRun_of_spells spelt (areKeywords _ List.mem_cons_self)).trimLeft_append _

theorem exists_of_dropSpaced?
    {keywords : List Text}
    {text rest : Text}
    (found : dropSpaced? keywords text = some rest) :
    ∃ lead, SpellsSpaced keywords lead ∧ text = lead ++ rest := by
  induction keywords generalizing text with
  | nil =>
      cases found
      exact ⟨[], .nil, rfl⟩
  | cons keyword keywords inductionHypothesis =>
      obtain ⟨behind, separated, more⟩ := Option.bind_eq_some_iff.mp found
      obtain ⟨blanked, dropped, passed⟩ := Option.bind_eq_some_iff.mp separated
      obtain ⟨word, spelt, rfl⟩ := dropKeyword?_eq_some_iff.mp dropped
      obtain ⟨blanks, run, rfl⟩ := exists_of_dropBlanks? passed
      obtain ⟨lead, spells, rfl⟩ := inductionHypothesis more
      exact ⟨_, .cons spelt run spells, by simp only [List.append_assoc]⟩

/-- Keywords are passed over up to the first character that is not blank. -/
theorem dropSpaced?_append
    {keywords : List Text}
    {lead text : Text}
    (spells : SpellsSpaced keywords lead)
    (areKeywords : ∀ keyword ∈ keywords, IsKeyword keyword)
    (trimmed : trimLeft text = text) :
    dropSpaced? keywords (lead ++ text) = some text := by
  induction spells with
  | nil =>
      rfl
  | cons spelt run spells inductionHypothesis =>
      rw [List.forall_mem_cons] at areKeywords
      simp only [dropSpaced?, List.append_assoc,
        dropKeyword?_eq_some_iff.mpr ⟨_, spelt, rfl⟩, Option.bind_some,
        dropBlanks?_append run, spells.trimLeft_append areKeywords.2 trimmed]
      exact inductionHypothesis areKeywords.2

/-- No name and bracket stand where the condition stands. -/
theorem identifierBeforeBracket?_eq_none_of_condition
    {condition : Text}
    (spells : SpellsSpaced conditionWords condition)
    (rest : Text) :
    identifierBeforeBracket? (condition ++ rest) = none := by
  rw [Option.eq_none_iff_forall_ne_some]
  rintro ⟨name, after⟩ found
  obtain ⟨named, gap, blank, same⟩ := identifierBeforeBracket?_eq_some_iff.mp found
  have isIf : IsKeyword "if".toList :=
    isKeyword_of_mem_conditionWords _ List.mem_cons_self
  have isNot : IsKeyword "not".toList :=
    isKeyword_of_mem_conditionWords _ (List.mem_cons_of_mem _ List.mem_cons_self)
  rcases spells with _ | ⟨ifSpelt, ifRun, _ | ⟨notSpelt, _, _⟩⟩
  simp only [List.append_assoc] at same
  exact bracket_ne_second_word named.word blank (ifSpelt.isWord isIf.2) ifRun
    (isWordRun_of_spells notSpelt isNot) same.symm

/--
A name that is found stands in its place.  If the condition is followed by no name, the words
of the condition are looked at as if they were one.
-/
theorem namesTable_of_definedName?
    {definition name : Text}
    (found : definedName? definition = some name) :
    NamesTable definition name := by
  obtain ⟨behind, dropped, identified⟩ := Option.bind_eq_some_iff.mp found
  rw [dropCreateTable?_eq_dropSpaced?] at dropped
  obtain ⟨start, defining, rfl⟩ := exists_of_dropSpaced? dropped
  split at identified
  · rename_i other after conditioned
    cases identified
    obtain ⟨rest, passed, identified⟩ := Option.bind_eq_some_iff.mp conditioned
    rw [dropIfNotExists?_eq_dropSpaced?] at passed
    obtain ⟨condition, stated, rfl⟩ := exists_of_dropSpaced? passed
    obtain ⟨named, gap, blank, rfl⟩ := identifierBeforeBracket?_eq_some_iff.mp identified
    exact ⟨start, condition, gap, after, defining, .inr stated, named, blank,
      by simp only [List.append_assoc]⟩
  · obtain ⟨⟨_, after⟩, bracketed, rfl⟩ := Option.map_eq_some_iff.mp identified
    obtain ⟨named, gap, blank, rfl⟩ := identifierBeforeBracket?_eq_some_iff.mp bracketed
    exact ⟨start, [], gap, after, defining, .inl rfl, named, blank,
      by simp only [List.append_assoc, List.append_nil]⟩

/-- Behind the defining words the search looks for a name behind the condition, or at once. -/
theorem definedName?_append
    {start rest : Text}
    (defining : SpellsSpaced definingWords start)
    (trimmed : trimLeft rest = rest) :
    definedName? (start ++ rest) =
      (((dropSpaced? conditionWords rest).bind identifierBeforeBracket?).or
        (identifierBeforeBracket? rest)).map (·.1) := by
  rw [definedName?, dropCreateTable?_eq_dropSpaced?,
    dropSpaced?_append defining isKeyword_of_mem_definingWords trimmed,
    Option.bind_some, dropIfNotExists?_eq_dropSpaced?]
  cases (dropSpaced? conditionWords rest).bind identifierBeforeBracket? <;> rfl

/-- A name that stands in its place is found, with the condition in front of it or without. -/
theorem definedName?_of_namesTable
    {definition name : Text}
    (names : NamesTable definition name) :
    definedName? definition = some name := by
  obtain ⟨start, condition, gap, after, defining, stated, named, blank, rfl⟩ := names
  have identified :
      identifierBeforeBracket? (name ++ (gap ++ '(' :: after)) = some (name, after) :=
    identifierBeforeBracket?_eq_some_iff.mpr ⟨named, gap, blank, rfl⟩
  have trimmed := named.trimLeft_append (gap ++ '(' :: after)
  simp only [List.append_assoc]
  rcases stated with rfl | stated
  · rw [List.nil_append, definedName?_append defining trimmed]
    cases passed : dropSpaced? conditionWords (name ++ (gap ++ '(' :: after)) with
    | none =>
        simp [identified]
    | some rest =>
        obtain ⟨condition, stated, same⟩ := exists_of_dropSpaced? passed
        rw [same, identifierBeforeBracket?_eq_none_of_condition stated] at identified
        cases identified
  · rw [definedName?_append defining
        (stated.trimLeft_append isKeyword_of_mem_conditionWords trimmed),
      dropSpaced?_append stated isKeyword_of_mem_conditionWords trimmed]
    simp [identified]

theorem definedName?_eq_some_iff
    {definition name : Text} :
    definedName? definition = some name ↔ NamesTable definition name :=
  ⟨namesTable_of_definedName?, definedName?_of_namesTable⟩

theorem NamesTable.unique
    {definition first second : Text}
    (firstNames : NamesTable definition first)
    (secondNames : NamesTable definition second) :
    first = second :=
  Option.some.inj
    ((definedName?_of_namesTable firstNames).symm.trans
      (definedName?_of_namesTable secondNames))

/-- A definition with a bracket right behind the condition has no name. -/
theorem not_namesTable_of_bracket
    {start condition : Text}
    (defining : SpellsSpaced definingWords start)
    (stated : SpellsSpaced conditionWords condition)
    (rest name : Text) :
    ¬ NamesTable (start ++ condition ++ '(' :: rest) name := by
  rw [← definedName?_eq_some_iff, List.append_assoc]
  have bracket : trimLeft ('(' :: rest) = '(' :: rest :=
    trimLeft_cons_of_not_isBlank rfl rest
  have noWord : identifierBeforeBracket? ('(' :: rest) = none := rfl
  rw [definedName?_append defining
      (stated.trimLeft_append isKeyword_of_mem_conditionWords bracket),
    dropSpaced?_append stated isKeyword_of_mem_conditionWords bracket,
    Option.bind_some, noWord, identifierBeforeBracket?_eq_none_of_condition stated]
  simp

/-- Any word may be the name of a table, the first one of the condition included. -/
theorem namesTable_of_word
    {start name gap : Text}
    (defining : SpellsSpaced definingWords start)
    (named : IsWordRun name)
    (blank : allBlank gap = true)
    (rest : Text) :
    NamesTable (start ++ name ++ gap ++ '(' :: rest) name :=
  ⟨start, [], gap, rest, defining, .inl rfl, named, blank, by simp⟩

/-- The details of a definition without a name tell its place, its line and its text. -/
theorem eq_of_malformedDetails
    {first second : Block}
    (same : malformedDetails first = malformedDetails second) :
    first.order = second.order ∧
      first.lineNumber = second.lineNumber ∧
      first.text = second.text := by
  simpa [malformedDetails, Report.ofText, Text.toOutput, String.ofList_inj] using same

/--
Whether a block is refused wherever it is used as a table definition: by the index, by the
applier and by a resolution.  Each time the block itself is reported, and nothing is done.
-/
structure IsRefused (block : Block) : Prop where
  indexed :
    Index.isDefinition block = true →
    ∀ index rest, Index.addAll index (block :: rest) = .error block
  applied :
    Index.isDefinition block = true →
    ∀ {Cause World : Type}
      (index : Index)
      (action : Action Cause World)
      (session : Session World),
      Applier.applyBlock index action block session =
        .stopped (.malformed block) session
  resolved :
    ∀ {Cause World : Type}
      (index : Index)
      (action : Action Cause World)
      (session : Session World),
      ensureCreated index action block session = .stopped (.malformed block) session

theorem isRefused_iff
    {block : Block} :
    IsRefused block ↔ nameOf? block = none := by
  constructor
  · intro refused
    rw [Option.eq_none_iff_forall_ne_some]
    intro name named
    -- A table of the ledger is not created again, so its definition is not refused.
    let ledger : Ledger := { names := [name], namesDistinct := by simp }
    let session : Session Unit := { ledger := ledger, notes := [], world := () }
    have stopped := refused.resolved { definitions := [] }
      (fun _ later => (.done later : Outcome Empty Unit)) session
    simp [ensureCreated, named, session, ledger] at stopped
  · intro nameless
    exact {
      indexed := by
        intro definition index rest
        rw [Index.addAll, if_pos definition]
        simp only [nameless]
      applied := by
        intro definition Cause World index action session
        have kind := Applier.kind_of_isDefinition definition
        rw [Applier.applyBlock, if_neg kind.2, if_pos kind.1]
        simp only [nameless]
      resolved := by
        intro Cause World index action session
        simp only [ensureCreated, nameless]
    }

/--
A block gives its table the name that stands in its place in the trimmed text, and no text has
two such names.  A block that has none is refused wherever it is used as a definition, and is
reported with its place, its line and its text as it is.  The name may be the word `IF`; a
bracket right behind the condition leaves no name.
-/
theorem own_name_is_exact (block : Block) :
    (∀ name, nameOf? block = some name ↔ NamesTable (trim block.text) name) ∧
      (∀ definition first second,
        NamesTable definition first → NamesTable definition second → first = second) ∧
      ((¬ ∃ name, NamesTable (trim block.text) name) ↔ IsRefused block) ∧
      (malformedDetails block =
          .fields [
            ("order", .number block.order),
            ("line_number", .number block.lineNumber),
            ("statement", .ofText block.text)
          ] ∧
        ∀ other,
          malformedDetails other = malformedDetails block →
          other.order = block.order ∧
            other.lineNumber = block.lineNumber ∧
            other.text = block.text) ∧
      ∀ start,
        SpellsSpaced definingWords start →
        (∀ gap rest,
          allBlank gap = true →
          NamesTable (start ++ "IF".toList ++ gap ++ '(' :: rest) "IF".toList) ∧
          ∀ condition rest,
            SpellsSpaced conditionWords condition →
            ¬ ∃ name, NamesTable (start ++ condition ++ '(' :: rest) name := by
  have agrees (name : Text) :
      nameOf? block = some name ↔ NamesTable (trim block.text) name :=
    definedName?_eq_some_iff
  have letters : "IF".toList.all isWord = true := by
    decide
  have isWordRun : IsWordRun "IF".toList :=
    ⟨by decide, List.all_eq_true.mp letters⟩
  refine ⟨agrees, fun _ _ _ => NamesTable.unique, ?_, ⟨rfl, fun _ => eq_of_malformedDetails⟩,
    ?_⟩
  · rw [isRefused_iff, Option.eq_none_iff_forall_ne_some, not_exists]
    exact forall_congr' fun name => not_congr (agrees name).symm
  · intro start defining
    constructor
    · intro gap rest blank
      exact namesTable_of_word defining isWordRun blank rest
    · rintro condition rest stated ⟨name, names⟩
      exact not_namesTable_of_bracket defining stated rest name names

/-- With a bracket right behind it, the first word of the condition is a name. -/
example :
    definedName? "CREATE TABLE if(id INT)".toList = some "if".toList := by
  decide +kernel

/-- Behind the condition, its first word is a name as well. -/
example :
    definedName? "CREATE TABLE IF NOT EXISTS IF (id INT)".toList = some "IF".toList := by
  decide +kernel

end TenantSchema.Table
