import TenantSchema.Proofs.Provision.Protocol
import TenantSchema.Proofs.Script.DatabaseStatement
import TenantSchema.Proofs.Text.Replacement

namespace TenantSchema

/-!
# The name of the database

An accepted name is a clean one that a newline may follow.  The statement that creates the
database carries the clean name, but the connection to the new catalog and the result carry
the name as it was given: the run creates the database that it fills exactly if no newline
follows the name.
-/

/-- Whether an error refuses what a run was called with, whatever the script says. -/
def RunError.RefusesArguments : RunError → Prop
  | .invalidName _ | .nameless | .substitution _ =>
      True
  | .script _ | .noDatabase | .unhandled _ =>
      False

namespace Provision

open Text

/-- A name of letters, digits and underscores that is neither empty nor too long. -/
structure CleanName (name : Text) : Prop where
  nonempty :
    name ≠ []
  short :
    name.length ≤ longestName
  characters :
    ∀ character ∈ name, isNameCharacter character = true

theorem isBlank_of_isNameCharacter
    {character : Char}
    (belongs : isNameCharacter character = true) :
    isBlank character = false := by
  rw [isNameCharacter, Bool.or_eq_true, beq_iff_eq] at belongs
  rcases belongs with alphanumeric | rfl
  · have range := toNat_of_isAlphanum alphanumeric
    simp only [isBlank, Bool.or_eq_false_iff, Bool.and_eq_false_iff,
      decide_eq_false_iff_not, beq_eq_false_iff_ne]
    omega
  · rfl

namespace CleanName

variable {clean : Text}

theorem not_blank
    (isClean : CleanName clean) :
    ∀ character ∈ clean, isBlank character = false :=
  fun character member =>
    isBlank_of_isNameCharacter (isClean.characters character member)

theorem newline_not_mem
    (isClean : CleanName clean) :
    '\n' ∉ clean := by
  intro member
  have notBlank := isClean.not_blank '\n' member
  cases notBlank

/-- Trimming takes off white space that follows a clean name, and nothing of the name. -/
theorem trim_append
    (isClean : CleanName clean)
    {blanks : Text}
    (blank : allBlank blanks = true) :
    trim (clean ++ blanks) = clean :=
  trim_append_of_allBlank isClean.nonempty isClean.not_blank blank

theorem trim_eq
    (isClean : CleanName clean) :
    trim clean = clean := by
  have nothing : allBlank [] = true := rfl
  simpa using isClean.trim_append nothing

end CleanName

/-- A name is accepted if it is clean, and if it is a clean one with a newline after it. -/
theorem isValidName_iff
    {name : Text} :
    isValidName name = true ↔
      ∃ clean, CleanName clean ∧ (name = clean ∨ name = clean ++ ['\n']) := by
  constructor
  · intro accepted
    simp only [isValidName, Bool.and_eq_true, Bool.or_eq_true, decide_eq_true_eq,
      beq_iff_eq] at accepted
    obtain ⟨⟨nonempty, short⟩, remaining⟩ := accepted
    have parts : name.takeWhile isNameCharacter ++ name.dropWhile isNameCharacter = name :=
      List.takeWhile_append_dropWhile
    refine ⟨name.takeWhile isNameCharacter, ⟨?_, short, ?_⟩, ?_⟩
    · exact List.ne_nil_of_length_pos nonempty
    · intro character member
      exact List.all_eq_true.mp List.all_takeWhile character member
    · rcases remaining with nothing | newline
      · left
        rw [nothing, List.append_nil] at parts
        exact parts.symm
      · right
        rw [newline] at parts
        exact parts.symm
  · rintro ⟨clean, isClean, spelled⟩
    have accepts (rest : Text) (stops : rest = [] ∨ rest = ['\n']) :
        isValidName (clean ++ rest) = true := by
      have noMore : rest.takeWhile isNameCharacter = [] := by
        rcases stops with rfl | rfl <;> decide
      have unread : rest.dropWhile isNameCharacter = rest := by
        rcases stops with rfl | rfl <;> decide
      have positive := List.length_pos_iff.mpr isClean.nonempty
      have short := isClean.short
      simp only [isValidName,
        List.takeWhile_append_of_pos isClean.characters,
        List.dropWhile_append_of_pos isClean.characters, noMore, unread,
        List.append_nil, Bool.and_eq_true, Bool.or_eq_true, decide_eq_true_eq,
        beq_iff_eq]
      exact ⟨⟨positive, short⟩, stops⟩
    rcases spelled with rfl | rfl
    · simpa using accepts [] (.inl rfl)
    · exact accepts ['\n'] (.inr rfl)

/-- An accepted name is clean once it is trimmed. -/
theorem cleanName_trim
    {name : Text}
    (accepted : isValidName name = true) :
    CleanName (trim name) := by
  obtain ⟨clean, isClean, rfl | rfl⟩ := isValidName_iff.mp accepted
  · rw [isClean.trim_eq]
    exact isClean
  · rw [isClean.trim_append rfl]
    exact isClean

/-- A name that is trimmed and accepted is clean, and a clean one has no newline. -/
theorem cleanName_iff
    {name : Text}
    (accepted : isValidName name = true) :
    CleanName name ↔ '\n' ∉ name := by
  constructor
  · exact CleanName.newline_not_mem
  · intro noNewline
    obtain ⟨clean, isClean, rfl | rfl⟩ := isValidName_iff.mp accepted
    · exact isClean
    · simp at noNewline

/--
Which names a run uses: one in the place of the placeholder in the statement that creates the
database, and one for the connection that fills it and for the result.
-/
structure UsesNames
    (settings : RunSettings)
    (script : Text)
    (created filled : Text)
    (run : ProvisionRun) : Prop where
  statement :
    ∀ text succeeded,
      ⟨.execute none text, succeeded⟩ ∈ run.history →
      ∃ line ∈ Text.lines script,
        Script.CreatesDatabase settings.placeholder line ∧
          ∀ target,
            text = Script.databaseStatement settings.placeholder target line ↔
              target = created
  catalog :
    ∀ event ∈ run.history,
      event.call.catalog = none ∨ event.call.catalog = some filled
  result :
    ∀ result, run.outcome = .ok result → result.name = filled

section

variable
  {factory : ConnectionFactory}
  {settings : RunSettings}
  {script : Text}
  {name : Option Text}

theorem CarriesOut.name_of_ok
    {previewLimit : Int}
    {prepared : Prepared}
    {conversations : List (Option Text × Conversation)}
    {outcome : Except RunError ProvisionResult}
    {result : ProvisionResult}
    (carries :
      CarriesOut factory previewLimit prepared conversations outcome)
    (isResult : outcome = .ok result) :
    result.name = prepared.name := by
  cases carries with
  | notCreated _ fails | notPopulated _ fails =>
      cases fails with
      | reported _ _ =>
          cases isResult
          rfl
      | broken _ =>
          cases isResult
  | populated _ =>
      cases isResult
      rfl

theorem usesNames_of_error
    {error : RunError}
    (created filled : Text)
    (refused : (prepare settings script name).outcome = .error error) :
    UsesNames settings script created filled
      (provisionOver factory settings script name) := by
  obtain ⟨outcome, history⟩ := provisionOver_of_error factory refused
  exact {
    statement := by
      intro text succeeded member
      rw [history] at member
      cases member
    catalog := by
      intro event member
      rw [history] at member
      cases member
    result := by
      intro result isResult
      rw [outcome] at isResult
      cases isResult
  }

/-- The one statement over the administrative connection is that of the prepared run. -/
theorem KeepsProtocol.statement_eq
    {previewLimit : Int}
    {prepared : Prepared}
    {history : History}
    {text : Text}
    {succeeded : Bool}
    (keeps : KeepsProtocol factory previewLimit prepared history)
    (member : ⟨.execute none text, succeeded⟩ ∈ history) :
    text = prepared.database.text := by
  have sent : text ∈ (history.overCatalog none).statements := by
    refine List.mem_filterMap.mpr ⟨_, List.mem_filter.mpr ⟨member, ?_⟩, ?_⟩
    · rfl
    · rfl
  rw [keeps.administrativeStatements] at sent
  split at sent
  · exact List.mem_singleton.mp sent
  · cases sent

theorem usesNames_of_prepared
    {prepared : Prepared}
    (preparation : (prepare settings script name).outcome = .ok prepared) :
    UsesNames settings script (trim prepared.name) prepared.name
      (provisionOver factory settings script name) := by
  obtain ⟨substitution, origin⟩ := exists_preparedFrom preparation
  obtain ⟨_, nonempty, rfl⟩ :=
    Script.Substitution.of?_eq_ok_iff.mp origin.substituted
  have keeps := keepsProtocol_of_prepared factory preparation
  exact {
    statement := by
      intro text succeeded member
      have creates : prepared.database.kind = .createDatabase := by
        simpa using List.find?_some origin.creates
      obtain ⟨line, isLine, opens, sameText⟩ :=
        Script.exists_line_of_read origin.read
          (List.mem_of_find?_eq_some origin.creates) creates
      refine ⟨line, isLine, opens, fun target => ?_⟩
      rw [keeps.statement_eq member, sameText]
      constructor
      · intro same
        exact (replaceAll_injective nonempty opens.carriesPlaceholder same).symm
      · rintro rfl
        rfl
    catalog := keeps.catalogs
    result := by
      intro result isResult
      obtain ⟨conversations, carries, _⟩ :=
        carryOut_cases factory settings.previewLimit prepared
      rw [(provisionOver_of_prepared factory preparation).1] at isResult
      exact carries.name_of_ok isResult
  }

/-- A run that does not refuse its arguments accepts the name that it was given. -/
theorem exists_accepted
    (notRefused :
      ∀ error,
        (prepare settings script name).outcome = .error error →
        ¬ error.RefusesArguments) :
    ∃ given, name = some given ∧ isValidName given = true := by
  cases accepted : name.filter isValidName with
  | some given =>
      exact ⟨given, Option.filter_eq_some_iff.mp accepted⟩
  | none =>
      have refused :
          (prepare settings script name).outcome = .error (.invalidName name) := by
        simp only [prepare, accepted]
      exact (notRefused _ refused trivial).elim

/-- A run puts the trimmed name into the statement, and uses the name as given elsewhere. -/
theorem usesNames_of_named
    (factory : ConnectionFactory)
    {given : Text}
    (named : name = some given) :
    UsesNames settings script (trim given) given
      (provisionOver factory settings script name) := by
  cases preparation : (prepare settings script name).outcome with
  | error error =>
      exact usesNames_of_error _ _ preparation
  | ok prepared =>
      obtain ⟨_, origin⟩ := exists_preparedFrom preparation
      obtain rfl : given = prepared.name :=
        Option.some.inj (named.symm.trans origin.named)
      exact usesNames_of_prepared preparation

end

/--
A run refuses its arguments without a call, or it creates the database of the trimmed name
and fills the one of the name as given.  The name is clean, and these are the same database,
exactly if the name has no newline.
-/
theorem provision_names_database
    (factory : ConnectionFactory)
    (settings : RunSettings)
    (script : Text)
    (name : Option Text) :
    (∃ error,
      (provisionOver factory settings script name).outcome = .error error ∧
        error.RefusesArguments ∧
        (provisionOver factory settings script name).history = []) ∨
      ∃ given,
        name = some given ∧
          CleanName (trim given) ∧
          UsesNames settings script (trim given) given
            (provisionOver factory settings script name) ∧
          (CleanName given ∧
              UsesNames settings script given given
                (provisionOver factory settings script name) ↔
            '\n' ∉ given) := by
  by_cases refused :
      ∃ error,
        (prepare settings script name).outcome = .error error ∧
          error.RefusesArguments
  · obtain ⟨error, isError, refuses⟩ := refused
    obtain ⟨outcome, history⟩ := provisionOver_of_error factory isError
    exact .inl ⟨error, outcome, refuses, history⟩
  · have notRefused :
        ∀ error,
          (prepare settings script name).outcome = .error error →
          ¬ error.RefusesArguments :=
      fun error isError refuses => refused ⟨error, isError, refuses⟩
    obtain ⟨given, named, accepted⟩ := exists_accepted notRefused
    have uses :
        UsesNames settings script (trim given) given
          (provisionOver factory settings script name) :=
      usesNames_of_named factory named
    refine .inr ⟨given, named, cleanName_trim accepted, uses, ?_⟩
    rw [cleanName_iff accepted]
    constructor
    · exact And.left
    · intro noNewline
      have isClean := (cleanName_iff accepted).mpr noNewline
      rw [isClean.trim_eq] at uses
      exact ⟨noNewline, uses⟩

/-- A name that a newline follows. -/
def Sample.openName : Text :=
  Sample.name ++ ['\n']

/-- A run over connections that never fail, with a newline after the name. -/
def Sample.openRun : ProvisionRun :=
  provision .faultless .default Sample.script (some Sample.openName)

/--
A newline after the name is accepted: the database of the name without it is created, and a
connection to the one of the name with it is opened.
-/
theorem newline_after_name_is_accepted :
    (∃ result,
        Sample.openRun.outcome = .ok result ∧ result.name = Sample.openName) ∧
      ⟨.execute none "CREATE DATABASE acme;".toList, true⟩ ∈
        Sample.openRun.history ∧
      ⟨.connect (some "acme\n".toList), true⟩ ∈ Sample.openRun.history ∧
      ¬ CleanName Sample.openName ∧
      ¬ UsesNames .default Sample.script Sample.openName Sample.openName
        Sample.openRun := by
  have observed :
      Sample.openRun.outcome.toOption.map ProvisionResult.name =
          some Sample.openName ∧
        ⟨.execute none "CREATE DATABASE acme;".toList, true⟩ ∈
          Sample.openRun.history ∧
        ⟨.connect (some "acme\n".toList), true⟩ ∈ Sample.openRun.history ∧
        ∀ line ∈ Text.lines Sample.script,
          "CREATE DATABASE acme;".toList ≠
            Script.databaseStatement Script.defaultPlaceholder Sample.openName
              line := by
    decide +kernel
  obtain ⟨reported, executed, connected, otherName⟩ := observed
  refine ⟨?_, executed, connected, ?_, ?_⟩
  · obtain ⟨result, isResult, named⟩ := Option.map_eq_some_iff.mp reported
    exact ⟨result, eq_ok_of_toOption isResult, named⟩
  · intro isClean
    exact isClean.newline_not_mem (by decide)
  · intro uses
    obtain ⟨line, isLine, _, carried⟩ := uses.statement _ _ executed
    exact otherName line isLine ((carried Sample.openName).mpr rfl)

end Provision

end TenantSchema
