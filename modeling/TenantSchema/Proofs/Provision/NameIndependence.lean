import TenantSchema.Command
import TenantSchema.Proofs.Applier.PassedBlocks
import TenantSchema.Proofs.Provision.DatabaseName
import TenantSchema.Proofs.Script.TwoNames

namespace TenantSchema

open Text

/-!
# What the name of the database decides

The name is put into the statement that creates the database, and the applier passes over
that statement.  Two accepted names therefore have one index, one order of the other
statements and one result, and a template that can be planned for one name can be planned for
every name.
-/

/-- The blocks of a script for a name, or why there are none. -/
def blocksFor (placeholder script name : Text) : Except RunError (List Block) :=
  match Script.Substitution.of? name placeholder with
  | .error error =>
      .error (.substitution error)
  | .ok substitution =>
      (Script.read substitution script).blocks.mapError .script

/-- Plans that differ at most in the statement that creates the database. -/
structure Plan.SameButForName (first second : Plan) : Prop where
  success :
    first.result.success = second.result.success
  result :
    first.result = second.result
  blockCount :
    first.blockCount = second.blockCount
  statements :
    ∃ firstCreation secondCreation others,
      first.statements = firstCreation :: others ∧
        second.statements = secondCreation :: others

/-- A block that fills the database has no name in its text. -/
theorem Block.SameButForName.eq_of_fillsDatabase
    {first second : Block}
    (same : first.SameButForName second)
    (fills : first.fillsDatabase = true) :
    first = second := by
  have otherKind : first.kind ≠ .createDatabase := by
    intro creates
    rw [Block.fillsDatabase_eq_false_iff.mpr creates] at fills
    cases fills
  obtain ⟨sameKind, sameOrder, sameLine, sameText⟩ := same
  cases first
  cases second
  simp_all

section

variable
  {first second : Text}
  {firstBlocks secondBlocks : List Block}

theorem not_allBlank_of_isValidName
    (valid : isValidName first = true) :
    allBlank first = false := by
  rw [Bool.eq_false_iff]
  intro blank
  exact (Provision.cleanName_trim valid).nonempty (trim_eq_nil_iff.mpr blank)

/-- Two accepted names give one error, or blocks that differ in the name at most. -/
theorem sameOutcome_blocksFor
    (placeholder script : Text)
    (firstValid : isValidName first = true)
    (secondValid : isValidName second = true) :
    SameOutcome (List.Forall₂ Block.SameButForName)
      (blocksFor placeholder script first) (blocksFor placeholder script second) := by
  rw [blocksFor, blocksFor, Script.Substitution.of?, Script.Substitution.of?,
    not_allBlank_of_isValidName firstValid, not_allBlank_of_isValidName secondValid]
  cases placeholder.isEmpty with
  | true =>
      exact .error _
  | false =>
      have sameRead :=
        Script.sameOutcome_read
          { placeholder := placeholder, target := trim first }
          { placeholder := placeholder, target := trim second }
          rfl script
      exact sameRead.mapError RunError.script

theorem isSome_find?_createDatabase
    (same : List.Forall₂ Block.SameButForName firstBlocks secondBlocks) :
    (firstBlocks.find? (·.kind == .createDatabase)).isSome =
      (secondBlocks.find? (·.kind == .createDatabase)).isSome := by
  induction same with
  | nil =>
      rfl
  | cons sameHead _ inductionHypothesis =>
      rw [List.find?_cons, List.find?_cons, sameHead.kind]
      split
      · rfl
      · exact inductionHypothesis

/-- The blocks that fill the database do not depend on the name. -/
theorem filter_fillsDatabase_eq
    (same : List.Forall₂ Block.SameButForName firstBlocks secondBlocks) :
    firstBlocks.filter Block.fillsDatabase = secondBlocks.filter Block.fillsDatabase := by
  induction same with
  | nil =>
      rfl
  | @cons firstBlock secondBlock _ _ sameHead _ inductionHypothesis =>
      have sameTest : firstBlock.fillsDatabase = secondBlock.fillsDatabase := by
        rw [Block.fillsDatabase, Block.fillsDatabase, sameHead.kind]
      cases fills : firstBlock.fillsDatabase with
      | true =>
          have sameBlock : firstBlock = secondBlock := sameHead.eq_of_fillsDatabase fills
          rw [List.filter_cons_of_pos fills, List.filter_cons_of_pos (sameTest ▸ fills),
            inductionHypothesis, sameBlock]
      | false =>
          rw [List.filter_cons_of_neg (by simp [fills]),
            List.filter_cons_of_neg (by simp [← sameTest, fills]), inductionHypothesis]

theorem rehearse_eq
    (same : List.Forall₂ Block.SameButForName firstBlocks secondBlocks) :
    rehearse firstBlocks = rehearse secondBlocks := by
  rw [rehearse, ← Applier.run_filter_fillsDatabase, filter_fillsDatabase_eq same,
    Applier.run_filter_fillsDatabase]
  rfl

/-- A run over blocks, if one of them creates the database. -/
def preparedWith (name : Text) (blocks : List Block) : Except RunError Prepared :=
  match blocks.find? (·.kind == .createDatabase) with
  | none =>
      .error .noDatabase
  | some database =>
      .ok { name := name, blocks := blocks, database := database }

theorem prepare_of_isValidName
    (settings : RunSettings)
    (script : Text)
    (valid : isValidName first = true) :
    (prepare settings script (some first)).outcome =
      (blocksFor settings.placeholder script first).bind (preparedWith first) := by
  unfold prepare blocksFor
  rw [Option.filter_some, valid, if_pos rfl]
  dsimp only
  cases Script.Substitution.of? first settings.placeholder with
  | error error =>
      rfl
  | ok substitution =>
      dsimp only
      cases (Script.read substitution script).blocks with
      | error error =>
          rfl
      | ok blocks =>
          simp only [Except.mapError, Except.bind, preparedWith]
          cases blocks.find? (·.kind == .createDatabase) with
          | none | some _ =>
              rfl

/-- Runs that are prepared for two accepted names differ in the name at most. -/
theorem sameOutcome_prepare
    (settings : RunSettings)
    (script : Text)
    (firstValid : isValidName first = true)
    (secondValid : isValidName second = true) :
    SameOutcome
      (fun firstPrepared secondPrepared =>
        List.Forall₂ Block.SameButForName firstPrepared.blocks secondPrepared.blocks)
      (prepare settings script (some first)).outcome
      (prepare settings script (some second)).outcome := by
  rw [prepare_of_isValidName settings script firstValid,
    prepare_of_isValidName settings script secondValid]
  have sameBlocks :=
    sameOutcome_blocksFor settings.placeholder script firstValid secondValid
  rcases sameBlocks.error_or_ok with
    ⟨error, firstBlocks, secondBlocks⟩ |
    ⟨firstBlocks, secondBlocks, firstRead, secondRead, same⟩
  · rw [firstBlocks, secondBlocks]
    exact .error error
  · rw [firstRead, secondRead]
    have bothCreate := isSome_find?_createDatabase same
    simp only [Except.bind, preparedWith]
    cases firstCreates : firstBlocks.find? (·.kind == .createDatabase) with
    | none =>
        rw [firstCreates] at bothCreate
        cases secondCreates : secondBlocks.find? (·.kind == .createDatabase) with
        | none =>
            exact .error _
        | some database =>
            rw [secondCreates] at bothCreate
            cases bothCreate
    | some database =>
        rw [firstCreates] at bothCreate
        cases secondCreates : secondBlocks.find? (·.kind == .createDatabase) with
        | none =>
            rw [secondCreates] at bothCreate
            cases bothCreate
        | some other =>
            exact .ok same

/-- Plans for two accepted names differ in the creation of the database at most. -/
theorem sameOutcome_plan
    (settings : RunSettings)
    (script : Text)
    (firstValid : isValidName first = true)
    (secondValid : isValidName second = true) :
    SameOutcome Plan.SameButForName
      (plan settings script (some first)).outcome
      (plan settings script (some second)).outcome := by
  have samePreparations := sameOutcome_prepare settings script firstValid secondValid
  rcases samePreparations.error_or_ok with
    ⟨error, firstRefused, secondRefused⟩ |
    ⟨firstPrepared, secondPrepared, firstPreparation, secondPreparation, sameBlocks⟩
  · rw [plan_of_error firstRefused, plan_of_error secondRefused]
    exact .error error
  · obtain ⟨firstResult, firstRehearsed, firstPlanned⟩ :=
      exists_plan_of_prepared firstPreparation
    obtain ⟨secondResult, secondRehearsed, secondPlanned⟩ :=
      exists_plan_of_prepared secondPreparation
    have sameRehearsal := rehearse_eq sameBlocks
    have samePlanned :
        Applier.plannedStatements firstPrepared.blocks =
          Applier.plannedStatements secondPrepared.blocks := by
      rw [Applier.plannedStatements, sameRehearsal, Applier.plannedStatements]
    rw [sameRehearsal, secondRehearsed] at firstRehearsed
    cases firstRehearsed
    rw [firstPlanned, secondPlanned, samePlanned]
    exact .ok ⟨rfl, rfl, sameBlocks.length_eq, _, _, _, rfl, rfl⟩

end

namespace Command

/-- Whether a command line checks a template, named or configured, with a database name. -/
def ChecksWith (arguments : List Text) (named : Option Text) (name : Text) : Prop :=
  ∃ given,
    Options.read checkOptions arguments = .given given ∧
      given.value? template = named ∧
      givenName given checkedDatabase = some name

theorem isSuccess_withField
    {name : String}
    (other : name ≠ "success")
    (report value : Report) :
    isSuccess (report.withField name value) = isSuccess report := by
  rw [isSuccess, isSuccess, Report.field?_withField_of_ne other]

theorem isSuccess_withoutField
    {name : String}
    (other : name ≠ "success")
    (report : Report) :
    isSuccess (report.withoutField name) = isSuccess report := by
  cases report with
  | fields entries =>
      have sameTest :
          (fun entry : String × Report =>
              decide ((entry.1 != name) = true ∧ (entry.1 == "success") = true)) =
            fun entry => entry.1 == "success" := by
        funext entry
        by_cases success : entry.1 = "success"
        · simp [success, Ne.symm other]
        · simp [success]
      simp only [isSuccess, Report.withoutField, Report.field?, List.find?_filter, sameTest]
  | null | bool | number | text | list =>
      rfl

/-- The exit code of a command says no more than whether its report is good. -/
theorem ended_conclude
    (level : Nat)
    (attempt : Attempt)
    (failureWords : Option String) :
    (conclude level attempt failureWords).ended =
      match attempt.report.map isSuccess with
      | .error error =>
          .error error
      | .ok success =>
          .exit (if success then 0 else 1) := by
  cases reported : attempt.report with
  | error | ok =>
      simp only [conclude, reported, Except.map]

/-- Planning a template comes to one verdict for all accepted names. -/
theorem verdict_planAttempt
    {first second : Text}
    (surrounding : Surrounding)
    (config : Config)
    (path : Path)
    (firstValid : isValidName first = true)
    (secondValid : isValidName second = true) :
    (planAttempt surrounding config path (some first)).report.map isSuccess =
      (planAttempt surrounding config path (some second)).report.map isSuccess := by
  simp only [planAttempt, withTemplate]
  cases Template.load surrounding.files path with
  | error error =>
      rfl
  | ok script =>
      dsimp only
      have samePlans := sameOutcome_plan config.runSettings script firstValid secondValid
      rcases samePlans.error_or_ok with
        ⟨error, firstRefused, secondRefused⟩ |
        ⟨firstPlan, secondPlan, firstPlanned, secondPlanned, same⟩
      · rw [firstRefused, secondRefused]
      · rw [firstPlanned, secondPlanned]
        exact congrArg Except.ok same.success

theorem ended_checkTemplate
    (surrounding : Surrounding)
    {arguments : List Text}
    {given : Options.Given}
    (reads : Options.read checkOptions arguments = .given given) :
    (checkTemplate surrounding arguments).ended =
      match Config.load surrounding.files surrounding.root surrounding.environment
          (Config.packagedPath surrounding.root) with
      | .error error =>
          .error (.config error)
      | .ok config =>
          match
            (planAttempt surrounding config (templatePath given config)
              (givenName given checkedDatabase)).report.map isSuccess with
          | .error error =>
              .error error
          | .ok success =>
              .exit (if success then 0 else 1) := by
  simp only [checkTemplate, withOptions, reads, withConfig]
  cases Config.load surrounding.files surrounding.root surrounding.environment
      (Config.packagedPath surrounding.root) with
  | error error =>
      rfl
  | ok config =>
      dsimp only
      rw [ended_conclude]
      cases (planAttempt surrounding config (templatePath given config)
          (givenName given checkedDatabase)).report with
      | error error =>
          rfl
      | ok report =>
          simp only [Except.map]
          rw [isSuccess_withField (by decide)]
          split
          · rfl
          · rw [isSuccess_withoutField (by decide)]

end Command

/--
The name of the database decides nothing but the text of the statement that creates it: two
accepted names give one error, or blocks and plans that agree in all else, and a check of the
template ends in the same way for both.
-/
theorem name_decides_only_creation
    (settings : RunSettings)
    (script : Text)
    {first second : Text}
    (firstValid : isValidName first = true)
    (secondValid : isValidName second = true) :
    SameOutcome (List.Forall₂ Block.SameButForName)
        (blocksFor settings.placeholder script first)
        (blocksFor settings.placeholder script second) ∧
      SameOutcome Plan.SameButForName
        (plan settings script (some first)).outcome
        (plan settings script (some second)).outcome ∧
      ∀ surrounding firstArguments secondArguments named,
        Command.ChecksWith firstArguments named first →
        Command.ChecksWith secondArguments named second →
        (Command.checkTemplate surrounding firstArguments).ended =
          (Command.checkTemplate surrounding secondArguments).ended := by
  refine ⟨sameOutcome_blocksFor _ script firstValid secondValid,
    sameOutcome_plan settings script firstValid secondValid, ?_⟩
  rintro surrounding firstArguments secondArguments named
    ⟨firstGiven, firstReads, firstNamed, firstName⟩
    ⟨secondGiven, secondReads, secondNamed, secondName⟩
  rw [Command.ended_checkTemplate surrounding firstReads,
    Command.ended_checkTemplate surrounding secondReads, firstName, secondName]
  have samePath (config : Config) :
      Command.templatePath firstGiven config = Command.templatePath secondGiven config := by
    rw [Command.templatePath, Command.templatePath, firstNamed, secondNamed]
  cases Config.load surrounding.files surrounding.root surrounding.environment
      (Config.packagedPath surrounding.root) with
  | error error =>
      rfl
  | ok config =>
      dsimp only
      rw [samePath, Command.verdict_planAttempt surrounding config _ firstValid secondValid]

/-- The name that checks use stands for the name of any tenant. -/
theorem checked_name_stands_for_tenant :
    isValidName Command.checkedDatabase = true ∧
      isValidName Provision.Sample.name = true ∧
      (∃ planned,
        (plan .default Provision.Sample.script (some Provision.Sample.name)).outcome =
          .ok planned) ∧
      SameOutcome (List.Forall₂ Block.SameButForName)
        (blocksFor Script.defaultPlaceholder Provision.Sample.script Command.checkedDatabase)
        (blocksFor Script.defaultPlaceholder Provision.Sample.script Provision.Sample.name) ∧
      SameOutcome Plan.SameButForName
        (plan .default Provision.Sample.script (some Command.checkedDatabase)).outcome
        (plan .default Provision.Sample.script (some Provision.Sample.name)).outcome ∧
      ∀ surrounding,
        (Command.checkTemplate surrounding []).ended =
          (Command.checkTemplate surrounding
            ["--database-name".toList, Provision.Sample.name]).ended := by
  have checkedValid : isValidName Command.checkedDatabase = true := by
    decide
  have nameValid : isValidName Provision.Sample.name = true := by
    decide
  obtain ⟨result, _, planned⟩ := exists_plan_of_prepared Provision.Sample.prepare_script
  obtain ⟨sameBlocks, samePlans, sameEnds⟩ :=
    name_decides_only_creation .default Provision.Sample.script checkedValid nameValid
  have checksDefault : Command.ChecksWith [] none Command.checkedDatabase :=
    ⟨{ values := [], switches := [], extras := [] }, rfl, rfl, rfl⟩
  have checksNamed :
      Command.ChecksWith ["--database-name".toList, Provision.Sample.name] none
        Provision.Sample.name := by
    refine ⟨{
      values := [(Command.databaseName, some Provision.Sample.name)]
      switches := []
      extras := []
    }, ?_, ?_, ?_⟩ <;>
      decide +kernel
  exact ⟨checkedValid, nameValid, ⟨_, planned⟩, sameBlocks, samePlans, fun surrounding =>
    sameEnds surrounding _ _ none checksDefault checksNamed⟩

end TenantSchema
