import TenantSchema.Command
import TenantSchema.Proofs.Provision.Preparation
import TenantSchema.Template.Packaged

namespace TenantSchema

/-!
# Checking and planning

A check of a template and a plan of a run go one way: load the template, plan it with the name of
the database, report.  Both always have a report to print, which says whether it is good, and the
report of the check says in addition where the template is.
-/

/-- Whether a report says if it is good, and says nothing of where a template is. -/
structure Report.IsVerdict (report : Report) (success : Bool) : Prop where
  tells :
    report.field? "success" = some (.bool success)
  pathless :
    ∃ entries, report = .fields entries ∧ ∀ entry ∈ entries, entry.1 ≠ "template_path"

namespace Report

/-- The report of an error says that it is not good. -/
theorem isVerdict_ofError
    (kind diagnostic : String)
    (details : Report) :
    (ofError kind diagnostic details).IsVerdict false where
  tells := rfl
  pathless := ⟨_, rfl, by simp⟩

/-- The report of a template that cannot be read says that it is not good. -/
theorem isVerdict_loadError (error : Template.LoadError) : error.report.IsVerdict false := by
  cases error with
  | impossibleName | unreadableFile | undecodable =>
      exact isVerdict_ofError _ _ _

/-- The report of a plan says whether the plan can be carried out. -/
theorem isVerdict_plan (plan : Plan) : plan.report.IsVerdict plan.result.success where
  tells := rfl
  pathless := ⟨_, rfl, by simp⟩

section

variable
  {report value : Report}
  {success : Bool}

/-- A field that is added to a verdict and taken away again leaves the verdict. -/
theorem IsVerdict.withoutField_withField
    (verdict : report.IsVerdict success)
    (value : Report) :
    (report.withField "template_path" value).withoutField "template_path" = report := by
  obtain ⟨entries, rfl, pathless⟩ := verdict.pathless
  have kept : entries.filter (·.1 != "template_path") = entries := by
    rw [List.filter_eq_self]
    intro entry member
    rw [bne_iff_ne]
    exact pathless entry member
  rw [withField, withoutField, List.filter_append, kept]
  simp

theorem IsVerdict.field?_withField
    (verdict : report.IsVerdict success)
    (value : Report) :
    (report.withField "template_path" value).field? "template_path" = some value := by
  obtain ⟨entries, rfl, pathless⟩ := verdict.pathless
  have absent : entries.find? (·.1 == "template_path") = none := by
    rw [List.find?_eq_none]
    intro entry member
    rw [beq_iff_eq]
    exact pathless entry member
  simp [withField, field?, List.find?_append, absent]

end

end Report

section

variable
  {settings : RunSettings}
  {script : Text}
  {name : Option Text}
  {error : RunError}

/-- An error that keeps a run from being prepared has a report. -/
theorem exists_report_of_prepare_error
    (refused : (prepare settings script name).outcome = .error error) :
    ∃ report, error.report? = some report ∧ report.IsVerdict false := by
  unfold prepare at refused
  dsimp only at refused
  split at refused
  case h_1 =>
    cases refused
    exact ⟨_, rfl, Report.isVerdict_ofError _ _ _⟩
  case h_2 =>
    split at refused
    case h_1 =>
      cases refused
      exact ⟨_, rfl, Report.isVerdict_ofError _ _ _⟩
    case h_2 substitution _ =>
      cases blocks : (Script.read substitution script).blocks with
      | error failure =>
          rw [blocks] at refused
          cases refused
          exact ⟨_, rfl, Report.isVerdict_ofError _ _ _⟩
      | ok blocks' =>
          rw [blocks] at refused
          dsimp only at refused
          split at refused
          · cases refused
            exact ⟨_, rfl, Report.isVerdict_ofError _ _ _⟩
          · cases refused

end

namespace Command

/--
What a command does that ends with a report: it prints the report, ends with the code that the
report calls for, and makes no call to a server.
-/
structure EndsWithReport (run : CommandRun) (report : Report) (success : Bool) : Prop where
  printed :
    run.output = report.render 0 ++ "\n"
  tells :
    report.field? "success" = some (.bool success)
  code :
    run.ended = .exit (if success then 0 else 1)
  unconnected :
    run.history = []

/--
Whether a command line of provisioning asks for a plan with a template, named or configured, and
the given value for the name of the database, and leaves the log level alone.
-/
def PlansWith (arguments : List Text) (named name : Option Text) : Prop :=
  ∃ given,
    Options.read provisionOptions arguments = .given given ∧
      given.has dryRun = true ∧
      given.value? logLevel = none ∧
      given.value? template = named ∧
      given.argument? databaseName = some name

/--
Whether a command line checks a template, named or configured, with the given value for the name
of the database, and asks for the statements.
-/
def ShowsWith (arguments : List Text) (named name : Option Text) : Prop :=
  ∃ given,
    Options.read checkOptions arguments = .given given ∧
      given.has showStatements = true ∧
      given.value? template = named ∧
      given.argument? databaseName = some name

/-- The argument that gives an option its value. -/
def assigned (option value : Text) : Text :=
  option ++ '=' :: value

/-- Every template and every name can be given to a plan. -/
theorem plansWith_assigned (path name : Text) :
    PlansWith [assigned template path, assigned databaseName name, dryRun]
      (if path = Options.separator then none else some path)
      (if name = Options.separator then none else some name) :=
  ⟨{
    values := [
      (databaseName, if name = Options.separator then none else some name),
      (template, if path = Options.separator then none else some path)
    ]
    switches := [dryRun]
    extras := []
  }, rfl, rfl, rfl, rfl, rfl⟩

/-- Every template and every name can be given to a check. -/
theorem showsWith_assigned (path name : Text) :
    ShowsWith [assigned template path, assigned databaseName name, showStatements]
      (if path = Options.separator then none else some path)
      (if name = Options.separator then none else some name) :=
  ⟨{
    values := [
      (databaseName, if name = Options.separator then none else some name),
      (template, if path = Options.separator then none else some path)
    ]
    switches := [showStatements]
    extras := []
  }, rfl, rfl, rfl, rfl⟩

/-- Planning always comes to a report. -/
theorem exists_report_of_plan
    (settings : RunSettings)
    (script : Text)
    (name : Option Text) :
    ∃ report success,
      reportOf ((plan settings script name).outcome.map (·.report)) = .ok report ∧
        report.IsVerdict success := by
  cases planned : (plan settings script name).outcome with
  | ok plan =>
      exact ⟨plan.report, plan.result.success, rfl, Report.isVerdict_plan plan⟩
  | error error =>
      obtain ⟨report, reported, verdict⟩ :=
        exists_report_of_prepare_error (prepare_of_plan_error planned)
      refine ⟨report, false, ?_, verdict⟩
      simp only [Except.map, reportOf, reportOfError, reported]

/-- Planning a template makes no call. -/
theorem history_planAttempt
    (surrounding : Surrounding)
    (config : Config)
    (path : Path)
    (name : Option Text) :
    (planAttempt surrounding config path name).history = [] := by
  simp only [planAttempt, withTemplate]
  cases Template.load surrounding.files path with
  | error error =>
      rfl
  | ok script =>
      cases name with
      | none | some name =>
          rfl

/-- Planning a template always comes to a report. -/
theorem exists_report_of_planAttempt
    (surrounding : Surrounding)
    (config : Config)
    (path : Path)
    (name : Option Text) :
    ∃ report success,
      (planAttempt surrounding config path name).report = .ok report ∧
        report.IsVerdict success := by
  simp only [planAttempt, withTemplate]
  cases Template.load surrounding.files path with
  | error error =>
      exact ⟨error.report, false, rfl, Report.isVerdict_loadError error⟩
  | ok script =>
      cases name with
      | none =>
          exact ⟨_, false, rfl, Report.isVerdict_ofError _ _ _⟩
      | some name =>
          exact exists_report_of_plan config.runSettings script (some name)

/-- A report that is printed decides the exit code. -/
theorem endsWithReport_conclude
    {attempt : Attempt}
    {report : Report}
    {success : Bool}
    (level : Nat)
    (failureWords : Option String)
    (reported : attempt.report = .ok report)
    (tells : report.field? "success" = some (.bool success))
    (unconnected : attempt.history = []) :
    EndsWithReport (conclude level attempt failureWords) report success where
  printed := by
    simp only [conclude, reported]
  tells := tells
  code := by
    simp only [conclude, reported, isSuccess, tells]
  unconnected := by
    simp only [conclude, unconnected]

/-- The path of the template depends on what names the template alone. -/
theorem templatePath_eq
    {first second : Options.Given}
    (same : first.value? template = second.value? template)
    (config : Config) :
    templatePath first config = templatePath second config := by
  rw [templatePath, templatePath, same]

section

variable
  {surrounding : Surrounding}
  {config : Config}
  {planArguments checkArguments : List Text}
  {named name : Option Text}
  {given : Options.Given}

/-- A command line that asks for a plan with a template and a name makes it. -/
theorem provisionDatabase_of_plansWith
    (loads :
      Config.load surrounding.files surrounding.root surrounding.environment
        (Config.packagedPath surrounding.root) = .ok config)
    (plans : PlansWith planArguments named name)
    (names : given.value? template = named) :
    provisionDatabase surrounding planArguments =
      conclude LogLevel.information
        (planAttempt surrounding config (templatePath given config) name) none := by
  obtain ⟨planning, planReads, plansOnly, levelUnnamed, planNamed, planName⟩ := plans
  have level :
      LogLevel.select (askedLevel planning) (Settings.load surrounding.environment) =
        .ok LogLevel.information := by
    rw [askedLevel, levelUnnamed, plansOnly]
    rfl
  have samePath : templatePath planning config = templatePath given config :=
    templatePath_eq (planNamed.trans names.symm) config
  simp only [provisionDatabase, withOptions, planReads, level, withConfig, loads, plansOnly,
    if_true, givenName, planName, Option.getD_some, samePath]

/-- A command line that shows the statements of a template makes the same plan. -/
theorem checkTemplate_of_showsWith
    (loads :
      Config.load surrounding.files surrounding.root surrounding.environment
        (Config.packagedPath surrounding.root) = .ok config)
    (shows : ShowsWith checkArguments named name)
    (names : given.value? template = named) :
    checkTemplate surrounding checkArguments =
      let path := templatePath given config
      let attempt := planAttempt surrounding config path name
      conclude LogLevel.warning
        { attempt with
          report := attempt.report.map (·.withField "template_path" (.ofText path.text)) }
        (some checkFailed) := by
  obtain ⟨checking, checkReads, showsAll, checkNamed, checkName⟩ := shows
  have samePath : templatePath checking config = templatePath given config :=
    templatePath_eq (checkNamed.trans names.symm) config
  simp only [checkTemplate, withOptions, checkReads, withConfig, loads, showsAll, if_true,
    givenName, checkName, Option.getD_some, samePath]

/-- A plan and a check end with the report that planning comes to. -/
theorem endsWithReport_of_planAttempt
    {report : Report}
    {success : Bool}
    (loads :
      Config.load surrounding.files surrounding.root surrounding.environment
        (Config.packagedPath surrounding.root) = .ok config)
    (plans : PlansWith planArguments named name)
    (shows : ShowsWith checkArguments named name)
    (names : given.value? template = named)
    (reported :
      (planAttempt surrounding config (templatePath given config) name).report = .ok report)
    (verdict : report.IsVerdict success) :
    EndsWithReport (provisionDatabase surrounding planArguments) report success ∧
      EndsWithReport (checkTemplate surrounding checkArguments)
        (report.withField "template_path" (.ofText (templatePath given config).text))
        success := by
  rw [provisionDatabase_of_plansWith loads plans names,
    checkTemplate_of_showsWith loads shows names]
  constructor
  · exact endsWithReport_conclude _ _ reported verdict.tells (history_planAttempt _ _ _ _)
  · apply endsWithReport_conclude
    · rw [reported]
      rfl
    · exact (Report.field?_withField_of_ne (by decide) _ _).trans verdict.tells
    · exact history_planAttempt _ _ _ _

/--
Whenever the configuration loads, a plan and a check of one template with one name end with the
same code and print the same report, but for the path of the template that the check adds; the
code is zero exactly if the report is good, and neither makes a call to the server.
-/
theorem check_agrees_with_plan
    (loads :
      Config.load surrounding.files surrounding.root surrounding.environment
        (Config.packagedPath surrounding.root) = .ok config)
    (plans : PlansWith planArguments named name)
    (shows : ShowsWith checkArguments named name) :
    ∃ planned checked success path,
      EndsWithReport (provisionDatabase surrounding planArguments) planned success ∧
        EndsWithReport (checkTemplate surrounding checkArguments) checked success ∧
        checked.field? "template_path" = some (.ofText path) ∧
        checked.withoutField "template_path" = planned := by
  have ⟨given, _, _, names, _⟩ := shows
  obtain ⟨report, success, reported, verdict⟩ :=
    exists_report_of_planAttempt surrounding config (templatePath given config) name
  obtain ⟨planned, checked⟩ :=
    endsWithReport_of_planAttempt loads plans shows names reported verdict
  exact ⟨report, _, success, _, planned, checked, verdict.field?_withField _,
    verdict.withoutField_withField _⟩

end

namespace Sample

/-- A template of two tables that refer to each other. -/
def circleTemplate : Text :=
  ("CREATE DATABASE __database_name__;\n" ++
    "CREATE TABLE a (b INT REFERENCES b (id)) ENGINE=InnoDB;\n" ++
    "CREATE TABLE b (a INT REFERENCES a (id)) ENGINE=InnoDB;\n").toList

/-- The template next to an ordinary configuration. -/
def circle : Surrounding :=
  {
    files := {
      files := [
        (
          ["configs".toList, "provisioning.yaml".toList],
          Text.Utf8.encode Template.packagedConfig
        ),
        (["circle.sql".toList], Text.Utf8.encode circleTemplate)
      ]
      directories := []
      working := .ofText []
    }
    root := .ofText ".".toList
    environment := .empty
    server := fun _ _ => some (.driver "no server")
  }

def config : Config :=
  {
    templatePath := .ofText Config.defaultTemplate
    placeholder := Script.defaultPlaceholder
    previewLimit := 120
  }

/-- The plan of the template, which stops at the first of the two tables. -/
def circlePlan : Plan :=
  {
    name := "acme".toList
    blockCount := 3
    statements := ["CREATE DATABASE acme;".toList]
    result := {
      failure := some {
        kind := .cyclicDependency
        statement := some "CREATE TABLE a (b INT REFERENCES b (id)) ENGINE=InnoDB;".toList
        diagnostic := "Cyclic foreign-key dependency: a -> b -> a"
      }
      createdTables := []
      executedStatements := 0
    }
  }

end Sample

/-- The circle of a template is reported by a plan and by a check, and both end with one. -/
theorem circle_is_planned_and_checked :
    let path : Text := "circle.sql".toList
    let name : Text := "acme".toList
    let planArguments := [assigned template path, assigned databaseName name, dryRun]
    let checkArguments := [assigned template path, assigned databaseName name, showStatements]
    let planRun := provisionDatabase Sample.circle planArguments
    let checkRun := checkTemplate Sample.circle checkArguments
    let report := Sample.circlePlan.report
    Config.load Sample.circle.files Sample.circle.root Sample.circle.environment
        (Config.packagedPath Sample.circle.root) = .ok Sample.config ∧
      PlansWith planArguments (some path) (some name) ∧
      ShowsWith checkArguments (some path) (some name) ∧
      planRun.ended = .exit 1 ∧
      planRun.output = report.render 0 ++ "\n" ∧
      checkRun.ended = .exit 1 ∧
      checkRun.output =
        (report.withField "template_path" (.ofText path)).render 0 ++ "\n" ∧
      ∃ planned checked named,
        EndsWithReport planRun planned false ∧
          EndsWithReport checkRun checked false ∧
          checked.field? "template_path" = some (.ofText named) ∧
          checked.withoutField "template_path" = planned := by
  intro path name planArguments checkArguments planRun checkRun report
  have kept :
      (Config.load Sample.circle.files Sample.circle.root Sample.circle.environment
        (Config.packagedPath Sample.circle.root)).toOption = some Sample.config := by
    decide +kernel
  have loads := eq_ok_of_toOption kept
  have plans := plansWith_assigned path name
  have shows := showsWith_assigned path name
  have read :
      (Template.load Sample.circle.files (.ofText path)).toOption =
        some Sample.circleTemplate := by
    decide +kernel
  have planned :
      (plan Sample.config.runSettings Sample.circleTemplate (some name)).outcome.toOption =
        some Sample.circlePlan := by
    decide +kernel
  have reported :
      (planAttempt Sample.circle Sample.config (.ofText path) (some name)).report =
        .ok report := by
    simp only [planAttempt, withTemplate, eq_ok_of_toOption read, eq_ok_of_toOption planned]
    rfl
  have ⟨given, _, _, names, _⟩ := shows
  have samePath : templatePath given Sample.config = .ofText path := by
    rw [templatePath, names]
    rfl
  rw [← samePath] at reported
  obtain ⟨planEnds, checkEnds⟩ :=
    endsWithReport_of_planAttempt loads plans shows names reported
      (Report.isVerdict_plan Sample.circlePlan)
  rw [samePath] at checkEnds
  obtain ⟨planned, checked, success, named, planTells, checkTells, sameField, sameReport⟩ :=
    check_agrees_with_plan loads plans shows
  have failed : success = false := by
    have code := planTells.code.symm.trans planEnds.code
    cases success with
    | false =>
        rfl
    | true =>
        cases code
  rw [failed] at planTells checkTells
  exact ⟨loads, plans, shows, planEnds.code, planEnds.printed, checkEnds.code,
    checkEnds.printed, planned, checked, named, planTells, checkTells, sameField, sameReport⟩

end Command

end TenantSchema
