import TenantSchema.Config
import TenantSchema.LogLevel
import TenantSchema.Options
import TenantSchema.Report

/-!
# Commands

Two commands work on a template: one provisions a database, or prints the plan of it, and the
other checks that a template can be planned.  Both print one report and say by their exit code
whether it is good.
-/

namespace TenantSchema

/-- What a command finds around it. -/
structure Surrounding where
  files : FileTree
  root : Path
  environment : Environment
  server : Server

/-- An error that ends a command without a report. -/
inductive CommandError where
  | logging (error : LoggingError)
  | config (error : ConfigError)
  | unhandled (message : String)
  deriving Repr, DecidableEq

/-- The wording of an error. -/
def CommandError.message : CommandError → String
  | .logging error =>
      error.message
  | .config error =>
      error.message
  | .unhandled message =>
      message

/-- How a command ends. -/
inductive Ended where
  | exit (code : Nat)
  | error (error : CommandError)

/-- What a command does: how it ends, what it prints, and what it did on the way. -/
structure CommandRun where
  ended : Ended
  output : String
  lastWords : Option String
  logLevel : Option Nat
  history : History
  notes : List Note

namespace Command

/-- The exit code of a command line that is refused. -/
def refusedCode : Nat :=
  2

/-- The option that names the database. -/
def databaseName : Text :=
  "--database-name".toList

/-- The option that names the template. -/
def template : Text :=
  "--template".toList

/-- The option that asks for a plan. -/
def dryRun : Text :=
  "--dry-run".toList

/-- The option that overrides the log level. -/
def logLevel : Text :=
  "--log-level".toList

/-- The option that shows the planned statements. -/
def showStatements : Text :=
  "--show-statements".toList

/-- The options of provisioning. -/
def provisionOptions : List OptionSpec :=
  [
    { name := databaseName, takesValue := true, isRequired := true },
    { name := template, takesValue := true, isRequired := false },
    { name := dryRun, takesValue := false, isRequired := false },
    { name := logLevel, takesValue := true, isRequired := false }
  ]

/-- The options of checking a template. -/
def checkOptions : List OptionSpec :=
  [
    { name := template, takesValue := true, isRequired := false },
    { name := databaseName, takesValue := true, isRequired := false },
    { name := showStatements, takesValue := false, isRequired := false }
  ]

/-- The name of the command that provisions a database. -/
def provisionName : String :=
  "provision_database"

/-- The name of the command that checks a template. -/
def checkName : String :=
  "check_template"

/-- The name of the database that a template is checked with. -/
def checkedDatabase : Text :=
  "template_check".toList

/-- The last words of a check that failed. -/
def checkFailed : String :=
  "Template check failed. Fix the template before provisioning tenants."

/-- A command that ends before it did anything. -/
def endedEarly (ended : Ended) (lastWords : Option String) (level : Option Nat) :
    CommandRun :=
  {
    ended := ended
    output := ""
    lastWords := lastWords
    logLevel := level
    history := []
    notes := []
  }

/-- The path of the template: the one that is named, or the configured one. -/
def templatePath (given : Options.Given) (config : Config) : Path :=
  match given.value? template with
  | some (first :: others) =>
      .ofText (first :: others)
  | _ =>
      config.templatePath

/-- A report that a command prints, or what ended it before. -/
structure Attempt where
  report : Except CommandError Report
  history : History
  notes : List Note

/-- The report of an error of a run, or what it ends a command with. -/
def reportOfError (error : RunError) : Except CommandError Report :=
  match error.report? with
  | some report =>
      .ok report
  | none =>
      .error (.unhandled error.message)

/-- What a report or an error of a run comes to. -/
def reportOf (outcome : Except RunError Report) : Except CommandError Report :=
  match outcome with
  | .ok report =>
      .ok report
  | .error error =>
      reportOfError error

/-- Load a template and go on with it and the name of the database, which has to be there. -/
def withTemplate
    (surrounding : Surrounding)
    (path : Path)
    (name : Option Text)
    (go : (script name : Text) → Attempt) :
    Attempt :=
  match Template.load surrounding.files path, name with
  | .error error, _ =>
      { report := .ok error.report, history := [], notes := [] }
  | .ok _, none =>
      { report := reportOfError .nameless, history := [], notes := [] }
  | .ok script, some name =>
      go script name

/-- Plan a run of the template at a path. -/
def planAttempt
    (surrounding : Surrounding)
    (config : Config)
    (path : Path)
    (name : Option Text) :
    Attempt :=
  withTemplate surrounding path name fun script name =>
    let planning := plan config.runSettings script (some name)
    {
      report := reportOf (planning.outcome.map (·.report))
      history := []
      notes := planning.notes
    }

/-- Provision a database from the template at a path. -/
def provisionAttempt
    (surrounding : Surrounding)
    (config : Config)
    (path : Path)
    (name : Option Text) :
    Attempt :=
  withTemplate surrounding path name fun script name =>
    let run := provision surrounding.server config.runSettings script (some name)
    {
      report := reportOf (run.outcome.map fun result => result.report false)
      history := run.history
      notes := run.notes
    }

/-- Whether a report tells of a success. -/
def isSuccess (report : Report) : Bool :=
  match report.field? "success" with
  | some (.bool success) =>
      success
  | _ =>
      false

/-- Print a report and end with the code that it calls for. -/
def conclude (level : Nat) (attempt : Attempt) (failureWords : Option String) : CommandRun :=
  let (ended, output, lastWords) :=
    match attempt.report with
    | .error error =>
        (Ended.error error, "", none)
    | .ok report =>
        let success := isSuccess report
        (
          Ended.exit (if success then 0 else 1),
          report.render 0 ++ "\n",
          if success then none else failureWords
        )
  {
    ended := ended
    output := output
    lastWords := lastWords
    logLevel := some level
    history := attempt.history
    notes := attempt.notes
  }

/-- The name of the database that a command line gives, or one that it has otherwise. -/
def givenName (given : Options.Given) (otherwise : Text) : Option Text :=
  (given.argument? databaseName).getD (some otherwise)

/-- The level that provisioning asks for: the one that is named, or information for a plan. -/
def askedLevel (given : Options.Given) : Option Text :=
  match given.value? logLevel with
  | some (first :: others) =>
      some (first :: others)
  | _ =>
      if given.has dryRun then some "INFO".toList else none

/-- Load the packaged configuration and go on with it. -/
def withConfig
    (surrounding : Surrounding)
    (level : Nat)
    (go : Config → CommandRun) :
    CommandRun :=
  let path := Config.packagedPath surrounding.root
  match Config.load surrounding.files surrounding.root surrounding.environment path with
  | .error error =>
      endedEarly (.error (.config error)) none (some level)
  | .ok config =>
      go config

/-- The last line of words that are written out with a newline after them. -/
def lastLine (words : String) : String :=
  Text.toOutput (((Text.lines (words.toList ++ ['\n'])).getLast?).getD [])

/-- Read a command line and go on with what it gives. -/
def withOptions
    (program : String)
    (specs : List OptionSpec)
    (arguments : List Text)
    (go : Options.Given → CommandRun) :
    CommandRun :=
  match Options.read specs arguments with
  | .help =>
      endedEarly (.exit 0) none none
  | .refused error =>
      let words := program ++ ": error: " ++ error.message
      endedEarly (.exit refusedCode) (some (lastLine words)) none
  | .given given =>
      go given

/-- Provision a database, or print the plan of it. -/
def provisionDatabase (surrounding : Surrounding) (arguments : List Text) : CommandRun :=
  withOptions provisionName provisionOptions arguments fun given =>
    let settings := Settings.load surrounding.environment
    match LogLevel.select (askedLevel given) settings with
    | .error error =>
        endedEarly (.error (.logging error)) none none
    | .ok level =>
        withConfig surrounding level fun config =>
          let name := givenName given []
          let path := templatePath given config
          let attempt :=
            if given.has dryRun then
              planAttempt surrounding config path name
            else
              provisionAttempt surrounding config path name
          conclude level attempt none

/-- Check that a template can be planned. -/
def checkTemplate (surrounding : Surrounding) (arguments : List Text) : CommandRun :=
  withOptions checkName checkOptions arguments fun given =>
    let level := LogLevel.warning
    withConfig surrounding level fun config =>
      let name := givenName given checkedDatabase
      let path := templatePath given config
      let attempt := planAttempt surrounding config path name
      let report :=
        attempt.report.map fun report =>
          let shown :=
            if given.has showStatements then report else report.withoutField "statements"
          shown.withField "template_path" (.ofText path.text)
      conclude level { attempt with report := report } (some checkFailed)

end Command

end TenantSchema
