import TenantSchema.Command
import TenantSchema.Template.Packaged

/-!
# The program

The first argument names a command and the rest is its command line.  The program reads the
environment and the two files that a command may need, runs the command, and prints what it
says.  No driver of a database server is built in, so connecting always fails; plans and
checks do not connect.
-/

namespace TenantSchema.Program

/-- The variables that commands read. -/
def variableNames : List String :=
  Settings.requiredVariables ++
    [
      Settings.timeoutVariable,
      Config.templateVariable,
      Config.placeholderVariable,
      Config.previewVariable
    ]

/-- The environment of the process, as far as commands read it. -/
def readEnvironment : IO Environment := do
  let mut environment := Environment.empty
  for name in variableNames do
    if let some value ← IO.getEnv name then
      environment := environment.set name (Text.ofString value)
  return environment

/-- Add what stands at a path to a tree, if anything does. -/
def addFile (tree : FileTree) (path : Path) : IO FileTree := do
  let components := (Path.under tree.working path).components
  try
    let content ← IO.FS.readBinFile (Text.toOutput path.text)
    return { tree with files := (components, content.toList) :: tree.files }
  catch
    | .inappropriateType .. =>
        return { tree with directories := components :: tree.directories }
    | _ =>
        return tree

/-- The server that cannot be reached. -/
def unreachable : Server :=
  fun _ call =>
    match call with
    | .connect _ =>
        some (.driver "no driver of a database server is built in")
    | _ =>
        none

/-- The number of a severity. -/
def levelOf : Severity → Nat
  | .debug =>
      10
  | .info =>
      LogLevel.information
  | .warning =>
      LogLevel.warning
  | .error =>
      40

/-- Print what a command has to say and return its exit code. -/
def present (run : CommandRun) : IO UInt32 := do
  let output ← IO.getStdout
  let journal ← IO.getStderr
  for note in run.notes do
    if run.logLevel.getD LogLevel.warning ≤ levelOf note.severity then
      journal.putStrLn (note.severity.name ++ " | provisioning | " ++ note.message)
  output.putStr run.output
  if let some words := run.lastWords then
    journal.putStrLn words
  match run.ended with
  | .exit code =>
      return UInt32.ofNat code
  | .error error =>
      journal.putStrLn error.message
      return 1

/-- The command of a name. -/
def command? (name : String) : Option (Surrounding → List Text → CommandRun) :=
  if name = Command.provisionName then
    some Command.provisionDatabase
  else if name = Command.checkName then
    some Command.checkTemplate
  else
    none

/-- The options of a command that take a template. -/
def templateOf (arguments : List Text) : Option Path :=
  match Options.read (Command.provisionOptions ++ Command.checkOptions.drop 2) arguments with
  | .given given =>
      (given.value? Command.template).map Path.ofText
  | _ =>
      match Options.read Command.checkOptions arguments with
      | .given given =>
          (given.value? Command.template).map Path.ofText
      | _ =>
          none

/-- What a command finds around it in the working directory. -/
def surroundingOf (environment : Environment) (arguments : List Text) : IO Surrounding := do
  let root := Path.ofText ".".toList
  let packaged : List (List Text × List UInt8) := [
    (
      (Path.ofText Config.defaultTemplate).components,
      Text.Utf8.encode Template.packaged
    ),
    (
      (Config.packagedPath root).components,
      Text.Utf8.encode Template.packagedConfig
    )
  ]
  let shipped : FileTree := { files := packaged, directories := [], working := root }
  let configured ← addFile shipped (Config.packagedPath root)
  let needed :=
    match templateOf arguments with
    | some path =>
        some path
    | none =>
        match Config.load configured root environment (Config.packagedPath root) with
        | .ok config =>
            some config.templatePath
        | .error _ =>
            none
  let files ←
    match needed with
    | some path =>
        addFile configured path
    | none =>
        pure configured
  return { files := files, root := root, environment := environment, server := unreachable }

end TenantSchema.Program

/-- Run the command that the first argument names. -/
def main (arguments : List String) : IO UInt32 := do
  match arguments with
  | name :: rest =>
      match TenantSchema.Program.command? name with
      | some command =>
          let texts := rest.map TenantSchema.Text.ofString
          let environment ← TenantSchema.Program.readEnvironment
          let surrounding ← TenantSchema.Program.surroundingOf environment texts
          TenantSchema.Program.present (command surrounding texts)
      | none =>
          (← IO.getStderr).putStrLn ("unknown command: " ++ name)
          return 2
  | [] =>
      (← IO.getStderr).putStrLn
        ("usage: " ++ TenantSchema.Command.provisionName ++ " | " ++
          TenantSchema.Command.checkName ++ " [options]")
      return 2
