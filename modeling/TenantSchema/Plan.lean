import TenantSchema.Applier
import TenantSchema.Script.Blocks
import TenantSchema.Text.Quoted

/-!
# Planning a run

Before anything is sent to a server, the name of the database is checked and the script is
cut into blocks, one of which has to create the database.  A plan goes on to resolve the
order of the statements against a server that does whatever it is asked; it is the list of
statements that a run would send.
-/

namespace TenantSchema

/-- Why a run cannot take place, or was ended by something it does not handle. -/
inductive RunError where
  | invalidName (name : Option Text)
  /-- A command line names no database where it has to. -/
  | nameless
  | substitution (error : Script.SubstitutionError)
  | script (error : Script.ScriptError)
  | noDatabase
  | unhandled (message : String)
  deriving Repr, DecidableEq

/-- The message about a name that is not accepted, in its written form. -/
def invalidNameMessage (shown : String) : String :=
  "database_name must be 1-64 letters, digits or underscores, got: " ++ shown

/-- The wording of an error. -/
def RunError.message : RunError → String
  | .invalidName name =>
      invalidNameMessage (name.elim "None" Text.quoted)
  | .nameless =>
      invalidNameMessage "[]"
  | .substitution error =>
      error.message
  | .script error =>
      error.message
  | .noDatabase =>
      "Template does not contain a CREATE DATABASE statement"
  | .unhandled message =>
      message

/-- The characters that a database name is made of. -/
def isNameCharacter (character : Char) : Bool :=
  character.isAlphanum || character == '_'

/-- The most characters of a database name. -/
def longestName : Nat :=
  64

/-- Whether a database name is accepted; a single newline may follow it. -/
def isValidName (name : Text) : Bool :=
  let kept := name.takeWhile isNameCharacter
  let rest := name.dropWhile isNameCharacter
  1 ≤ kept.length && kept.length ≤ longestName && (rest == [] || rest == ['\n'])

/-- What a run is configured with. -/
structure RunSettings where
  placeholder : Text
  previewLimit : Int
  deriving Repr, DecidableEq

/-- The settings of a run that configures nothing. -/
def RunSettings.default : RunSettings :=
  { placeholder := Script.defaultPlaceholder, previewLimit := Applier.defaultPreviewLimit }

/-- A run that may start: its blocks and the one that creates the database. -/
structure Prepared where
  name : Text
  blocks : List Block
  database : Block
  deriving Repr, DecidableEq

/-- What preparing a run came to, and its notes. -/
structure Preparation where
  outcome : Except RunError Prepared
  notes : List Note

/-- Check the name and cut the script into blocks. -/
def prepare (settings : RunSettings) (script : Text) (name : Option Text) : Preparation :=
  let accepted := name.filter isValidName
  match accepted with
  | none =>
      { outcome := .error (.invalidName name), notes := [] }
  | some name =>
      match Script.Substitution.of? name settings.placeholder with
      | .error error =>
          { outcome := .error (.substitution error), notes := [] }
      | .ok substitution =>
          let reading := Script.read substitution script
          match reading.blocks with
          | .error error =>
              { outcome := .error (.script error), notes := reading.notes }
          | .ok blocks =>
              match blocks.find? (·.kind == .createDatabase) with
              | none =>
                  { outcome := .error .noDatabase, notes := reading.notes }
              | some database =>
                  {
                    outcome := .ok { name := name, blocks := blocks, database := database }
                    notes := reading.notes
                  }

/-- The statements that were executed successfully, in order. -/
def executedStatements (history : History) : List Text :=
  history.filterMap fun event =>
    match event with
    | ⟨.execute _ statement, true⟩ =>
        some statement
    | _ =>
        none

/-- Apply blocks to a server that does whatever it is asked. -/
def rehearse (blocks : List Block) : Applier.Run :=
  Applier.run
    {
      server := .faultless
      catalog := none
      previewLimit := Applier.defaultPreviewLimit
    }
    [] blocks

/-- The statements that a run would send, and what it would come to. -/
structure Plan where
  name : Text
  blockCount : Nat
  statements : List Text
  result : ApplyResult
  deriving Repr, DecidableEq

/-- What planning came to, and its notes. -/
structure Planning where
  outcome : Except RunError Plan
  notes : List Note

/-- Plan a run: the statement that creates the database, and then those that fill it. -/
def plan (settings : RunSettings) (script : Text) (name : Option Text) : Planning :=
  let preparation := prepare settings script name
  match preparation.outcome with
  | .error error =>
      { outcome := .error error, notes := preparation.notes }
  | .ok prepared =>
      let rehearsal := rehearse prepared.blocks
      let notes := preparation.notes ++ rehearsal.notes
      match rehearsal.result with
      | .error message =>
          { outcome := .error (.unhandled message), notes := notes }
      | .ok result =>
          {
            outcome := .ok {
              name := prepared.name
              blockCount := prepared.blocks.length
              statements := prepared.database.text :: executedStatements rehearsal.history
              result := result
            }
            notes := notes
          }

end TenantSchema
