import TenantSchema.Environment
import TenantSchema.Text.Integer

/-!
# Settings

The settings of a process come from its environment.  Some variables have to be there and not
be empty; the time limit of connections is optional and has to be a whole number.
-/

namespace TenantSchema

/-- The settings of a process. -/
structure Settings where
  projectName : Text
  environmentName : Text
  logLevel : Text
  databaseUrl : Text
  connectTimeout : Int
  deriving Repr, DecidableEq

/-- Why settings cannot be used. -/
inductive SettingsError where
  | missing (names : List String)
  | invalidTimeout
  deriving Repr, DecidableEq

/-- The wording of an error. -/
def SettingsError.message : SettingsError → String
  | .missing names =>
      "Missing required environment variables: " ++ String.intercalate ", " names ++
        ". Populate these values in \x60.env\x60 before starting a provisioning run."
  | .invalidTimeout =>
      "Invalid environment configuration"

namespace Settings

/-- The variables that have to be there, in alphabetical order. -/
def requiredVariables : List String :=
  ["DATABASE_URL", "ENV", "LOG_LEVEL", "PROJECT_NAME"]

/-- The variable of the time limit. -/
def timeoutVariable : String :=
  "DB_CONNECT_TIMEOUT_SECONDS"

/-- The time limit of connections in seconds unless configured otherwise. -/
def defaultTimeout : Int :=
  30

/-- A digit of the seven-bit range. -/
def plainDigit? (character : Char) : Option Nat :=
  if character.isDigit then some (character.toNat - 48) else none

/--
What counts of a number behind zeros and underscores, of which `last` is the last one.  It is the
rest from the first other digit or a minus on; in front of a point and at the end one zero counts.
-/
def afterZeros (last : Char) : Text → Option Text
  | [] =>
      some [last]
  | character :: rest =>
      if character == '0' || character == '_' then
        afterZeros character rest
      else if character.isDigit || character == '-' then
        some (character :: rest)
      else if character == '.' then
        some (last :: character :: rest)
      else
        none

/-- What counts of a number, which starts with a digit. -/
def significant? : Text → Option Text
  | [] =>
      none
  | first :: rest =>
      if first == '0' then
        afterZeros first rest
      else if first.isDigit then
        some (first :: rest)
      else
        none

/-- The part of a number before the point, which may be followed by zeros alone. -/
def wholePart? (number : Text) : Option Text :=
  match number.dropWhile (· != '.') with
  | [] =>
      some number
  | _ :: zeros =>
      if !zeros.isEmpty && zeros.all (· == '0') then
        some (number.takeWhile (· != '.'))
      else
        none

/-- The number that plain digits write; `behindSign` lets an underscore stand in front. -/
def magnitude? (behindSign : Bool) (text : Text) : Option Nat :=
  match Text.digitRun? plainDigit? behindSign text with
  | some (first :: others, []) =>
      let digits := first :: others
      if (first = 0 ∧ !others.isEmpty) ∨ Text.digitLimit < digits.length then
        none
      else
        some (Text.numberOf 10 digits)
  | _ =>
      none

/--
The time limit that a text writes: a whole number in plain digits.  A point after it may be
followed by zeros alone, and by at least one.  Zeros in front do not count, and a minus may stand
behind them when no other is in front.
-/
def timeout? (text : Text) : Option Int :=
  let (negative, number) := Text.takeSign (Text.trimBy Text.isNumberBlank text)
  match (significant? number).bind wholePart? with
  | some ('-' :: rest) =>
      if negative then none else (magnitude? true rest).map (Text.signed true)
  | some whole =>
      (magnitude? false whole).map (Text.signed negative)
  | none =>
      none

/-- The required variables that are not there. -/
def missingVariables (environment : Environment) : List String :=
  requiredVariables.filter fun name => (environment.getNonempty? name).isNone

/-- The settings that an environment gives. -/
def load (environment : Environment) : Except SettingsError Settings :=
  let value (name : String) : Text := (environment.get? name).getD []
  match missingVariables environment with
  | [] =>
      let timeout :=
        match environment.get? timeoutVariable with
        | none =>
            some defaultTimeout
        | some text =>
            timeout? text
      match timeout with
      | none =>
          .error .invalidTimeout
      | some timeout =>
          .ok {
            projectName := value "PROJECT_NAME"
            environmentName := value "ENV"
            logLevel := value "LOG_LEVEL"
            databaseUrl := value "DATABASE_URL"
            connectTimeout := timeout
          }
  | missing =>
      .error (.missing missing)

/-- The settings that were loaded before, or those of the environment. -/
def cached (known : Option Settings) (environment : Environment) :
    Except SettingsError Settings :=
  match known with
  | some settings =>
      .ok settings
  | none =>
      load environment

end Settings

end TenantSchema
