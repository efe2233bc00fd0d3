import TenantSchema.Settings
import TenantSchema.Text.Keyword

/-!
# Log levels

Logging is configured once, with the level of an override or of the settings.  Level names
are compared in upper case, and an unknown name means information.  One name stands for a
text and another for a table of styles in place of a level; both are refused.
-/

namespace TenantSchema

/-- What a level name in upper case stands for. -/
inductive LevelMeaning where
  | number (level : Nat)
  | format
  | styles
  deriving Repr, DecidableEq

/-- Why logging is not configured. -/
inductive LoggingError where
  | settings (error : SettingsError)
  | unknownLevel
  | notLevel
  deriving Repr, DecidableEq

/-- The wording of an error. -/
def LoggingError.message : LoggingError → String
  | .settings error =>
      error.message
  | .unknownLevel =>
      "Unknown level: '%(levelname)s:%(name)s:%(message)s'"
  | .notLevel =>
      "the table of styles is no level"

namespace LogLevel

/-- The level of information. -/
def information : Nat :=
  20

/-- The level of warnings, below which the engine's own records are never shown. -/
def warning : Nat :=
  30

/-- The level names and what they stand for. -/
def meanings : List (Text × LevelMeaning) :=
  [
    ("CRITICAL".toList, .number 50),
    ("FATAL".toList, .number 50),
    ("ERROR".toList, .number 40),
    ("WARNING".toList, .number warning),
    ("WARN".toList, .number warning),
    ("INFO".toList, .number information),
    ("DEBUG".toList, .number 10),
    ("NOTSET".toList, .number 0),
    ("BASIC_FORMAT".toList, .format),
    ("_STYLES".toList, .styles)
  ]

/-- What a level name stands for. -/
def meaning (name : Text) : LevelMeaning :=
  match meanings.find? fun (capitals, _) => Text.equalsCapitals capitals name with
  | some (_, meaning) =>
      meaning
  | none =>
      .number information

/-- The first name of a level. -/
def nameOf (level : Nat) : String :=
  match meanings.find? fun (_, meaning) => meaning == .number level with
  | some (name, _) =>
      Text.toOutput name
  | none =>
      s!"Level {level}"

/-- The format of log records. -/
def recordFormat : String :=
  "%(asctime)s | %(levelname)s | %(name)s | %(message)s"

/-- The level of the engine's own records. -/
def engineLevel (level : Nat) : Nat :=
  max level warning

/-- The level that an override or the settings ask for; an empty override asks for nothing. -/
def select
    (override : Option Text)
    (settings : Except SettingsError Settings) :
    Except LoggingError Nat :=
  let name : Except LoggingError Text :=
    match override with
    | some (first :: others) =>
        .ok (first :: others)
    | _ =>
        match settings with
        | .ok settings =>
            .ok settings.logLevel
        | .error error =>
            .error (.settings error)
  match name with
  | .error error =>
      .error error
  | .ok name =>
      match meaning name with
      | .number level =>
          .ok level
      | .format =>
          .error .unknownLevel
      | .styles =>
          .error .notLevel

/-- Configure logging, given the level that it is configured with already, if any. -/
def configure
    (configured : Option Nat)
    (override : Option Text)
    (settings : Except SettingsError Settings) :
    Except LoggingError Nat :=
  match configured with
  | some level =>
      .ok level
  | none =>
      select override settings

end LogLevel

end TenantSchema
