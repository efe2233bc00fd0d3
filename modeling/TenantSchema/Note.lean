import TenantSchema.Statement

/-!
# Notes of a run

Whatever a run has to say while it works is kept as data, in order, with its severity.  The
wording is one function.
-/

namespace TenantSchema

/-- How much a note matters. -/
inductive Severity where
  | debug
  | info
  | warning
  | error
  deriving Repr, DecidableEq

/-- The name of a severity. -/
def Severity.name : Severity → String
  | .debug =>
      "DEBUG"
  | .info =>
      "INFO"
  | .warning =>
      "WARNING"
  | .error =>
      "ERROR"

/-- One thing that a run has to say. -/
inductive Note where
  | ignoredLine (line : Nat) (stripped : Text)
  | skippedLine (line : Nat) (stripped : Text)
  | unfinishedBlock (kind : Kind) (startLine : Nat)
  | scriptRead (blocks : Nat)
  | outsideReference (table reference : Text)
  | tableSkipped (table : Text) (order : Int)
  | executing (kind : Kind) (order : Int) (preview : Text)
  | statementFailed (excerpt : Text) (diagnostic : String)
  | malformedTable (diagnostic : String)
  | cyclicTables (diagnostic : String)
  | applied (statements tables : Nat)
  | provisioningStarted (database : Text) (blocks : Nat)
  | databaseRefused (database : Text) (diagnostic : String)
  | serverFailed (database : Text) (diagnostic : String)
  | catalogFailed (database : Text) (diagnostic : String)
  | provisioningFinished (database : Text) (success : Bool) (tables : Nat)
  deriving Repr, DecidableEq

namespace Note

/-- The severity of a note. -/
def severity : Note → Severity
  | .ignoredLine .. | .skippedLine .. | .scriptRead .. | .outsideReference .. |
    .tableSkipped .. | .executing .. =>
      .debug
  | .applied .. | .provisioningStarted .. | .provisioningFinished .. =>
      .info
  | .unfinishedBlock .. =>
      .warning
  | .statementFailed .. | .malformedTable .. | .cyclicTables .. | .databaseRefused .. |
    .serverFailed .. | .catalogFailed .. =>
      .error

/-- The most characters of a skipped line that are shown. -/
def skippedLineLimit : Nat :=
  60

/-- The words of a truth value in notes. -/
def truthName (value : Bool) : String :=
  if value then "True" else "False"

/-- The wording of a note. -/
def message : Note → String
  | .ignoredLine line stripped =>
      s!"Ignoring line {line}: " ++ Text.toOutput stripped
  | .skippedLine line stripped =>
      s!"Skipping annotation line {line}: " ++
        Text.toOutput (stripped.take skippedLineLimit)
  | .unfinishedBlock kind startLine =>
      s!"Template ended inside a {kind.name} block starting on line {startLine}; " ++
        "keeping it as-is"
  | .scriptRead blocks =>
      s!"Tokenized template into {blocks} blocks"
  | .outsideReference table reference =>
      "Reference " ++ Text.toOutput table ++ " -> " ++ Text.toOutput reference ++
        " is outside the template; assuming it exists"
  | .tableSkipped table order =>
      "Table " ++ Text.toOutput table ++ s!" already created; skipping block #{order}"
  | .executing kind order preview =>
      s!"Executing {kind.name} block #{order}: " ++ Text.toOutput preview
  | .statementFailed excerpt diagnostic =>
      "Statement failed: " ++ Text.toOutput excerpt ++ " | " ++ diagnostic
  | .malformedTable diagnostic =>
      "Malformed CREATE TABLE statement: " ++ diagnostic
  | .cyclicTables diagnostic =>
      diagnostic
  | .applied statements tables =>
      s!"Applied {statements} statements; created {tables} tables"
  | .provisioningStarted database blocks =>
      "Provisioning database=" ++ Text.toOutput database ++ s!" blocks={blocks}"
  | .databaseRefused database diagnostic =>
      "CREATE DATABASE failed for " ++ Text.toOutput database ++ ": " ++ diagnostic
  | .serverFailed database diagnostic =>
      "Server connection failed while creating " ++ Text.toOutput database ++ ": " ++
        diagnostic
  | .catalogFailed database diagnostic =>
      "Connection to " ++ Text.toOutput database ++ " failed: " ++ diagnostic
  | .provisioningFinished database success tables =>
      "Provisioning finished database=" ++ Text.toOutput database ++
        " success=" ++ truthName success ++ s!" tables={tables}"

end Note

end TenantSchema
