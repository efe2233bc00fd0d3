import TenantSchema.Plan

/-!
# Provisioning a database

A run creates the database over an administrative connection and then fills it over a
connection to the new catalog.  Faults of the driver become a failed result; any other fault
ends the run.
-/

namespace TenantSchema

/-- What provisioning a database came to. -/
structure ProvisionResult where
  name : Text
  blocks : List Block
  applied : ApplyResult
  deriving Repr, DecidableEq

/-- What is left when a provisioning run is over. -/
structure ProvisionRun where
  outcome : Except RunError ProvisionResult
  history : History
  notes : List Note

namespace Provision

/-- The result of a run that a fault of the driver ended. -/
def failedExecution
    (statement : Option Text)
    (diagnostic : String)
    (obtained : Option ApplyResult) :
    ApplyResult :=
  {
    failure := some {
      kind := .executionFailure
      statement := statement
      diagnostic := diagnostic
    }
    createdTables := obtained.elim [] (·.createdTables)
    executedStatements := obtained.elim 0 (·.executedStatements)
  }

/-- The end of an activity whose last call may have been a fault. -/
def settled
    {Value : Type}
    (value : Value)
    (notes : List Note)
    (performed : Option Fault × History) :
    Activity Value :=
  match performed.1 with
  | none =>
      { ending := .finished value, history := performed.2, notes := notes }
  | some fault =>
      { ending := .broken fault (some value), history := performed.2, notes := notes }

/-- Create the database; a refusal is rolled back and becomes a failed result. -/
def createDatabase
    (server : Server)
    (name : Text)
    (statement : Text)
    (history : History) :
    Activity (Option ApplyResult) :=
  let (fault, executed) := server.perform history (.execute none statement)
  match fault with
  | none =>
      settled none [] (server.perform executed (.commit none))
  | some (.unhandled message) =>
      { ending := .broken (.unhandled message) none, history := executed, notes := [] }
  | some (.driver message) =>
      let (rollbackFault, rolledBack) := server.perform executed (.rollback none)
      match rollbackFault with
      | none =>
          {
            ending := .finished (some (failedExecution (some statement) message none))
            history := rolledBack
            notes := [.databaseRefused name message]
          }
      | some rollbackFault =>
          { ending := .broken rollbackFault none, history := rolledBack, notes := [] }

/-- Fill the database, and commit or roll back what was applied. -/
def fillDatabase
    (connection : Applier.Connection)
    (blocks : List Block)
    (history : History) :
    Activity ApplyResult :=
  let run := Applier.run connection history blocks
  match run.result with
  | .error message =>
      {
        ending := .broken (.unhandled message) none
        history := run.history
        notes := run.notes
      }
  | .ok result =>
      let call : Call :=
        if result.success then
          .commit connection.catalog
        else
          .rollback connection.catalog
      settled result run.notes (connection.server.perform run.history call)

/-- The administrative part of a run: a result if the run is over, none if it goes on. -/
def administrate
    (factory : ConnectionFactory)
    (prepared : Prepared) :
    Activity (Option ApplyResult) :=
  let statement := prepared.database.text
  let activity :=
    factory.within none [] (createDatabase factory.server prepared.name statement)
  match activity.ending with
  | .broken (.driver message) _ =>
      {
        ending := .finished (some (failedExecution (some statement) message none))
        history := activity.history
        notes := activity.notes ++ [.serverFailed prepared.name message]
      }
  | _ =>
      activity

/-- The connection that the new catalog is filled over. -/
def tenantConnection
    (factory : ConnectionFactory)
    (previewLimit : Int)
    (prepared : Prepared) :
    Applier.Connection :=
  {
    server := factory.server
    catalog := some prepared.name
    previewLimit := previewLimit
  }

/-- The part of a run over the new catalog. -/
def populate
    (factory : ConnectionFactory)
    (previewLimit : Int)
    (prepared : Prepared)
    (history : History) :
    Activity ApplyResult :=
  let connection := tenantConnection factory previewLimit prepared
  let activity :=
    factory.within connection.catalog history (fillDatabase connection prepared.blocks)
  match activity.ending with
  | .broken (.driver message) obtained =>
      {
        ending := .finished
          (failedExecution
            ((obtained.bind (·.failure)).bind (·.statement)) message obtained)
        history := activity.history
        notes := activity.notes ++ [.catalogFailed prepared.name message]
      }
  | _ =>
      activity

/-- The last words of a run that reached the new catalog. -/
def farewell (name : Text) (result : ApplyResult) : Note :=
  .provisioningFinished name result.success result.createdTables.length

/-- Carry out a prepared run. -/
def carryOut
    (factory : ConnectionFactory)
    (previewLimit : Int)
    (prepared : Prepared) :
    ProvisionRun :=
  let result (applied : ApplyResult) : ProvisionResult :=
    { name := prepared.name, blocks := prepared.blocks, applied := applied }
  let first := administrate factory prepared
  match first.ending with
  | .broken fault _ =>
      {
        outcome := .error (.unhandled fault.message)
        history := first.history
        notes := first.notes
      }
  | .finished (some applied) =>
      { outcome := .ok (result applied), history := first.history, notes := first.notes }
  | .finished none =>
      let second := populate factory previewLimit prepared first.history
      let notes := first.notes ++ second.notes
      match second.ending with
      | .broken fault _ =>
          {
            outcome := .error (.unhandled fault.message)
            history := second.history
            notes := notes
          }
      | .finished applied =>
          {
            outcome := .ok (result applied)
            history := second.history
            notes := notes ++ [farewell prepared.name applied]
          }

end Provision

/-- Provision a database over connections of a factory: create it, and fill it with tables. -/
def provisionOver
    (factory : ConnectionFactory)
    (settings : RunSettings)
    (script : Text)
    (name : Option Text) :
    ProvisionRun :=
  let preparation := prepare settings script name
  match preparation.outcome with
  | .error error =>
      { outcome := .error error, history := [], notes := preparation.notes }
  | .ok prepared =>
      let started : Note := .provisioningStarted prepared.name prepared.blocks.length
      let run := Provision.carryOut factory settings.previewLimit prepared
      { run with notes := preparation.notes ++ [started] ++ run.notes }

/-- Provision a database on a server. -/
def provision
    (server : Server)
    (settings : RunSettings)
    (script : Text)
    (name : Option Text) :
    ProvisionRun :=
  provisionOver (.ofServer server) settings script name

end TenantSchema
