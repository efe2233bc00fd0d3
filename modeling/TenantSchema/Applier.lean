import TenantSchema.Server
import TenantSchema.Table.Resolution

/-!
# Applying blocks

The blocks of a script are applied in document order over one connection.  Table definitions
go through resolution, every other block runs as it is, and `CREATE DATABASE` belongs to
another connection.  The first failure ends the work and is reported; the transaction is the
caller's.
-/

namespace TenantSchema

/-- Why applying blocks failed. -/
inductive FailureKind where
  | executionFailure
  | malformedStatement
  | cyclicDependency
  deriving Repr, DecidableEq

/-- The name of a kind of failure in reports. -/
def FailureKind.name : FailureKind → String
  | .executionFailure =>
      "execution_failure"
  | .malformedStatement =>
      "malformed_statement"
  | .cyclicDependency =>
      "cyclic_dependency"

/-- A failure: its kind, the statement it is about, and what is known about it. -/
structure Failure where
  kind : FailureKind
  statement : Option Text
  diagnostic : String
  deriving Repr, DecidableEq

/-- What applying blocks came to. -/
structure ApplyResult where
  failure : Option Failure
  createdTables : List Text
  executedStatements : Nat
  deriving Repr, DecidableEq

/-- Whether everything was applied. -/
def ApplyResult.success (result : ApplyResult) : Bool :=
  result.failure.isNone

namespace Applier

open Table

/-- What the applier keeps of the world: the history of calls and the statements that ran. -/
structure Execution where
  history : History
  executed : Nat
  deriving Repr, DecidableEq

/-- Why a statement did not run. -/
inductive ExecutionFault where
  /-- The driver refused the statement. -/
  | refused (statement : Text) (diagnostic : String)
  /-- A fault that a run does not handle. -/
  | unhandled (message : String)
  deriving Repr, DecidableEq

/-- The connection that blocks are applied over, and how much of a statement notes show. -/
structure Connection where
  server : Server
  catalog : Option Text
  previewLimit : Int

/-- The most characters of a statement that notes show unless configured otherwise. -/
def defaultPreviewLimit : Int :=
  120

/-- Run one statement over the connection. -/
def execute
    (connection : Connection) :
    Action ExecutionFault Execution :=
  fun block session =>
    let noted :=
      session.note
        (.executing block.kind block.order (block.preview connection.previewLimit))
    let (fault, history) :=
      connection.server.perform noted.world.history (.execute connection.catalog block.text)
    match fault with
    | none =>
        .done { noted with world := ⟨history, noted.world.executed + 1⟩ }
    | some (.driver message) =>
        .stopped (.refused block.text message)
          { noted with world := { noted.world with history := history } }
    | some (.unhandled message) =>
        .stopped (.unhandled message)
          { noted with world := { noted.world with history := history } }

/-- An obstacle together with the block of the document that was being applied. -/
structure Halt (Cause : Type) where
  block : Block
  obstacle : Obstacle Cause

section

variable {Cause World : Type}

/-- Apply one block, running its statements by `action`. -/
def applyBlock
    (index : Index)
    (action : Action Cause World)
    (block : Block)
    (session : Session World) :
    Outcome (Obstacle Cause) World :=
  if block.kind = .createDatabase ∨ block.isBlank = true then
    .done session
  else if block.kind = .createTable then
    match nameOf? block with
    | none =>
        .stopped (.malformed block) session
    | some table =>
        if table ∈ session.ledger.names then
          .done (session.note (.tableSkipped table block.order))
        else
          ensureCreated index action block session
  else
    match action block session with
    | .done later =>
        .done later
    | .stopped cause later =>
        .stopped (.action cause) later

/-- Apply the blocks in order up to the first obstacle. -/
def applyEach
    (index : Index)
    (action : Action Cause World) :
    List Block → Session World → Outcome (Halt Cause) World
  | [], session =>
      .done session
  | block :: rest, session =>
      match applyBlock index action block session with
      | .done later =>
          applyEach index action rest later
      | .stopped obstacle later =>
          .stopped { block := block, obstacle := obstacle } later

end

/-- The part of a text before a position; a negative position counts from the end. -/
def cutAt (text : Text) (position : Int) : Text :=
  if 0 ≤ position then
    text.take position.toNat
  else
    text.take (text.length + position).toNat

/-- What is left when the applier stops working. -/
structure Run where
  /-- The result, or the message of a fault that is not handled. -/
  result : Except String ApplyResult
  history : History
  notes : List Note

/-- The result of a run that a failure ended. -/
def failed
    (session : Session Execution)
    (failure : Failure) :
    ApplyResult :=
  {
    failure := some failure
    createdTables := session.ledger.names
    executedStatements := session.world.executed
  }

/-- End a run with a failure and a note about it. -/
def Run.fail
    (session : Session Execution)
    (note : Note)
    (failure : Failure) :
    Run :=
  {
    result := .ok (failed session failure)
    history := session.world.history
    notes := session.notes ++ [note]
  }

/-- End a run that an obstacle stopped while `block` of the document was being applied. -/
def Run.halt
    (connection : Connection)
    (session : Session Execution)
    (halt : Halt ExecutionFault) :
    Run :=
  match halt.obstacle with
  | .action (.refused statement diagnostic) =>
      .fail session
        (.statementFailed (cutAt (Text.flatten statement) connection.previewLimit) diagnostic)
        { kind := .executionFailure, statement := some statement, diagnostic := diagnostic }
  | .action (.unhandled message) =>
      {
        result := .error message
        history := session.world.history
        notes := session.notes
      }
  | .malformed malformed =>
      let diagnostic := malformedMessage malformed
      .fail session (.malformedTable diagnostic)
        {
          kind := .malformedStatement
          statement := some malformed.text
          diagnostic := diagnostic
        }
  | .cyclic cycle =>
      let diagnostic := cyclicMessage cycle
      .fail session (.cyclicTables diagnostic)
        {
          kind := .cyclicDependency
          statement := some halt.block.text
          diagnostic := diagnostic
        }
  | .alreadyRecorded name =>
      {
        result := .error (alreadyRecordedMessage name)
        history := session.world.history
        notes := session.notes
      }

/-- Apply the blocks over a connection, after the given history. -/
def run
    (connection : Connection)
    (history : History)
    (blocks : List Block) :
    Run :=
  let session : Session Execution := .start ⟨history, 0⟩
  match Index.ofBlocks blocks with
  | .error block =>
      .halt connection session { block := block, obstacle := .malformed block }
  | .ok index =>
      match applyEach index (execute connection) blocks session with
      | .stopped halt later =>
          .halt connection later halt
      | .done later =>
          {
            result := .ok {
              failure := none
              createdTables := later.ledger.names
              executedStatements := later.world.executed
            }
            history := later.world.history
            notes :=
              later.notes ++
                [.applied later.world.executed later.ledger.names.length]
          }

end Applier

end TenantSchema
