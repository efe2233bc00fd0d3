import TenantSchema.Proofs.Provision.RunCases

namespace TenantSchema.Provision

open Conversation

/-!
# Cleaning up after a failure

After a failure the transaction is rolled back and the connection is closed.  Both calls are
made while the run may still be broken off, so a fault of theirs leaves the connection in place
of the failure: the fault of closing, or else that of rolling back.  What the run comes to is
told by the failure and by that fault.
-/

section

variable
  (factory : ConnectionFactory)
  (catalog : Option Text)
  (history : History)

/-- How rolling back is answered. -/
def rollbackFault : Option Fault :=
  factory.server history (.rollback catalog)

/-- The history with the attempt to roll back. -/
def rolledBack : History :=
  history ++ [⟨.rollback catalog, (rollbackFault factory catalog history).isNone⟩]

/-- How closing the connection is answered after the attempt to roll back. -/
def closingFault : Option Fault :=
  let closer : Server :=
    match rollbackFault factory catalog history with
    | none =>
        factory.server
    | some _ =>
        factory.release
  closer (rolledBack factory catalog history ++ [⟨.close catalog, true⟩]) (.close catalog)

/-- The fault that leaves the connection. -/
def cleanupFault : Option Fault :=
  (closingFault factory catalog history).or (rollbackFault factory catalog history)

/-- The history with the attempts to roll back and to close the connection. -/
def cleanedUp : History :=
  rolledBack factory catalog history ++
    closingEvents catalog (closingFault factory catalog history).isNone

end

/-- How an activity ends that came to a value, once a fault of cleaning up is counted in. -/
def endingWith
    {Value : Type}
    (value : Value)
    (kept : Option Value) :
    Option Fault → Ending Value
  | none =>
      .finished value
  | some fault =>
      .broken fault kept

/-- What a run comes to after a failure, given the fault of cleaning up. -/
def outcomeAfter
    (prepared : Prepared)
    (failed : ApplyResult) :
    Option Fault → Except RunError ProvisionResult
  | none =>
      .ok { name := prepared.name, blocks := prepared.blocks, applied := failed }
  | some (.driver message) =>
      .ok {
        name := prepared.name
        blocks := prepared.blocks
        applied :=
          failedExecution (failed.failure.bind (·.statement)) message (some failed)
      }
  | some (.unhandled message) =>
      .error (.unhandled message)

section

variable
  {factory : ConnectionFactory}
  {catalog : Option Text}
  {history : History}

/-- What leaves a connection over which a failure was rolled back. -/
theorem within_of_rolledBack
    {Value : Type}
    {past : History}
    {value : Value}
    {obtained : Option Value}
    (body : History → Activity Value)
    (opened : factory.server past (.connect catalog) = none)
    (ended :
      (body (past ++ [⟨.connect catalog, true⟩])).ending =
        endingWith value obtained (rollbackFault factory catalog history))
    (made :
      (body (past ++ [⟨.connect catalog, true⟩])).history =
        rolledBack factory catalog history) :
    (factory.within catalog past body).history = cleanedUp factory catalog history ∧
      ∃ kept,
        (kept = obtained ∨ kept = some value) ∧
          (factory.within catalog past body).ending =
            endingWith value kept (cleanupFault factory catalog history) := by
  have closes :
      factory.closer (body (past ++ [⟨.connect catalog, true⟩])).ending
          ((body (past ++ [⟨.connect catalog, true⟩])).history ++ [⟨.close catalog, true⟩])
          (.close catalog) =
        closingFault factory catalog history := by
    rw [ended, made, closingFault]
    cases rollbackFault factory catalog history <;> rfl
  rw [factory.within_of_opened body opened]
  dsimp only
  rw [closes, made, ended, cleanupFault]
  refine ⟨rfl, ?_⟩
  cases closingFault factory catalog history with
  | none =>
      exact ⟨obtained, .inl rfl, rfl⟩
  | some fault =>
      cases rollbackFault factory catalog history with
      | none =>
          exact ⟨some value, .inr rfl, rfl⟩
      | some _ =>
          exact ⟨obtained, .inl rfl, rfl⟩

theorem createDatabase_of_refused
    (name : Text)
    {statement : Text}
    {message : String}
    (refused :
      factory.server history (.execute none statement) = some (.driver message)) :
    let past := history ++ [⟨.execute none statement, false⟩]
    (createDatabase factory.server name statement history).ending =
        endingWith (some (failedExecution (some statement) message none)) none
          (rollbackFault factory none past) ∧
      (createDatabase factory.server name statement history).history =
        rolledBack factory none past := by
  unfold createDatabase rolledBack rollbackFault
  rw [Server.perform_of_fault refused]
  dsimp only
  cases answer :
      factory.server (history ++ [⟨.execute none statement, false⟩]) (.rollback none) with
  | none =>
      rw [Server.perform_of_accepted answer]
      exact ⟨rfl, rfl⟩
  | some fault =>
      rw [Server.perform_of_fault answer]
      exact ⟨rfl, rfl⟩

theorem fillDatabase_of_failed
    (connection : Applier.Connection)
    {blocks : List Block}
    {failed : ApplyResult}
    (server : connection.server = factory.server)
    (ran : (Applier.run connection history blocks).result = .ok failed)
    (failure : failed.success = false) :
    let past := (Applier.run connection history blocks).history
    (fillDatabase connection blocks history).ending =
        endingWith failed (some failed)
          (rollbackFault factory connection.catalog past) ∧
      (fillDatabase connection blocks history).history =
        rolledBack factory connection.catalog past := by
  have verdict : (verdictOn failed).call connection.catalog = .rollback connection.catalog := by
    rw [verdictOn, failure]
    rfl
  dsimp only
  rw [fillDatabase_of_result ran, verdict, server, rolledBack, rollbackFault]
  cases answer :
      factory.server (Applier.run connection history blocks).history
        (.rollback connection.catalog) with
  | none =>
      rw [settled_of_accepted failed _ answer]
      exact ⟨rfl, rfl⟩
  | some fault =>
      rw [settled_of_fault failed _ answer]
      exact ⟨rfl, rfl⟩

end

section

variable
  {factory : ConnectionFactory}
  {previewLimit : Int}
  {prepared : Prepared}

/-- What a run comes to whose part over the new catalog ended so. -/
def concluded
    (prepared : Prepared) :
    Ending ApplyResult → Except RunError ProvisionResult
  | .finished applied =>
      .ok { name := prepared.name, blocks := prepared.blocks, applied := applied }
  | .broken fault _ =>
      .error (.unhandled fault.message)

/-- A run that creates the database goes on over the new catalog. -/
theorem carryOut_of_created
    (previewLimit : Int)
    (created : (administrate factory prepared).ending = .finished none) :
    let second := populate factory previewLimit prepared (administrate factory prepared).history
    (carryOut factory previewLimit prepared).history = second.history ∧
      (carryOut factory previewLimit prepared).outcome = concluded prepared second.ending := by
  unfold carryOut
  simp only [created]
  cases (populate factory previewLimit prepared
    (administrate factory prepared).history).ending with
  | finished _ | broken _ _ =>
      exact ⟨rfl, rfl⟩

/-- A run whose administrative part comes to a result is over with it. -/
theorem carryOut_of_applied
    {applied : ApplyResult}
    (previewLimit : Int)
    (ended : (administrate factory prepared).ending = .finished (some applied)) :
    (carryOut factory previewLimit prepared).history =
        (administrate factory prepared).history ∧
      (carryOut factory previewLimit prepared).outcome =
        concluded prepared (.finished applied) := by
  unfold carryOut
  simp only [ended, concluded, and_self]

/-- A run whose administrative part is broken off is over with it. -/
theorem carryOut_of_broken
    {fault : Fault}
    {kept : Option (Option ApplyResult)}
    (previewLimit : Int)
    (ended : (administrate factory prepared).ending = .broken fault kept) :
    (carryOut factory previewLimit prepared).history =
        (administrate factory prepared).history ∧
      (carryOut factory previewLimit prepared).outcome =
        .error (.unhandled fault.message) := by
  unfold carryOut
  simp only [ended, and_self]

/-- A failure of the administrative part is what the run comes to, unless cleaning up fails. -/
theorem carryOut_of_administrate
    {message : String}
    {kept : Option (Option ApplyResult)}
    {cleanup : Option Fault}
    (previewLimit : Int)
    (ended :
      (factory.within none []
        (createDatabase factory.server prepared.name prepared.database.text)).ending =
          endingWith (some (failedExecution (some prepared.database.text) message none)) kept
            cleanup) :
    (carryOut factory previewLimit prepared).history =
        (administrate factory prepared).history ∧
      (carryOut factory previewLimit prepared).outcome =
        outcomeAfter prepared (failedExecution (some prepared.database.text) message none)
          cleanup := by
  rcases cleanup with _ | fault | fault
  · exact carryOut_of_applied previewLimit (ending_administrate_of_finished ended)
  · have reported :
        (administrate factory prepared).ending =
          .finished (some (failedExecution (some prepared.database.text) fault none)) := by
      unfold administrate
      dsimp only
      rw [ended]
      rfl
    exact carryOut_of_applied previewLimit reported
  · have broken :
        (administrate factory prepared).ending = .broken (.unhandled fault) kept := by
      unfold administrate
      dsimp only
      rw [ended]
      exact ended
    exact carryOut_of_broken previewLimit broken

/-- A failure over the new catalog is what the run comes to, unless cleaning up fails. -/
theorem concluded_populate
    {past : History}
    {failed : ApplyResult}
    {cleanup : Option Fault}
    (ended :
      (factory.within (some prepared.name) past
        (fillDatabase (tenantConnection factory previewLimit prepared)
          prepared.blocks)).ending =
            endingWith failed (some failed) cleanup) :
    concluded prepared (populate factory previewLimit prepared past).ending =
      outcomeAfter prepared failed cleanup := by
  unfold populate
  dsimp only [tenantConnection] at ended ⊢
  rw [ended]
  rcases cleanup with _ | fault | fault
  · dsimp only [endingWith]
    rw [ended]
    rfl
  · rfl
  · dsimp only [endingWith]
    rw [ended]
    rfl

/-- What a run comes to after the statement that creates the database was refused. -/
theorem carryOut_of_refused
    {message : String}
    (previewLimit : Int)
    (opened : factory.server [] (.connect none) = none)
    (refused :
      factory.server [⟨.connect none, true⟩] (.execute none prepared.database.text) =
        some (.driver message)) :
    let past : History :=
      [⟨.connect none, true⟩, ⟨.execute none prepared.database.text, false⟩]
    (carryOut factory previewLimit prepared).history = cleanedUp factory none past ∧
      (carryOut factory previewLimit prepared).outcome =
        outcomeAfter prepared
          (failedExecution (some prepared.database.text) message none)
          (cleanupFault factory none past) := by
  intro past
  obtain ⟨ended, made⟩ := createDatabase_of_refused prepared.name refused
  obtain ⟨history, kept, _, ending⟩ := within_of_rolledBack _ opened ended made
  obtain ⟨sameHistory, outcome⟩ := carryOut_of_administrate previewLimit ending
  refine ⟨?_, outcome⟩
  rw [sameHistory, history_administrate]
  exact history

/-- What a run comes to after the applier stopped over the new catalog. -/
theorem carryOut_of_stopped
    {failed : ApplyResult}
    (created : (administrate factory prepared).ending = .finished none)
    (administered :
      (administrate factory prepared).history =
        (creation prepared.database.text).events none)
    (opened :
      factory.server ((creation prepared.database.text).events none)
        (.connect (some prepared.name)) = none)
    (ran : (tenantRun factory previewLimit prepared).result = .ok failed)
    (failure : failed.success = false) :
    let past := (tenantRun factory previewLimit prepared).history
    (carryOut factory previewLimit prepared).history =
        cleanedUp factory (some prepared.name) past ∧
      (carryOut factory previewLimit prepared).outcome =
        outcomeAfter prepared failed (cleanupFault factory (some prepared.name) past) := by
  intro past
  obtain ⟨ended, made⟩ :=
    fillDatabase_of_failed (tenantConnection factory previewLimit prepared) rfl ran failure
  obtain ⟨history, kept, isKept, ending⟩ := within_of_rolledBack _ opened ended made
  obtain rfl : kept = some failed := by
    rcases isKept with same | same <;> exact same
  obtain ⟨sameHistory, sameOutcome⟩ := carryOut_of_created previewLimit created
  rw [administered] at sameHistory sameOutcome
  rw [sameHistory, sameOutcome, history_populate]
  exact ⟨history, concluded_populate ending⟩

end

end TenantSchema.Provision
