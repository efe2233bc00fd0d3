import TenantSchema.Proofs.Provision.Cleanup
import TenantSchema.Proofs.Provision.Preparation

namespace TenantSchema.Provision

open Conversation

/-!
# The first failure of a run

A run stops at the first statement that is refused, or at the first table that it cannot
create.  That failure is what the run reports unless rolling back or closing the connection
comes to a fault: a fault of the driver takes the place of the kind and of the diagnostic, and
any other fault leaves no report at all.
-/

/-- Whether no statement of a history was refused. -/
def NoRefusal (history : History) : Prop :=
  ∀ event ∈ history, event.call.statement? ≠ none → event.succeeded = true

theorem noRefusal_append
    {first second : History}
    (firstNone : NoRefusal first)
    (secondNone : NoRefusal second) :
    NoRefusal (first ++ second) :=
  List.forall_mem_append.mpr ⟨firstNone, secondNone⟩

theorem noRefusal_of_succeeded
    {history : History}
    (succeeded : ∀ event ∈ history, event.succeeded = true) :
    NoRefusal history :=
  fun event member _ => succeeded event member

/-- What ends a conversation sends no statement. -/
theorem noRefusal_ending
    (catalog : Option Text)
    (verdict : Option (Verdict × Bool))
    (closedWell : Bool) :
    NoRefusal
      (verdict.toList.map (verdictEvent catalog) ++ closingEvents catalog closedWell) := by
  refine noRefusal_append ?_ ?_
  · intro event member sends
    obtain ⟨ended, _, rfl⟩ := List.mem_map.mp member
    rcases ended with ⟨_ | _, _⟩ <;> exact (sends rfl).elim
  · intro event member sends
    have closes : event.call = .close catalog := by
      rw [closingEvents] at member
      rcases List.mem_cons.mp member with rfl | again
      · rfl
      · cases closedWell with
        | true =>
            cases again
        | false =>
            rw [List.mem_singleton.mp again]
    rw [closes] at sends
    exact (sends rfl).elim

theorem NoRefusal.not_mem
    {history : History}
    {catalog : Option Text}
    {statement : Text}
    (noRefusal : NoRefusal history) :
    ⟨.execute catalog statement, false⟩ ∉ history := by
  intro member
  cases noRefusal _ member (by simp [Call.statement?])

theorem NoRefusal.ne_append_cons
    {history earlier later : History}
    {catalog : Option Text}
    {statement : Text}
    (noRefusal : NoRefusal history) :
    history ≠ earlier ++ ⟨.execute catalog statement, false⟩ :: later := by
  rintro rfl
  exact noRefusal.not_mem (List.mem_append_right _ List.mem_cons_self)

/-- The only refusal of a history stands at one place in it. -/
theorem split_of_refusal
    {front back earlier later : History}
    {catalog other : Option Text}
    {statement text : Text}
    (noneBefore : NoRefusal front)
    (noneAfter : NoRefusal back)
    (split :
      front ++ ⟨.execute catalog statement, false⟩ :: back =
        earlier ++ ⟨.execute other text, false⟩ :: later) :
    earlier = front ∧ other = catalog ∧ text = statement := by
  rw [List.append_eq_append_iff] at split
  rcases split with ⟨between, rfl, split⟩ | ⟨between, rfl, split⟩
  · cases between with
    | nil =>
        cases split
        exact ⟨List.append_nil _, rfl, rfl⟩
    | cons event rest =>
        obtain ⟨_, rfl⟩ := List.cons.inj split
        exact (noneAfter.not_mem (List.mem_append_right _ List.mem_cons_self)).elim
  · cases between with
    | nil =>
        cases split
        exact ⟨(List.append_nil _).symm, rfl, rfl⟩
    | cons event rest =>
        obtain ⟨rfl, _⟩ := List.cons.inj split
        exact (noneBefore.not_mem (List.mem_append_right _ List.mem_cons_self)).elim

/--
A failure of a run: its catalog, the history when it had happened, and what there is to say
about it.  It is a statement that the driver refused or what the applier found wrong with the
blocks.
-/
inductive FirstFailure
    (factory : ConnectionFactory)
    (previewLimit : Int)
    (prepared : Prepared)
    (history : History) :
    Option Text → History → Failure → Prop where
  | refused
      {catalog : Option Text}
      {statement : Text}
      {message : String}
      {earlier later : History}
      (sent : history = earlier ++ ⟨.execute catalog statement, false⟩ :: later)
      (answered :
        factory.server earlier (.execute catalog statement) = some (.driver message)) :
      FirstFailure factory previewLimit prepared history catalog
        (earlier ++ [⟨.execute catalog statement, false⟩])
        {
          kind := .executionFailure
          statement := some statement
          diagnostic := message
        }
  | stopped
      {applied : ApplyResult}
      {failure : Failure}
      (opened : ⟨.connect (some prepared.name), true⟩ ∈ history)
      (ran : (tenantRun factory previewLimit prepared).result = .ok applied)
      (fails : applied.failure = some failure)
      (found : failure.kind ≠ .executionFailure) :
      FirstFailure factory previewLimit prepared history (some prepared.name)
        (tenantRun factory previewLimit prepared).history failure

section

variable
  {factory : ConnectionFactory}
  {previewLimit : Int}
  {prepared : Prepared}

/-- A refusal in the administrative part is that of its only statement. -/
theorem refusal_of_administrate
    {catalog : Option Text}
    {statement : Text}
    {earlier later : History}
    (made :
      (administrate factory prepared).history =
        earlier ++ ⟨.execute catalog statement, false⟩ :: later) :
    factory.server [] (.connect none) = none ∧
      earlier = [⟨.connect none, true⟩] ∧
      catalog = none ∧
      statement = prepared.database.text := by
  rw [history_administrate] at made
  cases answer : factory.server [] (.connect none) with
  | some fault =>
      rw [factory.within_of_refused _ answer] at made
      have noRefusal : NoRefusal ([] ++ [⟨.connect none, false⟩]) := by
        simp [NoRefusal, Call.statement?]
      exact (noRefusal.ne_append_cons made).elim
  | none =>
      obtain ⟨succeeded, verdict, _, created⟩ :=
        createDatabase_cases factory.server prepared.name prepared.database.text
          ([] ++ [⟨.connect none, true⟩])
      rw [factory.within_of_opened _ answer] at made
      dsimp only at made
      rw [created, List.append_assoc, List.cons_append] at made
      have noneBefore : NoRefusal ([] ++ [⟨.connect none, true⟩]) := by
        simp [NoRefusal]
      cases succeeded with
      | true =>
          have noneAfter := noRefusal_ending none verdict
          refine (NoRefusal.ne_append_cons ?_ made).elim
          exact noRefusal_append noneBefore
            (List.forall_mem_cons.mpr ⟨fun _ => rfl, noneAfter _⟩)
      | false =>
          obtain ⟨rfl, rfl, rfl⟩ :=
            split_of_refusal noneBefore (noRefusal_ending none verdict _) made
          exact ⟨rfl, rfl, rfl, rfl⟩

theorem succeeded_tenantHistory (prepared : Prepared) :
    ∀ event ∈ tenantHistory prepared, event.succeeded = true := by
  simp [tenantHistory, creation, events, afterOpening, Conversation.opened, sentEvent,
    verdictEvent, closingEvents]

/-- The calls of the applier over the new catalog succeed up to the last one. -/
theorem succeeded_dropLast_tenantRun
    (factory : ConnectionFactory)
    (previewLimit : Int)
    (prepared : Prepared) :
    ∀ event ∈ (tenantRun factory previewLimit prepared).history.dropLast,
      event.succeeded = true := by
  obtain ⟨calls, succeeded, made⟩ :=
    Applier.history_run_cases (tenantConnection factory previewLimit prepared)
      (tenantHistory prepared) prepared.blocks
  have before : ∀ event ∈ tenantHistory prepared ++ calls, event.succeeded = true :=
    List.forall_mem_append.mpr ⟨succeeded_tenantHistory prepared, succeeded⟩
  rcases made with made | ⟨_, _, _, _, made, _⟩
  · rw [tenantRun, made]
    exact fun event member => before event (List.dropLast_subset _ member)
  · rw [tenantRun, made, List.dropLast_concat]
    exact before

/-- A refusal over the new catalog is that of the last statement of the applier. -/
theorem refusal_of_populate
    {catalog : Option Text}
    {statement : Text}
    {earlier later : History}
    (made :
      (populate factory previewLimit prepared
        ((creation prepared.database.text).events none)).history =
          earlier ++ ⟨.execute catalog statement, false⟩ :: later) :
    factory.server ((creation prepared.database.text).events none)
        (.connect (some prepared.name)) = none ∧
      catalog = some prepared.name ∧
      (tenantRun factory previewLimit prepared).history =
        earlier ++ [⟨.execute catalog statement, false⟩] ∧
      ∃ fault tables executed,
        factory.server earlier (.execute catalog statement) = some fault ∧
          (tenantRun factory previewLimit prepared).result =
            Applier.interruptedResult tables executed statement fault := by
  have noneInCreation : NoRefusal (tenantHistory prepared) :=
    noRefusal_of_succeeded (succeeded_tenantHistory prepared)
  rw [history_populate] at made
  cases answer :
      factory.server ((creation prepared.database.text).events none)
        (.connect (some prepared.name)) with
  | some fault =>
      rw [factory.within_of_refused _ answer] at made
      refine (NoRefusal.ne_append_cons (noRefusal_append ?_ ?_) made).elim
      · exact fun event member => noneInCreation event (List.mem_append_left _ member)
      · simp [NoRefusal, Call.statement?]
  | none =>
      obtain ⟨verdict, _, filled⟩ :=
        fillDatabase_cases (tenantConnection factory previewLimit prepared) prepared.blocks
          (tenantHistory prepared)
      obtain ⟨calls, succeeded, ran⟩ :=
        Applier.history_run_cases (tenantConnection factory previewLimit prepared)
          (tenantHistory prepared) prepared.blocks
      have noneBefore : NoRefusal (tenantHistory prepared ++ calls) :=
        noRefusal_append noneInCreation (noRefusal_of_succeeded succeeded)
      rw [factory.within_of_opened _ answer, ← tenantHistory] at made
      dsimp only at made
      rw [filled, List.append_assoc] at made
      rcases ran with ran | ⟨sent, fault, tables, executed, ran, answered, result⟩
      · rw [ran] at made
        have noneAfter := noRefusal_ending (some prepared.name) verdict
        exact (NoRefusal.ne_append_cons (noRefusal_append noneBefore (noneAfter _)) made).elim
      · rw [ran, List.append_assoc, List.singleton_append] at made
        obtain ⟨rfl, rfl, rfl⟩ :=
          split_of_refusal noneBefore (noRefusal_ending _ verdict _) made
        exact ⟨rfl, rfl, ran, fault, tables, executed, answered, result⟩

/-- A run reports a failure exactly if cleaning up after it does not come in its place. -/
theorem reports_outcomeAfter_iff
    {failed : ApplyResult}
    {first : Failure}
    {cleanup : Option Fault}
    (fails : failed.failure = some first) :
    (∃ result,
      outcomeAfter prepared failed cleanup = .ok result ∧
        result.applied.failure = some first) ↔
      cleanup = none ∨
        first.kind = .executionFailure ∧ cleanup = some (.driver first.diagnostic) := by
  rcases first with ⟨kind, statement, diagnostic⟩
  rcases cleanup with _ | message | message
  · simp [outcomeAfter, fails]
  · simp [outcomeAfter, failedExecution, fails, eq_comm]
  · simp [outcomeAfter]

/-- A connection to the new catalog that was opened was accepted by the server. -/
theorem connect_of_mem_populate
    (opened :
      ⟨.connect (some prepared.name), true⟩ ∈
        (populate factory previewLimit prepared
          ((creation prepared.database.text).events none)).history) :
    factory.server ((creation prepared.database.text).events none)
      (.connect (some prepared.name)) = none := by
  rw [history_populate] at opened
  cases answer :
      factory.server ((creation prepared.database.text).events none)
        (.connect (some prepared.name)) with
  | none =>
      rfl
  | some fault =>
      rw [factory.within_of_refused _ answer, List.mem_append] at opened
      rcases opened with created | refused
      · cases (connect_mem_events_iff.mp created).1
      · cases List.mem_singleton.mp refused

/-- A run that created the database comes to what its first failure tells. -/
theorem FirstFailure.carryOut_of_created
    {catalog : Option Text}
    {past : History}
    {first : Failure}
    (created : (administrate factory prepared).ending = .finished none)
    (administered :
      (administrate factory prepared).history =
        (creation prepared.database.text).events none)
    (fails :
      FirstFailure factory previewLimit prepared
        (carryOut factory previewLimit prepared).history catalog past first) :
    ∃ failed : ApplyResult,
      failed.failure = some first ∧
        (∀ event ∈ past.dropLast, event.succeeded = true) ∧
        (carryOut factory previewLimit prepared).history =
          cleanedUp factory catalog past ∧
        (carryOut factory previewLimit prepared).outcome =
          outcomeAfter prepared failed (cleanupFault factory catalog past) := by
  obtain ⟨populated, _⟩ := Provision.carryOut_of_created previewLimit created
  rw [administered] at populated
  have beforeLast := succeeded_dropLast_tenantRun factory previewLimit prepared
  cases fails with
  | refused sent answered =>
      rw [populated] at sent
      obtain ⟨opened, rfl, made, _, _, _, sameAnswer, ran⟩ := refusal_of_populate sent
      cases sameAnswer.symm.trans answered
      rw [← made]
      exact ⟨_, rfl, beforeLast, carryOut_of_stopped created administered opened ran rfl⟩
  | @stopped applied _ connected ran isFailure _ =>
      rw [populated] at connected
      have failure : applied.success = false := by
        rw [ApplyResult.success, isFailure]
        rfl
      have opened := connect_of_mem_populate connected
      exact ⟨applied, isFailure, beforeLast,
        carryOut_of_stopped created administered opened ran failure⟩

/-- A prepared run comes to what its first failure and cleaning up after it tell. -/
theorem FirstFailure.carryOut
    {catalog : Option Text}
    {past : History}
    {first : Failure}
    (fails :
      FirstFailure factory previewLimit prepared
        (carryOut factory previewLimit prepared).history catalog past first) :
    ∃ failed : ApplyResult,
      failed.failure = some first ∧
        (∀ event ∈ past.dropLast, event.succeeded = true) ∧
        (Provision.carryOut factory previewLimit prepared).history =
          cleanedUp factory catalog past ∧
        (Provision.carryOut factory previewLimit prepared).outcome =
          outcomeAfter prepared failed (cleanupFault factory catalog past) := by
  obtain ⟨conversation, administers, administered⟩ := administrate_cases factory prepared
  generalize ended : (administrate factory prepared).ending = ending at administers
  cases administers with
  | created =>
      exact fails.carryOut_of_created ended administered
  | inVain inVain failing =>
      have sameHistory :
          (Provision.carryOut factory previewLimit prepared).history =
            (administrate factory prepared).history := by
        cases failing with
        | reported _ failed =>
            obtain ⟨applied, rfl, _⟩ := failed
            exact (carryOut_of_applied previewLimit ended).1
        | broken _ =>
            exact (carryOut_of_broken previewLimit ended).1
      cases fails with
      | refused sent answered =>
          rw [sameHistory] at sent
          obtain ⟨opened, rfl, rfl, rfl⟩ := refusal_of_administrate sent
          refine ⟨_, rfl, ?_, carryOut_of_refused previewLimit opened answered⟩
          simp
      | stopped connected _ _ _ =>
          rw [sameHistory, administered] at connected
          cases (connect_mem_events_iff.mp connected).1

end

/--
What a run comes to after its first failure is told by that failure and by the fault that
rolling back or closing the connection comes to, if any.  The run reports the failure exactly
if there is no such fault, or one of the driver that is no different.
-/
theorem run_reports_first_failure_or_cleanup
    {factory : ConnectionFactory}
    {settings : RunSettings}
    {script : Text}
    {name : Option Text}
    {prepared : Prepared}
    {catalog : Option Text}
    {past : History}
    {first : Failure}
    (prepares : (prepare settings script name).outcome = .ok prepared)
    (fails :
      FirstFailure factory settings.previewLimit prepared
        (provisionOver factory settings script name).history catalog past first) :
    ∃ failed : ApplyResult,
      failed.failure = some first ∧
        (∀ event ∈ past.dropLast, event.succeeded = true) ∧
        (provisionOver factory settings script name).history =
          cleanedUp factory catalog past ∧
        (provisionOver factory settings script name).outcome =
          outcomeAfter prepared failed (cleanupFault factory catalog past) ∧
        ((∃ result,
            (provisionOver factory settings script name).outcome = .ok result ∧
              result.applied.failure = some first) ↔
          cleanupFault factory catalog past = none ∨
            first.kind = .executionFailure ∧
              cleanupFault factory catalog past = some (.driver first.diagnostic)) := by
  obtain ⟨sameOutcome, sameHistory⟩ := provisionOver_of_prepared factory prepares
  rw [sameHistory] at fails ⊢
  obtain ⟨failed, isFailure, beforeLast, history, outcome⟩ := fails.carryOut
  rw [sameOutcome, outcome]
  exact ⟨failed, isFailure, beforeLast, history, rfl, reports_outcomeAfter_iff isFailure⟩

/-- A run reports the table that the driver refused. -/
theorem refused_table_is_reported :
    let server : Server := fun _ call =>
      if call = .execute (some Sample.name) Sample.users.text then
        some (.driver "denied")
      else
        none
    ∃ result,
      (provision server .default Sample.script (some Sample.name)).outcome = .ok result ∧
        result.applied.failure =
          some {
            kind := .executionFailure
            statement := some Sample.users.text
            diagnostic := "denied"
          } := by
  intro server
  have sent :
      (provision server .default Sample.script (some Sample.name)).history =
        tenantHistory Sample.prepared ++
          ⟨.execute (some Sample.name) Sample.users.text, false⟩ ::
            [⟨.rollback (some Sample.name), true⟩, ⟨.close (some Sample.name), true⟩] := by
    decide +kernel
  have answered :
      server (tenantHistory Sample.prepared)
          (.execute (some Sample.name) Sample.users.text) =
        some (.driver "denied") := by
    decide
  have fails :
      FirstFailure (.ofServer server) RunSettings.default.previewLimit Sample.prepared
        (provision server .default Sample.script (some Sample.name)).history
        (some Sample.name) _ _ :=
    .refused sent answered
  obtain ⟨_, _, _, _, _, reports⟩ :=
    run_reports_first_failure_or_cleanup Sample.prepare_script fails
  exact reports.mpr (.inl (by decide))

namespace Sample

/-- A script with two tables that refer to each other. -/
def circularScript : Text :=
  ("CREATE DATABASE __database_name__;\n" ++
    "CREATE TABLE a (b INT REFERENCES b (id)) ENGINE = InnoDB;\n" ++
    "CREATE TABLE b (a INT REFERENCES a (id)) ENGINE = InnoDB;").toList

def circular : Prepared :=
  {
    name := name
    blocks :=
      [
        database,
        {
          kind := .createTable
          text := "CREATE TABLE a (b INT REFERENCES b (id)) ENGINE = InnoDB;".toList
          order := 1
          lineNumber := 2
        },
        {
          kind := .createTable
          text := "CREATE TABLE b (a INT REFERENCES a (id)) ENGINE = InnoDB;".toList
          order := 2
          lineNumber := 3
        }
      ]
    database := database
  }

/-- The failure that two tables which refer to each other are. -/
def circle : Failure :=
  {
    kind := .cyclicDependency
    statement := some "CREATE TABLE a (b INT REFERENCES b (id)) ENGINE = InnoDB;".toList
    diagnostic := "Cyclic foreign-key dependency: a -> b -> a"
  }

end Sample

/-- A fault of rolling back hides that tables refer to each other. -/
theorem fault_of_rolling_back_hides_circle :
    let server : Server := fun _ call =>
      if call = .rollback (some Sample.name) then some (.driver "gone away") else none
    let run := provision server .default Sample.circularScript (some Sample.name)
    (prepare .default Sample.circularScript (some Sample.name)).outcome =
        .ok Sample.circular ∧
      FirstFailure (.ofServer server) RunSettings.default.previewLimit Sample.circular
        run.history (some Sample.name) (tenantHistory Sample.circular) Sample.circle ∧
      run.outcome.toOption.map (·.applied.failure) =
        some (some {
          kind := .executionFailure
          statement := Sample.circle.statement
          diagnostic := "gone away"
        }) := by
  intro server run
  have prepares :
      (prepare .default Sample.circularScript (some Sample.name)).outcome.toOption =
        some Sample.circular := by
    decide +kernel
  have ran :
      (tenantRun (.ofServer server) RunSettings.default.previewLimit
          Sample.circular).result.toOption =
        some (Applier.failed (.start ⟨[], 0⟩) Sample.circle) := by
    decide +kernel
  have stopped :
      run.history =
          (tenantRun (.ofServer server) RunSettings.default.previewLimit
              Sample.circular).history ++
            [⟨.rollback (some Sample.name), false⟩, ⟨.close (some Sample.name), true⟩] ∧
        run.outcome.toOption.map (·.applied.failure) =
          some (some {
            kind := .executionFailure
            statement := Sample.circle.statement
            diagnostic := "gone away"
          }) := by
    decide +kernel
  have sentNothing :
      (tenantRun (.ofServer server) RunSettings.default.previewLimit
          Sample.circular).history =
        tenantHistory Sample.circular := by
    decide +kernel
  have opened : ⟨.connect (some Sample.circular.name), true⟩ ∈ run.history := by
    rw [stopped.1, sentNothing]
    simp [tenantHistory]
  refine ⟨eq_ok_of_toOption prepares, ?_, stopped.2⟩
  rw [← sentNothing]
  exact .stopped opened (eq_ok_of_toOption ran) rfl (by decide)

end TenantSchema.Provision
