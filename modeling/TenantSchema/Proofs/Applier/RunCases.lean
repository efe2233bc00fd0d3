import TenantSchema.Plan
import TenantSchema.Proofs.Applier.Attempts
import TenantSchema.Proofs.Applier.DocumentOrder

namespace TenantSchema.Applier

open Table

/-!
# What a run can do

A run finds a definition without a name before anything is sent, performs its whole course,
or stops at the first statement that the server answers with a fault.  These three cases say
everything about the result and the history of a run; the statements about runs are drawn
from them.
-/

/-- The session that a run starts with, watched. -/
def startWatched (history : History) : Session (Execution × List Attempt) :=
  .start (⟨history, 0⟩, [])

/-- The attempts that a run makes, in order. -/
def attempts
    (connection : Connection)
    (history : History)
    (blocks : List Block) :
    List Attempt :=
  match Index.ofBlocks blocks with
  | .error _ =>
      []
  | .ok index =>
      (applyEach index (watched (execute connection)) blocks
        (startWatched history)).session.world.2

/-- The blocks that a run executed, in order. -/
def executed
    (connection : Connection)
    (history : History)
    (blocks : List Block) :
    List Block :=
  ((attempts connection history blocks).filter Attempt.succeeded).map
    Attempt.block

/-- The result of a run that performed its whole course. -/
def finishedResult
    (steps : List Step)
    (ending : Option (Block × List Text)) :
    ApplyResult :=
  {
    failure :=
      ending.map fun (block, circle) =>
        {
          kind := .cyclicDependency
          statement := some block.text
          diagnostic := cyclicMessage circle
        }
    createdTables := createdNames steps
    executedStatements := (handedOver steps).length
  }

/--
The result of a run that a fault ended at `statement`, after it had created the given tables
and executed so many statements.
-/
def interruptedResult
    (tables : List Text)
    (executed : Nat)
    (statement : Text) :
    Fault → Except String ApplyResult
  | .driver message =>
      .ok {
        failure := some {
          kind := .executionFailure
          statement := some statement
          diagnostic := message
        }
        createdTables := tables
        executedStatements := executed
      }
  | .unhandled message =>
      .error message

/-- The result of a run that finds a definition without a name. -/
def malformedResult (block : Block) : ApplyResult :=
  {
    failure := some {
      kind := .malformedStatement
      statement := some block.text
      diagnostic := malformedMessage block
    }
    createdTables := []
    executedStatements := 0
  }

theorem keepsLedger_execute (connection : Connection) :
    KeepsLedger (execute connection) := by
  intro block session
  unfold execute
  dsimp only
  split <;> rfl

/-- A statement that ran was accepted by the server and counted. -/
theorem execute_eq_done
    {connection : Connection}
    {block : Block}
    {session later : Session Execution}
    (finished : execute connection block session = .done later) :
    connection.server session.world.history
        (.execute connection.catalog block.text) = none ∧
      later.world = {
        history :=
          session.world.history ++
            [⟨.execute connection.catalog block.text, true⟩]
        executed := session.world.executed + 1
      } := by
  unfold execute Server.perform at finished
  dsimp only [Session.note] at finished
  cases answer :
      connection.server session.world.history
        (.execute connection.catalog block.text) with
  | none =>
      rw [answer] at finished
      cases finished
      exact ⟨rfl, rfl⟩
  | some fault =>
      rw [answer] at finished
      cases fault <;> cases finished

/-- The cause that the applier makes of a fault. -/
def causeOf (block : Block) : Fault → ExecutionFault
  | .driver message =>
      .refused block.text message
  | .unhandled message =>
      .unhandled message

/-- A statement that did not run was answered with a fault, which is the cause. -/
theorem execute_eq_stopped
    {connection : Connection}
    {block : Block}
    {cause : ExecutionFault}
    {session later : Session Execution}
    (stopped : execute connection block session = .stopped cause later) :
    ∃ fault,
      connection.server session.world.history
          (.execute connection.catalog block.text) = some fault ∧
        later.world = {
          history :=
            session.world.history ++
              [⟨.execute connection.catalog block.text, false⟩]
          executed := session.world.executed
        } ∧
        cause = causeOf block fault := by
  unfold execute Server.perform at stopped
  dsimp only [Session.note] at stopped
  cases answer :
      connection.server session.world.history
        (.execute connection.catalog block.text) with
  | none =>
      rw [answer] at stopped
      cases stopped
  | some fault =>
      rw [answer] at stopped
      cases fault with
      | driver message =>
          cases stopped
          exact ⟨.driver message, rfl, rfl, rfl⟩
      | unhandled message =>
          cases stopped
          exact ⟨.unhandled message, rfl, rfl, rfl⟩

/--
The books of a watched run: the history goes on with the calls of the attempts, the
statements counted are the attempts that succeeded, and these are what the server accepted.
-/
structure Accounted
    (connection : Connection)
    (history : History)
    (world : Execution × List Attempt) : Prop where
  calls :
    world.1.history = history ++ world.2.map (Attempt.event connection)
  counted :
    world.1.executed = world.2.countP Attempt.succeeded
  accepted :
    ∀ before attempt after,
      world.2 = before ++ attempt :: after →
      attempt.succeeded = true →
      connection.server
          (history ++ before.map (Attempt.event connection))
          (.execute connection.catalog attempt.block.text) = none

theorem Accounted.start
    (connection : Connection)
    (history : History) :
    Accounted connection history (startWatched history).world where
  calls := by
    simp [startWatched, Session.start]
  counted := by
    simp [startWatched, Session.start]
  accepted := by
    simp [startWatched, Session.start]

/-- One more attempt keeps the books in order when it is entered in all of them. -/
theorem Accounted.concat
    {connection : Connection}
    {history : History}
    {world later : Execution × List Attempt}
    (attempt : Attempt)
    (accounted : Accounted connection history world)
    (made : later.2 = world.2 ++ [attempt])
    (called :
      later.1.history = world.1.history ++ [attempt.event connection])
    (executed :
      later.1.executed = world.1.executed + attempt.succeeded.toNat)
    (answered :
      attempt.succeeded = true →
      connection.server world.1.history
        (.execute connection.catalog attempt.block.text) = none) :
    Accounted connection history later where
  calls := by
    rw [called, made, accounted.calls]
    simp
  counted := by
    rw [executed, made, accounted.counted]
    cases outcome : attempt.succeeded <;> simp [outcome]
  accepted := by
    intro before other after shape succeeded
    rw [made] at shape
    rcases of_concat_eq_append_cons shape with
      ⟨rfl, rfl, _⟩ | ⟨others, _, earlier⟩
    · rw [← accounted.calls]
      exact answered succeeded
    · exact accounted.accepted before other others earlier succeeded

/-- One watched statement keeps the books in order. -/
theorem Accounted.watched_execute
    {connection : Connection}
    {history : History}
    (block : Block)
    (session : Session (Execution × List Attempt))
    (accounted : Accounted connection history session.world) :
    Accounted connection history
      (watched (execute connection) block session).session.world := by
  unfold watched
  dsimp only
  cases ran : execute connection block (withoutAttempts session) with
  | done later =>
      obtain ⟨answered, world⟩ := execute_eq_done ran
      refine .concat ⟨block, session.ledger.names, true⟩
        accounted rfl ?_ ?_ ?_
      · exact congrArg Execution.history world
      · exact congrArg Execution.executed world
      · exact fun _ => answered
  | stopped cause later =>
      obtain ⟨_, _, world, _⟩ := execute_eq_stopped ran
      refine .concat ⟨block, session.ledger.names, false⟩
        accounted rfl ?_ ?_ ?_
      · exact congrArg Execution.history world
      · have counted := congrArg Execution.executed world
        exact counted
      · exact fun succeeded => by cases succeeded

theorem accounted_perform
    (connection : Connection)
    (history : History)
    (steps : List Step) :
    Accounted connection history
      (perform (watched (execute connection)) steps
        (startWatched history)).session.world :=
  perform_invariant Accounted.watched_execute steps
    (Accounted.start connection history)

theorem exists_course_of_ofBlocks
    {index : Index}
    {blocks : List Block}
    (indexed : Index.ofBlocks blocks = .ok index) :
    ∃ steps ending, Course index blocks [] steps ending :=
  exists_course index (Index.exists_ofBlocks_iff.mp ⟨index, indexed⟩) []

section

variable
  {connection : Connection}
  {history : History}
  {blocks : List Block}

theorem attempts_eq
    {index : Index}
    {steps : List Step}
    {ending : Option (Block × List Text)}
    (indexed : Index.ofBlocks blocks = .ok index)
    (course : Course index blocks [] steps ending) :
    attempts connection history blocks =
      (perform (watched (execute connection)) steps
        (startWatched history)).session.world.2 := by
  have follows := course.follows
    (keepsLedger_watched (keepsLedger_execute connection))
    (startWatched history) rfl
  simp only [attempts, indexed]
  rw [follows.session_eq]

theorem history_of_halt
    (connection : Connection)
    (session : Session Execution)
    (halt : Halt ExecutionFault) :
    (Run.halt connection session halt).history = session.world.history := by
  unfold Run.halt
  split <;> rfl

theorem history_of_run
    {index : Index}
    (indexed : Index.ofBlocks blocks = .ok index) :
    (run connection history blocks).history =
      (applyEach index (execute connection) blocks
        (.start ⟨history, 0⟩)).session.world.history := by
  simp only [run, indexed]
  cases applyEach index (execute connection) blocks (.start ⟨history, 0⟩) with
  | done later =>
      rfl
  | stopped halt later =>
      exact history_of_halt connection later halt

/-- A run that finds a definition without a name sends nothing and reports it. -/
theorem run_of_malformed
    (connection : Connection)
    (history : History)
    {block : Block}
    (malformed : Index.ofBlocks blocks = .error block) :
    (run connection history blocks).result = .ok (malformedResult block) ∧
      attempts connection history blocks = [] ∧
      (run connection history blocks).history = history := by
  refine ⟨?_, ?_, ?_⟩
  · simp only [run, malformed]
    rfl
  · simp only [attempts, malformed]
  · simp only [run, malformed]
    rfl

/-- The history of a run goes on with the calls of its attempts. -/
theorem run_history
    (connection : Connection)
    (history : History)
    (blocks : List Block) :
    (run connection history blocks).history =
      history ++
        (attempts connection history blocks).map
          (Attempt.event connection) := by
  cases indexed : Index.ofBlocks blocks with
  | error block =>
      obtain ⟨_, noAttempts, unchanged⟩ :=
        run_of_malformed connection history indexed
      rw [noAttempts, unchanged]
      simp
  | ok index =>
      obtain ⟨steps, ending, course⟩ := exists_course_of_ofBlocks indexed
      have watching := course.follows
        (keepsLedger_watched (keepsLedger_execute connection))
        (startWatched history) rfl
      have unwatched := course.session_watched
        (keepsLedger_execute connection) (startWatched history) rfl
      rw [watching.session_eq] at unwatched
      rw [history_of_run indexed, attempts_eq indexed course]
      exact (congrArg (fun session => session.world.history) unwatched).trans
        (accounted_perform connection history steps).calls

theorem executedStatements_map_event
    (connection : Connection)
    (made : List Attempt) :
    executedStatements (made.map (Attempt.event connection)) =
      ((made.filter Attempt.succeeded).map Attempt.block).map Block.text := by
  induction made with
  | nil =>
      rfl
  | cons attempt rest inductionHypothesis =>
      rw [List.map_cons, executedStatements, List.filterMap_cons]
      cases outcome : attempt.succeeded with
      | true =>
          simp only [Attempt.event, outcome, List.filter_cons, if_true,
            List.map_cons]
          exact congrArg _ inductionHypothesis
      | false =>
          simp only [Attempt.event, outcome, List.filter_cons,
            Bool.false_eq_true, if_false]
          exact inductionHypothesis

/-- The statements that a run executes are the texts of the blocks that it executes. -/
theorem executedStatements_run
    (connection : Connection)
    (history : History)
    (blocks : List Block) :
    executedStatements (run connection history blocks).history =
      executedStatements history ++
        (executed connection history blocks).map Block.text := by
  rw [run_history, executedStatements, List.filterMap_append]
  exact congrArg _ (executedStatements_map_event connection _)

theorem Follows.of_done
    {applied : Outcome (Halt ExecutionFault) Execution}
    {later : Session Execution}
    {ending : Option (Block × List Text)}
    (follows : Follows applied (.done later) ending) :
    applied = close ending later := by
  rcases follows with ⟨_, performed, closed⟩ | ⟨_, _, _, performed, _⟩
  · cases performed
    exact closed
  · cases performed

theorem Follows.of_stopped
    {applied : Outcome (Halt ExecutionFault) Execution}
    {obstacle : Obstacle ExecutionFault}
    {later : Session Execution}
    {ending : Option (Block × List Text)}
    (follows : Follows applied (.stopped obstacle later) ending) :
    ∃ block,
      applied = .stopped { block := block, obstacle := obstacle } later := by
  rcases follows with ⟨_, performed, _⟩ | ⟨block, _, _, performed, stopped⟩
  · cases performed
  · cases performed
    exact ⟨block, stopped⟩

/-- A run that is closed reports the tables and statements of its course. -/
theorem result_of_close
    {index : Index}
    {steps : List Step}
    {ending : Option (Block × List Text)}
    {later : Session Execution}
    (indexed : Index.ofBlocks blocks = .ok index)
    (closed :
      applyEach index (execute connection) blocks (.start ⟨history, 0⟩) =
        close ending later)
    (names : later.ledger.names = createdNames steps)
    (counted : later.world.executed = (handedOver steps).length) :
    (run connection history blocks).result =
      .ok (finishedResult steps ending) := by
  simp only [run, indexed, closed]
  rcases ending with _ | ⟨block, circle⟩
  · simp [close, finishedResult, names, counted]
  · simp [close, finishedResult, Run.halt, Run.fail, failed, names, counted]

/-- A run that a fault interrupts reports the tables and statements before it. -/
theorem result_of_interruption
    {index : Index}
    {document block : Block}
    {fault : Fault}
    {steps : List Step}
    {later : Session Execution}
    (indexed : Index.ofBlocks blocks = .ok index)
    (stopped :
      applyEach index (execute connection) blocks (.start ⟨history, 0⟩) =
        .stopped {
          block := document
          obstacle := .action (causeOf block fault)
        } later)
    (names : later.ledger.names = createdNames steps)
    (counted : later.world.executed = (handedOver steps).length) :
    (run connection history blocks).result =
      interruptedResult (createdNames steps) (handedOver steps).length
        block.text fault := by
  simp only [run, indexed, stopped]
  cases fault with
  | driver message =>
      simp [Run.halt, Run.fail, failed, causeOf, interruptedResult,
        names, counted]
  | unhandled message =>
      rfl

/--
A run of a document with an index performs its whole course, or is interrupted by the fault
that the server answers the first failing statement with.
-/
theorem run_cases
    (connection : Connection)
    (history : History)
    {index : Index}
    {steps : List Step}
    {ending : Option (Block × List Text)}
    (indexed : Index.ofBlocks blocks = .ok index)
    (course : Course index blocks [] steps ending) :
    (attempts connection history blocks = attemptsOf [] steps ∧
      (run connection history blocks).result =
        .ok (finishedResult steps ending)) ∨
      ∃ before step block after fault,
        steps = before ++ step :: after ∧
          step.block? = some block ∧
          attempts connection history blocks =
            attemptsOf [] before ++ [⟨block, createdNames before, false⟩] ∧
          connection.server
              (history ++
                (attemptsOf [] before).map (Attempt.event connection))
              (.execute connection.catalog block.text) = some fault ∧
          (run connection history blocks).result =
            interruptedResult (createdNames before) (handedOver before).length
              block.text fault := by
  have keepsLedger := keepsLedger_watched (keepsLedger_execute connection)
  have distinct :
      ((startWatched history).ledger.names ++ createdNames steps).Nodup :=
    (course.orderly_of_ofBlocks indexed).nodup List.nodup_nil
  have accounted := accounted_perform connection history
  have plain :=
    perform_watched (execute connection) steps (startWatched history)
  have follows := course.follows (keepsLedger_execute connection)
    (withoutAttempts (startWatched history)) rfl
  rw [attempts_eq indexed course]
  rcases perform_cases keepsLedger distinct with ⟨later, performed⟩ |
    ⟨before, step, block, after, middle, cause, later,
      shape, isBlock, leading, stopped, performed⟩
  · have made := attempts_of_perform (keepsLedger_execute connection) performed
    have names := ledger_of_perform keepsLedger performed
    have counted := (accounted steps).counted
    rw [performed] at plain counted ⊢
    rw [← plain] at follows
    refine .inl ⟨made, ?_⟩
    apply result_of_close indexed follows.of_done names
    rw [← countP_attemptsOf []]
    exact counted.trans (congrArg _ made)
  · have made := attempts_of_perform (keepsLedger_execute connection) leading
    have names := ledger_of_perform keepsLedger leading
    have books : Accounted connection history middle.world := by
      simpa only [leading, Outcome.session_done] using accounted before
    obtain ⟨fault, answered, world, rfl⟩ :=
      execute_eq_stopped (of_watched_stopped stopped)
    rw [performed] at plain ⊢
    rw [← plain] at follows
    obtain ⟨document, halted⟩ := follows.of_stopped
    refine .inr ⟨before, step, block, after, fault,
      shape, isBlock, ?_, ?_, ?_⟩
    · have failed := attempts_of_watched_stopped stopped
      rw [made, names] at failed
      exact failed
    · have calls := books.calls
      rw [made] at calls
      rw [← answered]
      exact congrArg
        (fun earlier => connection.server earlier
          (.execute connection.catalog block.text)) calls.symm
    · apply result_of_interruption indexed halted
      · exact (congrArg Ledger.names
          (keepsLedger.of_stopped stopped)).trans names
      · rw [world, ← countP_attemptsOf []]
        exact books.counted.trans (congrArg _ made)

theorem executed_of_attempts
    {steps : List Step}
    (made : attempts connection history blocks = attemptsOf [] steps) :
    executed connection history blocks = handedOver steps := by
  have allSucceeded :
      (attemptsOf [] steps).filter Attempt.succeeded = attemptsOf [] steps :=
    List.filter_eq_self.mpr
      (fun attempt member => succeeded_of_mem_attemptsOf member)
  rw [executed, made, allSucceeded, map_block_attemptsOf]

/-- A run whose statements are all accepted performs its whole course. -/
theorem run_of_accepting
    (connection : Connection)
    (history : History)
    {index : Index}
    {steps : List Step}
    {ending : Option (Block × List Text)}
    (accepting :
      ∀ past statement,
        connection.server past (.execute connection.catalog statement) = none)
    (indexed : Index.ofBlocks blocks = .ok index)
    (course : Course index blocks [] steps ending) :
    (run connection history blocks).result = .ok (finishedResult steps ending) ∧
      executed connection history blocks = handedOver steps := by
  rcases run_cases connection history indexed course with
    ⟨made, result⟩ | ⟨_, _, _, _, _, _, _, _, answered, _⟩
  · exact ⟨result, executed_of_attempts made⟩
  · rw [accepting] at answered
    cases answered

/-- The server accepted the statement of an attempt that succeeded. -/
theorem server_of_succeeded
    {before after : List Attempt}
    {attempt : Attempt}
    (shape :
      attempts connection history blocks = before ++ attempt :: after)
    (succeeded : attempt.succeeded = true) :
    connection.server
        (history ++ before.map (Attempt.event connection))
        (.execute connection.catalog attempt.block.text) = none := by
  cases indexed : Index.ofBlocks blocks with
  | error block =>
      rw [(run_of_malformed connection history indexed).2.1] at shape
      simp at shape
  | ok index =>
      obtain ⟨steps, ending, course⟩ := exists_course_of_ofBlocks indexed
      rw [attempts_eq indexed course] at shape
      exact (accounted_perform connection history steps).accepted
        before attempt after shape succeeded

/--
Every attempt of a run was made by a step of its course: the attempts before it are those of
the steps before, and the ledger listed the tables that these had created.
-/
theorem exists_step_of_attempts
    {index : Index}
    {steps : List Step}
    {ending : Option (Block × List Text)}
    (indexed : Index.ofBlocks blocks = .ok index)
    (course : Course index blocks [] steps ending)
    {before after : List Attempt}
    {attempt : Attempt}
    (shape :
      attempts connection history blocks = before ++ attempt :: after) :
    ∃ leading step trailing,
      steps = leading ++ step :: trailing ∧
        step.block? = some attempt.block ∧
        attempt.ledger = createdNames leading ∧
        before = attemptsOf [] leading := by
  rcases run_cases connection history indexed course with
    ⟨made, _⟩ | ⟨earlier, step, block, later, _, stepsShape, isBlock, made, _⟩
  · exact exists_step_of_attemptsOf (made.symm.trans shape)
  · have joined := made.symm.trans shape
    rcases of_concat_eq_append_cons joined with
      ⟨rfl, rfl, _⟩ | ⟨others, _, made⟩
    · exact ⟨earlier, step, later, stepsShape, isBlock, rfl, rfl⟩
    · obtain ⟨leading, other, trailing, rfl, otherBlock, listed, same⟩ :=
        exists_step_of_attemptsOf made
      exact ⟨leading, other, trailing ++ step :: later,
        by rw [stepsShape, List.append_assoc]; rfl,
        otherBlock, listed, same⟩

end

namespace Sample

def block (kind : Kind) (order : Int) (text : String) : Block :=
  { kind := kind, text := text.toList, order := order }

/-- The statement that creates the database, which the applier passes over. -/
def database : Block :=
  block .createDatabase 0 "CREATE DATABASE acme;"

/-- A table that refers to one defined later. -/
def posts : Block :=
  block .createTable 1
    "CREATE TABLE posts (author INT REFERENCES users (id)) ENGINE = InnoDB;"

def greeting : Block :=
  block .insert 2 "INSERT INTO posts VALUES (1);"

def users : Block :=
  block .createTable 3 "CREATE TABLE users (id INT) ENGINE = InnoDB;"

/-- A second definition of a table. -/
def usersAgain : Block :=
  block .createTable 4 "CREATE TABLE users (name INT) ENGINE = InnoDB;"

def document : List Block :=
  [database, posts, greeting, users, usersAgain]

/-- A connection to a server that does whatever it is asked. -/
def accepting : Connection :=
  {
    server := .faultless
    catalog := none
    previewLimit := defaultPreviewLimit
  }

/-- A connection to a server that refuses the call after `accepted` others. -/
def refusingAfter (accepted : Nat) : Connection :=
  {
    server := fun history _ =>
      if history.length = accepted then some (.driver "gone away") else none
    catalog := none
    previewLimit := defaultPreviewLimit
  }

end Sample

end TenantSchema.Applier
