import TenantSchema.Proofs.Applier.Accounting
import TenantSchema.Proofs.Applier.CycleVerdict

namespace TenantSchema.Applier

open Table

/-!
# What can stop a run

Once a document has an index, each of its definitions has a name, and so has each definition
that the index gives.  A course records no table twice.  So applying a document is stopped by
the fault of a statement or by a circle of references, and by nothing else; a run whose
statements fail by errors of the driver only always comes to a result.
-/

/-- The obstacles of an indexed document that a run reports in its result. -/
inductive IsReported : Obstacle ExecutionFault → Prop where
  | refused
      (statement : Text)
      (diagnostic : String) :
      IsReported (.action (.refused statement diagnostic))
  | cyclic
      (circle : List Text) :
      IsReported (.cyclic circle)

/--
An action that leaves the ledger alone is stopped, on a document whose index was built, by a
cause of its own or by a circle of references.
-/
theorem Course.obstacle_cases
    {Cause World : Type}
    {index : Index}
    {action : Action Cause World}
    {blocks : List Block}
    {steps : List Step}
    {ending : Option (Block × List Text)}
    {session later : Session World}
    {halt : Halt Cause}
    (course : Course index blocks [] steps ending)
    (indexed : Index.ofBlocks blocks = .ok index)
    (keepsLedger : KeepsLedger action)
    (noTables : session.ledger.names = [])
    (stopped : applyEach index action blocks session = .stopped halt later) :
    (∃ block middle cause,
      action block middle = .stopped cause later ∧
        halt.obstacle = .action cause) ∨
      ∃ circle, halt.obstacle = .cyclic circle := by
  have distinct : (session.ledger.names ++ createdNames steps).Nodup := by
    rw [noTables]
    exact (course.orderly_of_ofBlocks indexed).nodup List.nodup_nil
  have follows := course.follows keepsLedger session noTables
  rw [stopped] at follows
  rcases perform_cases keepsLedger distinct with ⟨middle, performed⟩ |
    ⟨_, _, block, _, middle, cause, last, _, _, _, failed, performed⟩
  · rw [performed] at follows
    rcases follows with ⟨_, _, closed⟩ | ⟨_, _, _, impossible, _⟩
    · rcases ending with _ | ⟨block, circle⟩
      · cases closed
      · cases closed
        exact .inr ⟨circle, rfl⟩
    · cases impossible
  · rw [performed] at follows
    rcases follows with ⟨_, impossible, _⟩ | ⟨_, _, _, same, halted⟩
    · cases impossible
    · cases same
      cases halted
      exact .inl ⟨block, middle, cause, failed, rfl⟩

section

variable
  {connection : Connection}
  {history : History}
  {blocks : List Block}
  {index : Index}

/-- A run is stopped by obstacles that it reports. -/
theorem isReported_of_stopped
    {halt : Halt ExecutionFault}
    {session later : Session Execution}
    (failsByDriver : connection.FailsByDriver)
    (indexed : Index.ofBlocks blocks = .ok index)
    (noTables : session.ledger.names = [])
    (stopped :
      applyEach index (execute connection) blocks session = .stopped halt later) :
    IsReported halt.obstacle := by
  obtain ⟨steps, ending, course⟩ := exists_course_of_ofBlocks indexed
  rcases course.obstacle_cases indexed (keepsLedger_execute connection)
      noTables stopped with
    ⟨block, middle, cause, failed, isCause⟩ | ⟨circle, isCircle⟩
  · obtain ⟨fault, answered, _, rfl⟩ := execute_eq_stopped failed
    obtain ⟨message, rfl⟩ := failsByDriver _ _ _ answered
    rw [isCause]
    exact .refused block.text message
  · rw [isCircle]
    exact .cyclic circle

/-- A definition is handed over while the ledger does not list its table. -/
theorem exists_fresh_name
    {attempt : Attempt}
    (made : attempt ∈ attempts connection history blocks)
    (kind : attempt.block.kind = .createTable) :
    ∃ table,
      nameOf? attempt.block = some table ∧ table ∉ attempt.ledger := by
  obtain ⟨before, after, shape⟩ := List.mem_iff_append.mp made
  cases indexed : Index.ofBlocks blocks with
  | error block =>
      rw [(run_of_malformed connection history indexed).2.1] at made
      cases made
  | ok index =>
      obtain ⟨steps, ending, course⟩ := exists_course_of_ofBlocks indexed
      obtain ⟨leading, step, trailing, rfl, isBlock, listed, _⟩ :=
        exists_step_of_attempts indexed course shape
      rcases course.step_cases indexed (by simp) isBlock with
        ⟨_, other⟩ | ⟨table, rfl, first⟩
      · exact ((kind_of_isOtherStatement other).1 kind).elim
      · refine ⟨table, (of_firstDefinition? first).2.2, ?_⟩
        rw [listed]
        cases (course.orderly_of_ofBlocks indexed).drop with
        | create fresh =>
            exact fresh

end

/--
A run whose statements fail by errors of the driver only comes to a result.  It never records
a table that the ledger lists, nor does it, once its document is indexed, meet a definition
without a name: what stops it then is a refused statement or a circle of references.
-/
theorem run_comes_to_result
    (connection : Connection)
    (history : History)
    (blocks : List Block)
    (failsByDriver : connection.FailsByDriver) :
    (∃ result, (run connection history blocks).result = .ok result) ∧
      (∀ attempt ∈ attempts connection history blocks,
        attempt.block.kind = .createTable →
        ∃ table,
          nameOf? attempt.block = some table ∧ table ∉ attempt.ledger) ∧
      ∀ index,
        Index.ofBlocks blocks = .ok index →
        AllNamed blocks ∧
          (∀ name definition,
            index.find? name = some definition →
            nameOf? definition = some name) ∧
          ∀ halt session,
            applyEach index (execute connection) blocks
                (.start ⟨history, 0⟩) = .stopped halt session →
            IsReported halt.obstacle := by
  refine ⟨?_, ?_, ?_⟩
  · obtain ⟨result, ran, _⟩ := exists_balanced failsByDriver history blocks
    exact ⟨result, ran⟩
  · intro attempt made kind
    exact exists_fresh_name made kind
  · intro index indexed
    refine ⟨Index.exists_ofBlocks_iff.mp ⟨index, indexed⟩, ?_, ?_⟩
    · intro name definition found
      rw [Index.find?_of_ofBlocks indexed] at found
      exact (of_firstDefinition? found).2.2
    · intro halt session stopped
      exact isReported_of_stopped failsByDriver indexed rfl stopped

/-- A document with a table that is defined twice and a circle comes to a result. -/
theorem circular_document_comes_to_result :
    ∃ result,
      (run (Sample.refusingAfter 1) []
          [Sample.greeting, Sample.badges, Sample.badges, Sample.badgedUsers]).result =
          .ok result ∧
        result.failure.map Failure.kind = some .cyclicDependency := by
  obtain ⟨⟨result, ran⟩, _⟩ :=
    run_comes_to_result (Sample.refusingAfter 1) []
      [Sample.greeting, Sample.badges, Sample.badges, Sample.badgedUsers]
      (Sample.failsByDriver_refusingAfter 1)
  have kind :
      (run (Sample.refusingAfter 1) []
          [Sample.greeting, Sample.badges, Sample.badges,
            Sample.badgedUsers]).result.toOption.map
        (fun result => result.failure.map Failure.kind) =
      some (some .cyclicDependency) := by
    decide +kernel
  rw [ran] at kind
  exact ⟨result, ran, Option.some.inj kind⟩

end TenantSchema.Applier
