import TenantSchema.Proofs.Applier.Coverage

namespace TenantSchema.Applier

open Table

/-!
# The books of a run

The statements of a run are counted when the server accepted them, its tables are recorded
after that, and the run may end between any two statements.  However it ends, its result
counts exactly the calls that succeeded and lists the tables whose definitions are among them,
each once, in the order of their creation.
-/

/-- The statements that are sent over a connection fail by errors of the driver only. -/
def Connection.FailsByDriver (connection : Connection) : Prop :=
  ∀ past statement fault,
    connection.server past (.execute connection.catalog statement) = some fault →
    ∃ message, fault = .driver message

/-- The first definitions of defined tables bear the names of the tables. -/
theorem map_nameOf?_firstDefinitions
    {blocks : List Block}
    {names : List Text}
    (defined : ∀ name ∈ names, Defines blocks name) :
    (names.filterMap (firstDefinition? blocks)).map nameOf? =
      names.map some := by
  induction names with
  | nil =>
      rfl
  | cons name rest inductionHypothesis =>
      have isDefined := defined name (by simp)
      obtain ⟨definition, first⟩ :=
        Option.isSome_iff_exists.mp (firstDefinition?_isSome_iff.mpr isDefined)
      rw [List.filterMap_cons_some first, List.map_cons, List.map_cons,
        (of_firstDefinition? first).2.2]
      congr 1
      exact inductionHypothesis
        (fun other member => defined other (List.mem_cons_of_mem _ member))

/-- The definitions that a course hands over bear the names of the tables it creates. -/
theorem Course.names_of_definitions
    {index : Index}
    {blocks : List Block}
    {leading trailing : List Step}
    {ending : Option (Block × List Text)}
    (course : Course index blocks [] (leading ++ trailing) ending)
    (indexed : Index.ofBlocks blocks = .ok index) :
    ((handedOver leading).filter (fun block => block.kind == .createTable)).map
        nameOf? =
      (createdNames leading).map some := by
  rw [(course.filter_kind_handedOver indexed).2]
  apply map_nameOf?_firstDefinitions
  intro name created
  obtain ⟨definition, _, first⟩ :=
    course.exists_definition_of_mem_createdNames indexed created
  exact firstDefinition?_isSome_iff.mp (Option.isSome_of_eq_some first)

/-- The result of a run in keeping with the attempts that it made. -/
structure Balanced
    (made : List Attempt)
    (result : ApplyResult) : Prop where
  counted :
    result.executedStatements = made.countP Attempt.succeeded
  named :
    (((made.filter Attempt.succeeded).map Attempt.block).filter
        (fun block => block.kind == .createTable)).map nameOf? =
      result.createdTables.map some
  distinct :
    result.createdTables.Nodup

/-- A result that tells of the first steps of a course is in keeping with their attempts. -/
theorem balanced_of_course
    {index : Index}
    {blocks : List Block}
    {leading trailing : List Step}
    {ending : Option (Block × List Text)}
    {others : List Attempt}
    {result : ApplyResult}
    (course : Course index blocks [] (leading ++ trailing) ending)
    (indexed : Index.ofBlocks blocks = .ok index)
    (failed : others.filter Attempt.succeeded = [])
    (tables : result.createdTables = createdNames leading)
    (statements : result.executedStatements = (handedOver leading).length) :
    Balanced (attemptsOf [] leading ++ others) result := by
  have allSucceeded :
      (attemptsOf [] leading).filter Attempt.succeeded = attemptsOf [] leading :=
    List.filter_eq_self.mpr
      (fun attempt member => succeeded_of_mem_attemptsOf member)
  constructor
  · rw [List.countP_append, countP_attemptsOf, List.countP_eq_length_filter, failed,
      statements]
    rfl
  · rw [List.filter_append, failed, List.append_nil, allSucceeded,
      map_block_attemptsOf, course.names_of_definitions indexed, tables]
  · have distinct := (course.orderly_of_ofBlocks indexed).nodup List.nodup_nil
    rw [List.nil_append, createdNames_append] at distinct
    rw [tables]
    exact (List.nodup_append.mp distinct).1

/-- A run over such a connection comes to a result that is in keeping with its attempts. -/
theorem exists_balanced
    {connection : Connection}
    (failsByDriver : connection.FailsByDriver)
    (history : History)
    (blocks : List Block) :
    ∃ result,
      (run connection history blocks).result = .ok result ∧
        Balanced (attempts connection history blocks) result := by
  cases indexed : Index.ofBlocks blocks with
  | error block =>
      obtain ⟨result, noAttempts, _⟩ :=
        run_of_malformed connection history indexed
      refine ⟨malformedResult block, result, ?_⟩
      rw [noAttempts]
      exact ⟨rfl, rfl, List.nodup_nil⟩
  | ok index =>
      obtain ⟨steps, ending, course⟩ := exists_course_of_ofBlocks indexed
      rcases run_cases connection history indexed course with
        ⟨made, result⟩ |
        ⟨before, step, block, after, fault, rfl, _, made, answered, result⟩
      · refine ⟨_, result, ?_⟩
        rw [made, ← List.append_nil (attemptsOf [] steps)]
        exact balanced_of_course course.append_nil indexed rfl rfl rfl
      · obtain ⟨message, rfl⟩ := failsByDriver _ _ _ answered
        refine ⟨_, result, ?_⟩
        rw [made]
        exact balanced_of_course course indexed rfl rfl rfl

/--
The calls of a run send the blocks of its attempts.  If these fail by errors of the driver
only, the run comes to a result, which counts the calls that succeeded and lists the names of
the definitions among them, in order and each once.
-/
theorem result_accounts_for_calls
    (connection : Connection)
    (history : History)
    (blocks : List Block)
    (failsByDriver : connection.FailsByDriver) :
    ∃ result calls,
      (run connection history blocks).result = .ok result ∧
        (run connection history blocks).history = history ++ calls ∧
        calls =
          (attempts connection history blocks).map (Attempt.event connection) ∧
        result.executedStatements = calls.countP Event.succeeded ∧
        executedStatements calls =
          (executed connection history blocks).map Block.text ∧
        ((executed connection history blocks).filter
            (fun block => block.kind == .createTable)).map nameOf? =
          result.createdTables.map some ∧
        result.createdTables.Nodup := by
  obtain ⟨result, ran, balanced⟩ :=
    exists_balanced failsByDriver history blocks
  refine ⟨result, _, ran, run_history connection history blocks, rfl, ?_,
    executedStatements_map_event connection _, balanced.named,
    balanced.distinct⟩
  rw [List.countP_map]
  exact balanced.counted

theorem Sample.result_document :
    (run Sample.accepting [] Sample.document).result =
      .ok {
        failure := none
        createdTables := ["users".toList, "posts".toList]
        executedStatements := 3
      } := by
  with_unfolding_all rfl

theorem Sample.failsByDriver_refusingAfter (accepted : Nat) :
    (Sample.refusingAfter accepted).FailsByDriver := by
  intro past statement fault answered
  simp only [Sample.refusingAfter] at answered
  split at answered
  · exact ⟨_, (Option.some.inj answered).symm⟩
  · cases answered

/-- A run that is refused its third statement accounts for the two before it. -/
theorem interrupted_run_accounts_for_calls :
    ∃ result calls,
      (run (Sample.refusingAfter 2) [] Sample.document).result = .ok result ∧
        (run (Sample.refusingAfter 2) [] Sample.document).history = calls ∧
        calls.length = 3 ∧
        result.executedStatements = 2 ∧
        result.createdTables = ["users".toList, "posts".toList] := by
  obtain ⟨result, calls, ran, made, sent, counted, _, named, _⟩ :=
    result_accounts_for_calls (Sample.refusingAfter 2) [] Sample.document
      (Sample.failsByDriver_refusingAfter 2)
  have observed :
      (attempts (Sample.refusingAfter 2) [] Sample.document).length = 3 ∧
        ((attempts (Sample.refusingAfter 2) [] Sample.document).map
            (Attempt.event (Sample.refusingAfter 2))).countP Event.succeeded = 2 ∧
        ((executed (Sample.refusingAfter 2) [] Sample.document).filter
            (fun block => block.kind == .createTable)).map nameOf? =
          ["users".toList, "posts".toList].map some := by
    decide +kernel
  obtain ⟨length, successes, definitions⟩ := observed
  refine ⟨result, calls, ran, made, ?_, ?_, ?_⟩
  · rw [sent, List.length_map, length]
  · rw [counted, sent, successes]
  · exact (List.map_inj_right fun _ _ => Option.some.inj).mp
      (named.symm.trans definitions)

end TenantSchema.Applier
