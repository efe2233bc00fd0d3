import TenantSchema.Proofs.Applier.Rehearsal

namespace TenantSchema.Applier

open Table

/-!
# What interrupts a run

A run hands over blocks of its document, and never one that creates a database.  If all of
its attempts succeed, it sends what the rehearsal of the document sends and comes to the same
result.  Otherwise its last attempt was answered with a fault, and its result is about that
fault.
-/

section

variable
  {connection : Connection}
  {history : History}
  {blocks : List Block}

/-- A block that a run hands over belongs to the document and creates no database. -/
theorem block_of_mem_attempts
    {attempt : Attempt}
    (made : attempt ∈ attempts connection history blocks) :
    attempt.block ∈ blocks ∧ attempt.block.kind ≠ .createDatabase := by
  obtain ⟨before, after, shape⟩ := List.mem_iff_append.mp made
  cases indexed : Index.ofBlocks blocks with
  | error block =>
      rw [(run_of_malformed connection history indexed).2.1] at made
      cases made
  | ok index =>
      obtain ⟨steps, ending, course⟩ := exists_course_of_ofBlocks indexed
      obtain ⟨leading, step, trailing, rfl, isBlock, _, _⟩ :=
        exists_step_of_attempts indexed course shape
      have taken : step ∈ leading ++ step :: trailing := by simp
      rcases course.step_cases indexed taken isBlock with
        ⟨rfl, other⟩ | ⟨table, _, first⟩
      · refine ⟨?_, fun kind => (kind_of_isOtherStatement other).2 (.inl kind)⟩
        obtain ⟨remaining, statements, _⟩ := course.exists_remaining
        have ran : attempt.block ∈ blocks.filter isOtherStatement := by
          rw [statements]
          exact List.mem_append_left _
            (List.mem_filterMap.mpr ⟨_, taken, rfl⟩)
        exact (List.mem_filter.mp ran).1
      · obtain ⟨member, definition, _⟩ := of_firstDefinition? first
        refine ⟨member, fun kind => ?_⟩
        exact (kind_of_isDefinition definition).2 (.inl kind)

/-- A run that a fault interrupts does not report success. -/
theorem success_of_interruptedResult
    {tables : List Text}
    {executed : Nat}
    {statement : Text}
    {fault : Fault}
    {result : ApplyResult}
    (interrupted :
      interruptedResult tables executed statement fault = .ok result) :
    result.success = false := by
  cases fault with
  | driver message =>
      cases interrupted
      rfl
  | unhandled message =>
      cases interrupted

end

/--
How the attempts and the result of a run compare with the rehearsal of its document: either
every attempt succeeded and nothing differs, or an attempt was answered with the fault that
the result is about.
-/
inductive ComparesWithRehearsal
    (connection : Connection)
    (blocks : List Block)
    (made : List Attempt)
    (result : Except String ApplyResult) : Prop where
  | agreed :
      (∀ attempt ∈ made, attempt.succeeded = true) →
      made.map (fun attempt => attempt.block.text) = plannedStatements blocks →
      result = (rehearse blocks).result →
      ComparesWithRehearsal connection blocks made result
  | interrupted
      {attempt : Attempt}
      {past : History}
      {call : Call}
      {fault : Fault}
      {tables : List Text}
      {executed : Nat}
      {statement : Text} :
      attempt ∈ made →
      attempt.succeeded = false →
      connection.server past call = some fault →
      result = interruptedResult tables executed statement fault →
      ComparesWithRehearsal connection blocks made result

theorem comparesWithRehearsal
    (connection : Connection)
    (history : History)
    (blocks : List Block) :
    ComparesWithRehearsal connection blocks
      (attempts connection history blocks)
      (run connection history blocks).result := by
  cases indexed : Index.ofBlocks blocks with
  | error block =>
      obtain ⟨rehearsed, planned⟩ := rehearse_of_malformed indexed
      obtain ⟨result, noAttempts, _⟩ :=
        run_of_malformed connection history indexed
      rw [noAttempts]
      exact .agreed (by simp) planned.symm (result.trans rehearsed.symm)
  | ok index =>
      obtain ⟨steps, ending, course⟩ := exists_course_of_ofBlocks indexed
      obtain ⟨rehearsed, planned⟩ := rehearse_of_course indexed course
      rcases run_cases connection history indexed course with
        ⟨made, result⟩ | ⟨_, _, _, _, _, _, _, made, answered, result⟩
      · rw [made]
        refine .agreed (fun attempt => succeeded_of_mem_attemptsOf) ?_
          (result.trans rehearsed.symm)
        rw [map_text_attemptsOf, planned]
      · rw [made]
        exact .interrupted (List.mem_append_right _ (List.mem_singleton_self _))
          rfl answered result

/-- A rehearsal always comes to a result. -/
theorem exists_result_of_rehearse
    (blocks : List Block) :
    ∃ planned, (rehearse blocks).result = .ok planned := by
  cases indexed : Index.ofBlocks blocks with
  | error block =>
      exact ⟨_, (rehearse_of_malformed indexed).1⟩
  | ok index =>
      obtain ⟨steps, ending, course⟩ := exists_course_of_ofBlocks indexed
      exact ⟨_, (rehearse_of_course indexed course).1⟩

section

variable
  {connection : Connection}
  {history : History}
  {blocks : List Block}

/-- A run without a result was broken off by a statement's fault that it does not handle. -/
theorem exists_fault_of_error
    {message : String}
    (brokenOff : (run connection history blocks).result = .error message) :
    (∃ past call, connection.server past call = some (.unhandled message)) ∧
      ∃ attempt ∈ attempts connection history blocks,
        attempt.succeeded = false := by
  have compares := comparesWithRehearsal connection history blocks
  rw [brokenOff] at compares
  cases compares with
  | agreed _ _ same =>
      obtain ⟨planned, rehearsed⟩ := exists_result_of_rehearse blocks
      rw [rehearsed] at same
      cases same
  | @interrupted attempt past call fault _ _ _ made failed answered result =>
      cases fault with
      | driver _ =>
          cases result
      | unhandled _ =>
          cases result
          exact ⟨⟨past, call, answered⟩, attempt, made, failed⟩

/-- The attempts of a run that reports success succeeded, as its rehearsal does. -/
theorem agrees_of_success
    {result : ApplyResult}
    (ran : (run connection history blocks).result = .ok result)
    (succeeded : result.success = true) :
    (∀ attempt ∈ attempts connection history blocks, attempt.succeeded = true) ∧
      (rehearse blocks).result = .ok result := by
  have compares := comparesWithRehearsal connection history blocks
  rw [ran] at compares
  cases compares with
  | agreed allSucceeded _ same =>
      exact ⟨allSucceeded, same.symm⟩
  | interrupted _ _ _ interrupted =>
      rw [success_of_interruptedResult interrupted.symm] at succeeded
      cases succeeded

/-- A run whose attempts all succeeded sends what its rehearsal sends, with its result. -/
theorem agrees_of_attempts
    (allSucceeded :
      ∀ attempt ∈ attempts connection history blocks, attempt.succeeded = true) :
    (attempts connection history blocks).map (fun attempt => attempt.block.text) =
        plannedStatements blocks ∧
      (run connection history blocks).result = (rehearse blocks).result := by
  rcases comparesWithRehearsal connection history blocks with
    ⟨_, planned, same⟩ | ⟨made, failed, _, _⟩
  · exact ⟨planned, same⟩
  · rw [allSucceeded _ made] at failed
    cases failed

/--
The statements of a run succeed up to the last one.  If that fails, the result is about the
fault that it was answered with.
-/
theorem history_run_cases
    (connection : Connection)
    (history : History)
    (blocks : List Block) :
    ∃ calls : History,
      (∀ event ∈ calls, event.succeeded = true) ∧
        ((run connection history blocks).history = history ++ calls ∨
          ∃ statement fault tables executed,
            (run connection history blocks).history =
                history ++ calls ++ [⟨.execute connection.catalog statement, false⟩] ∧
              connection.server (history ++ calls)
                  (.execute connection.catalog statement) = some fault ∧
              (run connection history blocks).result =
                interruptedResult tables executed statement fault) := by
  have succeeded (steps : List Step) :
      ∀ event ∈ (attemptsOf [] steps).map (Attempt.event connection),
        event.succeeded = true := by
    intro event member
    obtain ⟨attempt, made, rfl⟩ := List.mem_map.mp member
    exact succeeded_of_mem_attemptsOf made
  rw [run_history]
  cases indexed : Index.ofBlocks blocks with
  | error block =>
      rw [(run_of_malformed connection history indexed).2.1]
      exact ⟨[], by simp, .inl rfl⟩
  | ok index =>
      obtain ⟨steps, ending, course⟩ := exists_course_of_ofBlocks indexed
      rcases run_cases connection history indexed course with
        ⟨made, _⟩ | ⟨before, _, block, _, fault, _, _, made, answered, result⟩
      · rw [made]
        exact ⟨_, succeeded steps, .inl rfl⟩
      · rw [made, List.map_append, ← List.append_assoc]
        exact ⟨_, succeeded before, .inr ⟨block.text, fault, _, _, rfl, answered, result⟩⟩

end

end TenantSchema.Applier
