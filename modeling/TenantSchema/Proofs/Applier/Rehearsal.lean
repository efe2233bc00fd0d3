import TenantSchema.Proofs.Applier.RunCases

namespace TenantSchema.Applier

open Table

/-!
# A live run follows the plan

A rehearsal and a live run take the steps of the same course.  The rehearsal takes all of
them; the live run takes them up to the first statement that its server answers with a
fault.  A live run therefore sends the planned statements in order, and differs from the
plan by nothing but the fault that may end it early.
-/

/-- The statements that a rehearsal of the blocks sends, in order. -/
def plannedStatements (blocks : List Block) : List Text :=
  executedStatements (rehearse blocks).history

/-- The event of sending a statement over a connection. -/
def sent
    (connection : Connection)
    (succeeded : Bool)
    (statement : Text) :
    Event :=
  {
    call := .execute connection.catalog statement
    succeeded := succeeded
  }

/-- The server accepts the statements when they are sent one after the other. -/
def Accepts
    (connection : Connection)
    (history : History)
    (statements : List Text) : Prop :=
  ∀ before statement after,
    statements = before ++ statement :: after →
    connection.server
        (history ++ before.map (sent connection true))
        (.execute connection.catalog statement) = none

/--
How a live run follows a plan of the given statements and result: it executes all of the
statements and comes to the same result, or it executes those before the first one that the
server answers with a fault, sends nothing after that one and reports it.
-/
inductive FollowsPlan
    (connection : Connection)
    (history : History)
    (planned : List Text)
    (result : ApplyResult)
    (live : Run) : Prop where
  | completed :
      Accepts connection history planned →
      live.history = history ++ planned.map (sent connection true) →
      live.result = .ok result →
      FollowsPlan connection history planned result live
  | interrupted
      {before after : List Text}
      {statement : Text}
      {fault : Fault}
      {tables : List Text} :
      planned = before ++ statement :: after →
      Accepts connection history before →
      connection.server
          (history ++ before.map (sent connection true))
          (.execute connection.catalog statement) = some fault →
      live.history =
        history ++ before.map (sent connection true) ++
          [sent connection false statement] →
      tables <+: result.createdTables →
      live.result =
        interruptedResult tables before.length statement fault →
      FollowsPlan connection history planned result live

theorem map_event_of_succeeded
    (connection : Connection)
    {made : List Attempt}
    (succeeded : ∀ attempt ∈ made, attempt.succeeded = true) :
    made.map (Attempt.event connection) =
      (made.map fun attempt => attempt.block.text).map
        (sent connection true) := by
  rw [List.map_map]
  apply List.map_congr_left
  intro attempt member
  simp [Attempt.event, sent, succeeded attempt member]

theorem map_text_attemptsOf
    (known : List Text)
    (steps : List Step) :
    (attemptsOf known steps).map (fun attempt => attempt.block.text) =
      (handedOver steps).map Block.text := by
  rw [← map_block_attemptsOf known, List.map_map]
  rfl

theorem map_event_attemptsOf
    (connection : Connection)
    (known : List Text)
    (steps : List Step) :
    (attemptsOf known steps).map (Attempt.event connection) =
      ((handedOver steps).map Block.text).map (sent connection true) := by
  rw [← map_text_attemptsOf known]
  exact map_event_of_succeeded connection
    (fun attempt member => succeeded_of_mem_attemptsOf member)

section

variable
  {connection : Connection}
  {history : History}
  {blocks : List Block}
  {index : Index}
  {steps : List Step}
  {ending : Option (Block × List Text)}

/-- The server accepted the statements of the steps that a run took. -/
theorem accepts_of_attempts
    (others : List Attempt)
    (made :
      attempts connection history blocks = attemptsOf [] steps ++ others) :
    Accepts connection history ((handedOver steps).map Block.text) := by
  intro before statement after shape
  rw [← map_text_attemptsOf []] at shape
  obtain ⟨earlier, remaining, split, rfl, isRemaining⟩ :=
    List.map_eq_append_iff.mp shape
  obtain ⟨attempt, later, rfl, rfl, _⟩ :=
    List.map_eq_cons_iff.mp isRemaining
  have succeeded (other : Attempt) (member : other ∈ earlier ++ attempt :: later) :
      other.succeeded = true :=
    succeeded_of_mem_attemptsOf (split ▸ member)
  rw [← map_event_of_succeeded connection
    (fun other member => succeeded other (List.mem_append_left _ member))]
  have attempted :
      attempts connection history blocks =
        earlier ++ attempt :: (later ++ others) := by
    rw [made, split, List.append_assoc]
    rfl
  exact server_of_succeeded attempted (succeeded attempt (by simp))

/-- A rehearsal takes all steps of the course of its blocks. -/
theorem rehearse_of_course
    (indexed : Index.ofBlocks blocks = .ok index)
    (course : Course index blocks [] steps ending) :
    (rehearse blocks).result = .ok (finishedResult steps ending) ∧
      plannedStatements blocks = (handedOver steps).map Block.text := by
  obtain ⟨result, covers⟩ :=
    run_of_accepting
      { server := .faultless, catalog := none, previewLimit := defaultPreviewLimit }
      [] (fun _ _ => rfl) indexed course
  refine ⟨result, ?_⟩
  unfold plannedStatements rehearse
  rw [executedStatements_run, covers]
  rfl

theorem rehearse_of_malformed
    {block : Block}
    (malformed : Index.ofBlocks blocks = .error block) :
    (rehearse blocks).result = .ok (malformedResult block) ∧
      plannedStatements blocks = [] := by
  unfold plannedStatements rehearse
  obtain ⟨result, _, unchanged⟩ :=
    run_of_malformed _ [] malformed
  refine ⟨result, ?_⟩
  rw [unchanged]
  rfl

/-- A live run follows what the course of its blocks hands over. -/
theorem followsPlan_of_course
    (indexed : Index.ofBlocks blocks = .ok index)
    (course : Course index blocks [] steps ending) :
    FollowsPlan connection history
      ((handedOver steps).map Block.text)
      (finishedResult steps ending)
      (run connection history blocks) := by
  have calls := run_history connection history blocks
  rcases run_cases connection history indexed course with
    ⟨made, result⟩ |
    ⟨before, step, block, after, fault,
      rfl, isBlock, made, answered, result⟩
  · refine .completed ?_ ?_ result
    · exact accepts_of_attempts [] (by simpa using made)
    · rw [calls, made, map_event_attemptsOf]
  · have planned :
        (handedOver (before ++ step :: after)).map Block.text =
          (handedOver before).map Block.text ++
            block.text :: (handedOver after).map Block.text := by
      rw [handedOver_append, List.map_append]
      simp [handedOver, isBlock]
    have reported :
        (run connection history blocks).result =
          interruptedResult (createdNames before)
            ((handedOver before).map Block.text).length block.text fault := by
      rw [result, List.length_map]
    refine .interrupted planned (accepts_of_attempts _ made)
      ?_ ?_ ?_ reported
    · rw [← map_event_attemptsOf connection []]
      exact answered
    · rw [calls, made, List.map_append, map_event_attemptsOf,
        List.append_assoc]
      rfl
    · simp [finishedResult]

end

/-- Every live run follows what the rehearsal of its blocks came to. -/
theorem live_run_follows_rehearsal
    (connection : Connection)
    (history : History)
    (blocks : List Block) :
    ∃ result,
      (rehearse blocks).result = .ok result ∧
        FollowsPlan connection history (plannedStatements blocks) result
          (run connection history blocks) := by
  cases indexed : Index.ofBlocks blocks with
  | error block =>
      obtain ⟨rehearsed, planned⟩ := rehearse_of_malformed indexed
      obtain ⟨result, _, unchanged⟩ :=
        run_of_malformed connection history indexed
      refine ⟨malformedResult block, rehearsed, ?_⟩
      rw [planned]
      exact .completed (by simp [Accepts]) (by simp [unchanged]) result
  | ok index =>
      obtain ⟨steps, ending, course⟩ := exists_course_of_ofBlocks indexed
      obtain ⟨rehearsed, planned⟩ := rehearse_of_course indexed course
      refine ⟨finishedResult steps ending, rehearsed, ?_⟩
      rw [planned]
      exact followsPlan_of_course indexed course

example :
    plannedStatements Sample.document =
      [Sample.users.text, Sample.posts.text, Sample.greeting.text] := by
  decide +kernel

example :
    (run (Sample.refusingAfter 1) [] Sample.document).result =
      interruptedResult ["users".toList] 1 Sample.posts.text
        (.driver "gone away") := by
  with_unfolding_all rfl

end TenantSchema.Applier
