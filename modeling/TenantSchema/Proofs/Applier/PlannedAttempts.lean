import TenantSchema.Proofs.Applier.RunCases

namespace TenantSchema.Applier

open Table

/-!
# Planned attempts

The course of a document plans the attempts of a run: which blocks are handed over, and which
tables the ledger lists then.  All that a server decides is how many of them are made.  So two
documents whose courses plan the same attempts, create the same tables and end in the same way
are applied alike, whatever the server answers.
-/

/--
What planned attempts come to: those that are made, and the one that was answered with a
fault, if there is one.
-/
structure Attempted where
  made : List Attempt
  refused : Option (Attempt × Fault)
  deriving Repr, DecidableEq

/-- Make planned attempts in order, up to the first that the server answers with a fault. -/
def attempting (connection : Connection) : History → List Attempt → Attempted
  | _, [] =>
      { made := [], refused := none }
  | history, planned :: rest =>
      match
        connection.server history
          (.execute connection.catalog planned.block.text)
      with
      | some fault =>
          {
            made := [{ planned with succeeded := false }]
            refused := some (planned, fault)
          }
      | none =>
          let later :=
            attempting connection (history ++ [planned.event connection]) rest
          { later with made := planned :: later.made }

/-- The result of a run, if it is the given one where no attempt was refused. -/
def Attempted.result
    (attempted : Attempted)
    (finished : ApplyResult) :
    Except String ApplyResult :=
  match attempted.refused with
  | none =>
      .ok finished
  | some (planned, fault) =>
      interruptedResult planned.ledger
        (attempted.made.countP Attempt.succeeded) planned.block.text fault

/-- The server accepts attempts when they are made one after the other. -/
def AcceptsAttempts
    (connection : Connection)
    (history : History)
    (planned : List Attempt) : Prop :=
  ∀ before attempt after,
    planned = before ++ attempt :: after →
    connection.server
        (history ++ before.map (Attempt.event connection))
        (.execute connection.catalog attempt.block.text) = none

/-- Accepted attempts are made, and then come those after them. -/
theorem attempting_append
    {connection : Connection}
    {history : History}
    {first : List Attempt}
    (accepted : AcceptsAttempts connection history first)
    (second : List Attempt) :
    attempting connection history (first ++ second) =
      let later :=
        attempting connection
          (history ++ first.map (Attempt.event connection)) second
      { later with made := first ++ later.made } := by
  induction first generalizing history with
  | nil =>
      simp
  | cons planned rest inductionHypothesis =>
      have answered := accepted [] planned rest rfl
      simp only [List.map_nil, List.append_nil] at answered
      have restAccepted :
          AcceptsAttempts connection
            (history ++ [planned.event connection]) rest := by
        intro before attempt after shape
        have later := accepted (planned :: before) attempt after (by rw [shape]; rfl)
        simpa using later
      rw [List.cons_append, attempting, answered]
      simp only [inductionHypothesis restAccepted]
      simp

section

variable
  {connection : Connection}
  {history : History}
  {blocks : List Block}
  {index : Index}
  {steps : List Step}
  {ending : Option (Block × List Text)}

/-- The server accepted the attempts of the steps that a run took. -/
theorem acceptsAttempts_of_attempts
    (others : List Attempt)
    (made :
      attempts connection history blocks = attemptsOf [] steps ++ others) :
    AcceptsAttempts connection history (attemptsOf [] steps) := by
  intro before attempt after shape
  have succeeded : attempt.succeeded = true := by
    apply succeeded_of_mem_attemptsOf
    rw [shape]
    simp
  rw [shape, List.append_assoc] at made
  exact server_of_succeeded made succeeded

/-- A run makes the attempts that the course of its document plans. -/
theorem run_of_course
    (connection : Connection)
    (history : History)
    (indexed : Index.ofBlocks blocks = .ok index)
    (course : Course index blocks [] steps ending) :
    attempts connection history blocks =
        (attempting connection history (attemptsOf [] steps)).made ∧
      (run connection history blocks).result =
        (attempting connection history (attemptsOf [] steps)).result
          (finishedResult steps ending) := by
  rcases run_cases connection history indexed course with
    ⟨made, result⟩ |
    ⟨before, step, block, after, fault, rfl, isBlock, made, answered, result⟩
  · have accepted :=
      acceptsAttempts_of_attempts [] (made.trans (List.append_nil _).symm)
    rw [← List.append_nil (attemptsOf [] steps), attempting_append accepted,
      made, result]
    simp [attempting, Attempted.result]
  · have planned :
        attemptsOf [] (before ++ step :: after) =
          attemptsOf [] before ++
            ⟨block, createdNames before, true⟩ ::
              attemptsOf (createdNames before ++ createdNames [step]) after := by
      rw [attemptsOf_append, List.nil_append, attemptsOf, isBlock]
    have refused (rest : List Attempt) :
        attempting connection
            (history ++ (attemptsOf [] before).map (Attempt.event connection))
            (⟨block, createdNames before, true⟩ :: rest) =
          {
            made := [⟨block, createdNames before, false⟩]
            refused := some (⟨block, createdNames before, true⟩, fault)
          } := by
      rw [attempting, answered]
    have counted :
        (attemptsOf [] before ++
            [(⟨block, createdNames before, false⟩ : Attempt)]).countP
          Attempt.succeeded = (handedOver before).length := by
      rw [List.countP_append, countP_attemptsOf]
      rfl
    rw [planned, attempting_append (acceptsAttempts_of_attempts _ made), refused,
      made, result, Attempted.result, counted]
    exact ⟨rfl, rfl⟩

/--
Documents whose courses plan the same attempts, create the same tables and end in the same
way are applied alike.
-/
theorem run_congr_of_courses
    (connection : Connection)
    (history : History)
    {others : List Block}
    {otherIndex : Index}
    {otherSteps : List Step}
    (indexed : Index.ofBlocks blocks = .ok index)
    (otherIndexed : Index.ofBlocks others = .ok otherIndex)
    (course : Course index blocks [] steps ending)
    (otherCourse : Course otherIndex others [] otherSteps ending)
    (planned : attemptsOf [] otherSteps = attemptsOf [] steps)
    (tables : createdNames otherSteps = createdNames steps) :
    attempts connection history others = attempts connection history blocks ∧
      (run connection history others).result =
        (run connection history blocks).result := by
  have sameBlocks : handedOver otherSteps = handedOver steps := by
    rw [← map_block_attemptsOf [], ← map_block_attemptsOf [], planned]
  obtain ⟨made, result⟩ := run_of_course connection history indexed course
  obtain ⟨otherMade, otherResult⟩ :=
    run_of_course connection history otherIndexed otherCourse
  rw [made, result, otherMade, otherResult, planned, finishedResult,
    finishedResult, tables, sameBlocks]
  exact ⟨rfl, rfl⟩

end

end TenantSchema.Applier
