import TenantSchema.Proofs.Applier.Course

namespace TenantSchema.Applier

open Table

/-!
# Attempts

A history tells the statements that were sent, but not the blocks they came from.  An action
can be watched: each time it is called, the block, the tables of the ledger at that moment
and the success of the call are kept as an attempt.  Watching changes nothing else, so the
attempts of a run say what the run did, block by block.
-/

/-- A block that was handed over to a connection. -/
structure Attempt where
  block : Block
  /-- The tables in the ledger when the block was handed over. -/
  ledger : List Text
  succeeded : Bool
  deriving Repr, DecidableEq

/-- The call that an attempt makes over a connection. -/
def Attempt.event
    (connection : Connection)
    (attempt : Attempt) :
    Event :=
  {
    call := .execute connection.catalog attempt.block.text
    succeeded := attempt.succeeded
  }

section

variable {Cause World : Type}

/-- A session together with the attempts made so far. -/
def withAttempts
    (session : Session World)
    (attempts : List Attempt) :
    Session (World × List Attempt) :=
  {
    ledger := session.ledger
    notes := session.notes
    world := (session.world, attempts)
  }

/-- A session without the attempts made so far. -/
def withoutAttempts
    (session : Session (World × List Attempt)) :
    Session World :=
  {
    ledger := session.ledger
    notes := session.notes
    world := session.world.1
  }

/-- An action that keeps an attempt of every block it is given. -/
def watched
    (action : Action Cause World) :
    Action Cause (World × List Attempt) :=
  fun block session =>
    let attempt (succeeded : Bool) : Attempt :=
      { block := block, ledger := session.ledger.names, succeeded := succeeded }
    match action block (withoutAttempts session) with
    | .done later =>
        .done (withAttempts later (session.world.2 ++ [attempt true]))
    | .stopped cause later =>
        .stopped cause
          (withAttempts later (session.world.2 ++ [attempt false]))

/-- An outcome without the attempts. -/
def outcomeWithoutAttempts :
    Outcome Cause (World × List Attempt) → Outcome Cause World
  | .done later =>
      .done (withoutAttempts later)
  | .stopped cause later =>
      .stopped cause (withoutAttempts later)

theorem keepsLedger_watched
    {action : Action Cause World}
    (keepsLedger : KeepsLedger action) :
    KeepsLedger (watched action) := by
  intro block session
  have kept := keepsLedger block (withoutAttempts session)
  unfold watched
  cases finished : action block (withoutAttempts session) with
  | done later =>
      rw [finished] at kept
      exact kept
  | stopped cause later =>
      rw [finished] at kept
      exact kept

theorem performStep_watched
    (action : Action Cause World)
    (step : Step)
    (session : Session (World × List Attempt)) :
    outcomeWithoutAttempts (performStep (watched action) step session) =
      performStep action step (withoutAttempts session) := by
  cases step with
  | say entry =>
      rfl
  | run block =>
      simp only [performStep, watched]
      cases action block (withoutAttempts session) <;> rfl
  | create table block =>
      simp only [performStep, createAndRecord, watched]
      cases action block (withoutAttempts session) with
      | stopped cause later =>
          rfl
      | done later =>
          simp only [withAttempts]
          cases later.ledger.record? table <;> rfl

/-- Without the attempts, watched steps are the plain steps. -/
theorem perform_watched
    (action : Action Cause World)
    (steps : List Step)
    (session : Session (World × List Attempt)) :
    outcomeWithoutAttempts (perform (watched action) steps session) =
      perform action steps (withoutAttempts session) := by
  induction steps generalizing session with
  | nil =>
      rfl
  | cons step rest inductionHypothesis =>
      rw [perform_cons, perform_cons, ← performStep_watched]
      cases performStep (watched action) step session with
      | stopped obstacle later =>
          rfl
      | done later =>
          exact inductionHypothesis later

/-- Watching the action changes nothing in how a document is applied. -/
theorem Course.session_watched
    {index : Index}
    {action : Action Cause World}
    (keepsLedger : KeepsLedger action)
    {blocks : List Block}
    {known : List Text}
    {steps : List Step}
    {ending : Option (Block × List Text)}
    (course : Course index blocks known steps ending)
    (session : Session (World × List Attempt))
    (sameLedger : session.ledger.names = known) :
    (applyEach index action blocks (withoutAttempts session)).session =
      withoutAttempts
        (applyEach index (watched action) blocks session).session := by
  have plain :=
    course.follows keepsLedger (withoutAttempts session) sameLedger
  have watching :=
    course.follows (keepsLedger_watched keepsLedger) session sameLedger
  rw [plain.session_eq, watching.session_eq, ← perform_watched]
  cases perform (watched action) steps session <;> rfl

theorem attempts_of_watched_done
    {action : Action Cause World}
    {block : Block}
    {session later : Session (World × List Attempt)}
    (finished : watched action block session = .done later) :
    later.world.2 =
      session.world.2 ++ [⟨block, session.ledger.names, true⟩] := by
  unfold watched at finished
  dsimp only at finished
  split at finished
  · cases finished
    rfl
  · cases finished

theorem of_watched_stopped
    {action : Action Cause World}
    {block : Block}
    {cause : Cause}
    {session later : Session (World × List Attempt)}
    (stopped : watched action block session = .stopped cause later) :
    action block (withoutAttempts session) =
      .stopped cause (withoutAttempts later) := by
  unfold watched at stopped
  dsimp only at stopped
  split at stopped
  · cases stopped
  · rename_i plainStopped
    cases stopped
    exact plainStopped

theorem attempts_of_watched_stopped
    {action : Action Cause World}
    {block : Block}
    {cause : Cause}
    {session later : Session (World × List Attempt)}
    (stopped : watched action block session = .stopped cause later) :
    later.world.2 =
      session.world.2 ++ [⟨block, session.ledger.names, false⟩] := by
  unfold watched at stopped
  dsimp only at stopped
  split at stopped
  · cases stopped
  · cases stopped
    rfl

end

/-- The attempts of steps that all succeed, when the ledger lists `known` before them. -/
def attemptsOf : List Text → List Step → List Attempt
  | _, [] =>
      []
  | known, step :: rest =>
      match step.block? with
      | none =>
          attemptsOf (known ++ createdNames [step]) rest
      | some block =>
          { block := block, ledger := known, succeeded := true } ::
            attemptsOf (known ++ createdNames [step]) rest

theorem attemptsOf_append
    (known : List Text)
    (first second : List Step) :
    attemptsOf known (first ++ second) =
      attemptsOf known first ++
        attemptsOf (known ++ createdNames first) second := by
  induction first generalizing known with
  | nil =>
      simp [attemptsOf]
  | cons step rest inductionHypothesis =>
      have names : createdNames (step :: rest) =
          createdNames [step] ++ createdNames rest :=
        createdNames_append [step] rest
      rw [List.cons_append, attemptsOf, attemptsOf, inductionHypothesis,
        names, List.append_assoc]
      cases step.block? <;> rfl

theorem map_block_attemptsOf
    (known : List Text)
    (steps : List Step) :
    (attemptsOf known steps).map Attempt.block = handedOver steps := by
  induction steps generalizing known with
  | nil =>
      rfl
  | cons step rest inductionHypothesis =>
      rw [attemptsOf, handedOver, List.filterMap_cons]
      cases step.block? with
      | none =>
          exact inductionHypothesis _
      | some block =>
          exact congrArg (List.cons block) (inductionHypothesis _)

theorem succeeded_of_mem_attemptsOf
    {known : List Text}
    {steps : List Step}
    {attempt : Attempt}
    (member : attempt ∈ attemptsOf known steps) :
    attempt.succeeded = true := by
  induction steps generalizing known with
  | nil =>
      cases member
  | cons step rest inductionHypothesis =>
      rw [attemptsOf] at member
      cases isBlock : step.block? with
      | none =>
          rw [isBlock] at member
          exact inductionHypothesis member
      | some block =>
          rw [isBlock] at member
          rcases List.mem_cons.mp member with rfl | later
          · rfl
          · exact inductionHypothesis later

theorem countP_attemptsOf
    (known : List Text)
    (steps : List Step) :
    (attemptsOf known steps).countP Attempt.succeeded =
      (handedOver steps).length := by
  rw [← map_block_attemptsOf known, List.length_map]
  apply List.countP_eq_length.mpr
  intro attempt member
  exact succeeded_of_mem_attemptsOf member

/--
Every attempt was made by a step: the attempts before it are those of the steps before, and
the ledger listed the tables that these had created.
-/
theorem exists_step_of_attemptsOf
    {known : List Text}
    {steps : List Step}
    {before after : List Attempt}
    {attempt : Attempt}
    (shape : attemptsOf known steps = before ++ attempt :: after) :
    ∃ leading step trailing,
      steps = leading ++ step :: trailing ∧
        step.block? = some attempt.block ∧
        attempt.ledger = known ++ createdNames leading ∧
        before = attemptsOf known leading := by
  induction steps generalizing known before with
  | nil =>
      simp [attemptsOf] at shape
  | cons step rest inductionHypothesis =>
      have extended (leading : List Step) :
          known ++ createdNames [step] ++ createdNames leading =
            known ++ createdNames (step :: leading) := by
        rw [List.append_assoc, ← createdNames_append]
        rfl
      rw [attemptsOf] at shape
      cases isBlock : step.block? with
      | none =>
          rw [isBlock] at shape
          obtain ⟨leading, other, trailing, rfl, otherBlock, listed, earlier⟩ :=
            inductionHypothesis shape
          refine ⟨step :: leading, other, trailing,
            rfl, otherBlock, listed.trans (extended leading), ?_⟩
          rw [attemptsOf, isBlock, earlier]
      | some block =>
          rw [isBlock] at shape
          cases before with
          | nil =>
              cases shape
              exact ⟨[], step, rest, rfl, isBlock, by simp, rfl⟩
          | cons first others =>
              injection shape with isFirst remaining
              obtain ⟨leading, other, trailing, rfl, otherBlock, listed,
                  earlier⟩ :=
                inductionHypothesis remaining
              refine ⟨step :: leading, other, trailing,
                rfl, otherBlock, listed.trans (extended leading), ?_⟩
              rw [attemptsOf, isBlock, ← isFirst, earlier]

section

variable {Cause World : Type}

theorem attempts_of_performStep
    {action : Action Cause World}
    {step : Step}
    {session later : Session (World × List Attempt)}
    (finished : performStep (watched action) step session = .done later) :
    later.world.2 =
      session.world.2 ++ attemptsOf session.ledger.names [step] := by
  cases step with
  | say entry =>
      cases finished
      simp [Session.note, attemptsOf, Step.block?]
  | run block =>
      simp only [performStep] at finished
      split at finished
      · rename_i ran actionDone
        cases finished
        exact attempts_of_watched_done actionDone
      · cases finished
  | create table block =>
      obtain ⟨ran, ledger, actionDone, _, rfl⟩ :=
        createAndRecord_eq_done finished
      have added := attempts_of_watched_done actionDone
      exact added

/-- Watched steps that are all taken add their attempts. -/
theorem attempts_of_perform
    {action : Action Cause World}
    (keepsLedger : KeepsLedger action)
    {steps : List Step}
    {session later : Session (World × List Attempt)}
    (finished : perform (watched action) steps session = .done later) :
    later.world.2 =
      session.world.2 ++ attemptsOf session.ledger.names steps := by
  induction steps generalizing session with
  | nil =>
      cases finished
      simp [attemptsOf]
  | cons step rest inductionHypothesis =>
      rw [perform_cons] at finished
      cases taken : performStep (watched action) step session with
      | stopped obstacle middle =>
          rw [taken] at finished
          cases finished
      | done middle =>
          rw [taken, Outcome.done_andThen] at finished
          rw [inductionHypothesis finished, attempts_of_performStep taken,
            ledger_of_performStep (keepsLedger_watched keepsLedger) taken,
            List.append_assoc, ← attemptsOf_append]
          rfl

end

end TenantSchema.Applier
