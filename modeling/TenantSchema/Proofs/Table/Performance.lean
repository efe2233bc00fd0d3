import TenantSchema.Proofs.Table.Derivation

namespace TenantSchema.Table

/-!
# Performing the steps of a resolution

An action performs steps one after the other and stops at the first that it cannot take.
The main statement is `Resolves.resolveReferences_eq`: an action that leaves the ledger
alone performs exactly the steps of the derivation, and then the circle, if there is one,
is reported.
-/

universe u v

section

variable {Cause : Type v} {World : Type u}

namespace Outcome

/-- The session that an outcome leaves. -/
def session : Outcome Cause World → Session World
  | .done later | .stopped _ later =>
      later

@[simp] theorem session_done (later : Session World) :
    (Outcome.done later : Outcome Cause World).session = later :=
  rfl

@[simp] theorem session_stopped
    (cause : Cause)
    (later : Session World) :
    (Outcome.stopped cause later).session = later :=
  rfl

/-- Go on with the session of an outcome, unless it was stopped. -/
def andThen
    (outcome : Outcome Cause World)
    (next : Session World → Outcome Cause World) :
    Outcome Cause World :=
  match outcome with
  | .done later =>
      next later
  | .stopped cause later =>
      .stopped cause later

@[simp] theorem done_andThen
    (session : Session World)
    (next : Session World → Outcome Cause World) :
    (Outcome.done session).andThen next = next session :=
  rfl

@[simp] theorem stopped_andThen
    (cause : Cause)
    (session : Session World)
    (next : Session World → Outcome Cause World) :
    (Outcome.stopped cause session).andThen next =
      .stopped cause session :=
  rfl

theorem andThen_assoc
    (outcome : Outcome Cause World)
    (first second : Session World → Outcome Cause World) :
    (outcome.andThen first).andThen second =
      outcome.andThen (fun later => (first later).andThen second) := by
  cases outcome <;> rfl

end Outcome

/-- Take one step. -/
def performStep
    (action : Action Cause World)
    (step : Step)
    (session : Session World) :
    Outcome (Obstacle Cause) World :=
  match step with
  | .say entry =>
      .done (session.note entry)
  | .run block =>
      match action block session with
      | .done later =>
          .done later
      | .stopped cause later =>
          .stopped (.action cause) later
  | .create table block =>
      createAndRecord action table block session

/-- Take steps in order up to the first that stops. -/
def perform
    (action : Action Cause World) :
    List Step → Session World → Outcome (Obstacle Cause) World
  | [], session =>
      .done session
  | step :: rest, session =>
      (performStep action step session).andThen (perform action rest)

@[simp] theorem perform_nil
    (action : Action Cause World)
    (session : Session World) :
    perform action [] session = .done session :=
  rfl

theorem perform_cons
    (action : Action Cause World)
    (step : Step)
    (rest : List Step)
    (session : Session World) :
    perform action (step :: rest) session =
      (performStep action step session).andThen (perform action rest) :=
  rfl

theorem perform_append
    (action : Action Cause World)
    (first second : List Step)
    (session : Session World) :
    perform action (first ++ second) session =
      (perform action first session).andThen (perform action second) := by
  induction first generalizing session with
  | nil =>
      rfl
  | cons step rest inductionHypothesis =>
      rw [List.cons_append, perform_cons, perform_cons,
        Outcome.andThen_assoc]
      congr 1
      funext later
      exact inductionHypothesis later

/-- An action that does not touch the ledger. -/
def KeepsLedger (action : Action Cause World) : Prop :=
  ∀ block session, (action block session).session.ledger = session.ledger

theorem KeepsLedger.of_done
    {action : Action Cause World}
    (keepsLedger : KeepsLedger action)
    {block : Block}
    {session later : Session World}
    (finished : action block session = .done later) :
    later.ledger = session.ledger := by
  have kept := keepsLedger block session
  rw [finished] at kept
  exact kept

theorem KeepsLedger.of_stopped
    {action : Action Cause World}
    (keepsLedger : KeepsLedger action)
    {block : Block}
    {session later : Session World}
    {cause : Cause}
    (stopped : action block session = .stopped cause later) :
    later.ledger = session.ledger := by
  have kept := keepsLedger block session
  rw [stopped] at kept
  exact kept

theorem createAndRecord_eq_done
    {action : Action Cause World}
    {table : Text}
    {block : Block}
    {session later : Session World}
    (finished : createAndRecord action table block session = .done later) :
    ∃ ran ledger,
      action block session = .done ran ∧
        ran.ledger.record? table = some ledger ∧
        later = { ran with ledger := ledger } := by
  unfold createAndRecord at finished
  split at finished
  · cases finished
  · rename_i ran actionDone
    split at finished
    · cases finished
    · rename_i ledger recorded
      cases finished
      exact ⟨ran, ledger, actionDone, recorded, rfl⟩

theorem ledger_of_performStep
    {action : Action Cause World}
    (keepsLedger : KeepsLedger action)
    {step : Step}
    {session later : Session World}
    (finished : performStep action step session = .done later) :
    later.ledger.names =
      session.ledger.names ++ createdNames [step] := by
  cases step with
  | say entry =>
      cases finished
      simp [Session.note]
  | run block =>
      simp only [performStep] at finished
      split at finished
      · rename_i ran actionDone
        cases finished
        simp [keepsLedger.of_done actionDone]
      · cases finished
  | create table block =>
      obtain ⟨ran, ledger, actionDone, recorded, rfl⟩ :=
        createAndRecord_eq_done finished
      have added := Ledger.names_of_record? recorded
      rw [keepsLedger.of_done actionDone] at added
      exact added

/-- Finished steps add the tables that they record to the ledger, in order. -/
theorem ledger_of_perform
    {action : Action Cause World}
    (keepsLedger : KeepsLedger action)
    {steps : List Step}
    {session later : Session World}
    (finished : perform action steps session = .done later) :
    later.ledger.names =
      session.ledger.names ++ createdNames steps := by
  induction steps generalizing session with
  | nil =>
      cases finished
      simp
  | cons step rest inductionHypothesis =>
      rw [perform_cons] at finished
      cases taken : performStep action step session with
      | stopped cause middle =>
          rw [taken] at finished
          cases finished
      | done middle =>
          rw [taken, Outcome.done_andThen] at finished
          rw [inductionHypothesis finished,
            ledger_of_performStep keepsLedger taken,
            List.append_assoc, ← createdNames_append]
          rfl

theorem world_of_performStep
    {action : Action Cause World}
    {step : Step}
    {block : Block}
    (isBlock : step.block? = some block)
    (session : Session World) :
    (performStep action step session).session.world =
      (action block session).session.world := by
  cases step with
  | say entry =>
      cases isBlock
  | run other =>
      cases isBlock
      simp only [performStep]
      cases action block session <;> rfl
  | create table other =>
      cases isBlock
      simp only [performStep, createAndRecord]
      cases action block session with
      | stopped cause later =>
          rfl
      | done later =>
          dsimp only
          cases later.ledger.record? table <;> rfl

/-- What an action keeps true of the world outside, a step keeps true. -/
theorem performStep_invariant
    {action : Action Cause World}
    {invariant : World → Prop}
    (kept :
      ∀ block session,
        invariant session.world →
        invariant (action block session).session.world)
    (step : Step)
    {session : Session World}
    (holds : invariant session.world) :
    invariant (performStep action step session).session.world := by
  cases isBlock : step.block? with
  | none =>
      cases step with
      | say entry =>
          exact holds
      | run block =>
          cases isBlock
      | create table block =>
          cases isBlock
  | some block =>
      rw [world_of_performStep isBlock]
      exact kept block session holds

/-- What an action keeps true of the world outside, steps keep true. -/
theorem perform_invariant
    {action : Action Cause World}
    {invariant : World → Prop}
    (kept :
      ∀ block session,
        invariant session.world →
        invariant (action block session).session.world)
    (steps : List Step)
    {session : Session World}
    (holds : invariant session.world) :
    invariant (perform action steps session).session.world := by
  induction steps generalizing session with
  | nil =>
      exact holds
  | cons step rest inductionHypothesis =>
      have afterStep := performStep_invariant kept step holds
      rw [perform_cons]
      cases taken : performStep action step session with
      | stopped obstacle later =>
          rw [taken] at afterStep
          exact afterStep
      | done later =>
          rw [taken] at afterStep
          exact inductionHypothesis afterStep

/--
A step that records no table twice is taken, or stops where the action stops on its block.
-/
theorem performStep_cases
    {action : Action Cause World}
    (keepsLedger : KeepsLedger action)
    {step : Step}
    {session : Session World}
    (distinct : (session.ledger.names ++ createdNames [step]).Nodup) :
    (∃ later, performStep action step session = .done later) ∨
      ∃ block cause later,
        step.block? = some block ∧
          action block session = .stopped cause later ∧
          performStep action step session =
            .stopped (.action cause) later := by
  cases step with
  | say entry =>
      exact .inl ⟨_, rfl⟩
  | run block =>
      simp only [performStep]
      cases finished : action block session with
      | done later =>
          exact .inl ⟨later, rfl⟩
      | stopped cause later =>
          exact .inr ⟨block, cause, later, rfl, finished, rfl⟩
  | create table block =>
      simp only [performStep, createAndRecord]
      cases finished : action block session with
      | stopped cause later =>
          exact .inr ⟨block, cause, later, rfl, finished, rfl⟩
      | done later =>
          have fresh : table ∉ later.ledger.names := by
            rw [keepsLedger.of_done finished]
            intro present
            rw [createdNames_create, List.nodup_append] at distinct
            exact distinct.2.2 table present table (by simp) rfl
          cases recorded : later.ledger.record? table with
          | none =>
              exact (fresh (Ledger.record?_eq_none_iff.mp recorded)).elim
          | some ledger =>
              exact .inl
                ⟨{ later with ledger := ledger }, by simp only [recorded]⟩

/--
Steps that record no table twice are all taken, or stop where the action stops on the block
of one of them, after those before it were taken.
-/
theorem perform_cases
    {action : Action Cause World}
    (keepsLedger : KeepsLedger action)
    {steps : List Step}
    {session : Session World}
    (distinct : (session.ledger.names ++ createdNames steps).Nodup) :
    (∃ later, perform action steps session = .done later) ∨
      ∃ before step block after middle cause later,
        steps = before ++ step :: after ∧
          step.block? = some block ∧
          perform action before session = .done middle ∧
          action block middle = .stopped cause later ∧
          perform action steps session =
            .stopped (.action cause) later := by
  induction steps generalizing session with
  | nil =>
      exact .inl ⟨session, rfl⟩
  | cons step rest inductionHypothesis =>
      have split : createdNames (step :: rest) =
          createdNames [step] ++ createdNames rest :=
        createdNames_append [step] rest
      rw [split, ← List.append_assoc] at distinct
      rcases performStep_cases keepsLedger
          (List.nodup_append.mp distinct).1 with
        ⟨middle, finished⟩ | ⟨block, cause, later, isBlock, stopped, failed⟩
      · rw [← ledger_of_performStep keepsLedger finished] at distinct
        rw [perform_cons, finished, Outcome.done_andThen]
        rcases inductionHypothesis distinct with ⟨later, allTaken⟩ |
          ⟨before, failing, block, after, last, cause, later,
            shape, isBlock, leading, stopped, failed⟩
        · exact .inl ⟨later, allTaken⟩
        · refine .inr ⟨step :: before, failing, block, after, last,
            cause, later, by rw [shape]; rfl, isBlock, ?_, stopped, failed⟩
          rw [perform_cons, finished, Outcome.done_andThen, leading]
      · refine .inr ⟨[], step, block, rest, session, cause, later,
          rfl, isBlock, rfl, stopped, ?_⟩
        rw [perform_cons, failed]
        rfl

/-- Report the circle that ended a resolution, if there is one. -/
def conclude
    (circle : Option (List Text))
    (session : Session World) :
    Outcome (Obstacle Cause) World :=
  match circle with
  | none =>
      .done session
  | some circle =>
      .stopped (.cyclic circle) session

/-- Go through the references of a table, creating what is missing. -/
def resolveReferences
    (index : Index)
    (action : Action Cause World)
    (path : List Text)
    (table : Text) :
    List Text → Session World → Outcome (Obstacle Cause) World :=
  createReferences index path table
    (fun reference definition _ _ =>
      createTable index action (path ++ [reference]) reference definition)

/-- A table is created after its references were gone through. -/
theorem createTable_eq
    (index : Index)
    (action : Action Cause World)
    (path : List Text)
    (table : Text)
    (block : Block)
    (session : Session World) :
    createTable index action path table block session =
      (resolveReferences index action path table
        (references block.text) session).andThen
          (createAndRecord action table block) := by
  rw [createTable]
  change _ = (createReferences index path table _ _ session).andThen _
  cases createReferences index path table _ _ session <;> rfl

theorem resolveReferences_cons_of_settled
    {index : Index}
    {action : Action Cause World}
    {path rest : List Text}
    {table reference : Text}
    {session : Session World}
    (settled : reference = table ∨ reference ∈ session.ledger.names) :
    resolveReferences index action path table (reference :: rest) session =
      resolveReferences index action path table rest session := by
  rw [resolveReferences, createReferences, if_pos settled]

theorem resolveReferences_cons_of_missing
    {index : Index}
    {action : Action Cause World}
    {path rest : List Text}
    {table reference : Text}
    {session : Session World}
    (unsettled : ¬ (reference = table ∨ reference ∈ session.ledger.names))
    (missing : index.find? reference = none) :
    resolveReferences index action path table (reference :: rest) session =
      resolveReferences index action path table rest
        (session.note (.outsideReference table reference)) := by
  rw [resolveReferences, createReferences, if_neg unsettled]
  split
  · rfl
  · rename_i found
    rw [missing] at found
    cases found

theorem resolveReferences_cons_of_met
    {index : Index}
    {action : Action Cause World}
    {path rest : List Text}
    {table reference : Text}
    {definition : Block}
    {session : Session World}
    (unsettled : ¬ (reference = table ∨ reference ∈ session.ledger.names))
    (found : index.find? reference = some definition)
    (met : reference ∈ path) :
    resolveReferences index action path table (reference :: rest) session =
      .stopped (.cyclic (cycleFrom path reference)) session := by
  rw [resolveReferences, createReferences, if_neg unsettled]
  split
  · rename_i missing
    rw [found] at missing
    cases missing
  · rw [dif_pos met]

theorem resolveReferences_cons_of_found
    {index : Index}
    {action : Action Cause World}
    {path rest : List Text}
    {table reference : Text}
    {definition : Block}
    {session : Session World}
    (unsettled : ¬ (reference = table ∨ reference ∈ session.ledger.names))
    (found : index.find? reference = some definition)
    (unmet : reference ∉ path) :
    resolveReferences index action path table (reference :: rest) session =
      (createTable index action (path ++ [reference]) reference
        definition session).andThen
          (resolveReferences index action path table rest) := by
  rw [resolveReferences, createReferences, if_neg unsettled]
  split
  · rename_i missing
    rw [found] at missing
    cases missing
  · rename_i other otherFound
    rw [found] at otherFound
    cases otherFound
    rw [dif_neg unmet]
    simp only
    cases createTable index action (path ++ [reference]) reference
        definition session <;> rfl

/--
An action that leaves the ledger alone takes the steps of the derivation.  The induction is
on the derivation; after a finished creation the ledger lists what the next references are
derived from.
-/
theorem Resolves.resolveReferences_eq
    {index : Index}
    {action : Action Cause World}
    (keepsLedger : KeepsLedger action)
    {path names known : List Text}
    {table : Text}
    {steps : List Step}
    {circle : Option (List Text)}
    (resolves : Resolves index path table names known steps circle)
    {session : Session World}
    (sameLedger : session.ledger.names = known) :
    resolveReferences index action path table names session =
      (perform action steps session).andThen (conclude circle) := by
  induction resolves generalizing session with
  | nothing =>
      rfl
  | present settled _ inductionHypothesis =>
      subst sameLedger
      rw [resolveReferences_cons_of_settled settled]
      exact inductionHypothesis rfl
  | outside other fresh missing _ inductionHypothesis =>
      subst sameLedger
      rw [resolveReferences_cons_of_missing (not_or.mpr ⟨other, fresh⟩) missing,
        perform_cons]
      exact inductionHypothesis rfl
  | closed other fresh found met =>
      subst sameLedger
      exact resolveReferences_cons_of_met
        (not_or.mpr ⟨other, fresh⟩) found met
  | @descended path known rest table reference definition inner outer circle
      other fresh found unmet _ _ innerHypothesis outerHypothesis =>
      subst sameLedger
      rw [resolveReferences_cons_of_found
          (not_or.mpr ⟨other, fresh⟩) found unmet,
        createTable_eq, innerHypothesis rfl, perform_append]
      cases performed : perform action inner session with
      | stopped cause middle =>
          rfl
      | done middle =>
          simp only [Outcome.done_andThen, conclude, perform_cons, performStep]
          cases created : createAndRecord action reference definition middle with
          | stopped cause later =>
              rfl
          | done later =>
              have recorded : performStep action (.create reference definition)
                  middle = .done later := created
              simp only [Outcome.done_andThen]
              apply outerHypothesis
              rw [ledger_of_performStep keepsLedger recorded,
                ledger_of_perform keepsLedger performed]
              rfl
  | broken other fresh found unmet _ innerHypothesis =>
      subst sameLedger
      rw [resolveReferences_cons_of_found
          (not_or.mpr ⟨other, fresh⟩) found unmet,
        createTable_eq, innerHypothesis rfl]
      cases perform action _ session <;> rfl

/-- A missing table without a circle is created last, after the derived steps. -/
theorem ensureCreated_of_resolves
    {index : Index}
    {action : Action Cause World}
    (keepsLedger : KeepsLedger action)
    {block : Block}
    {table : Text}
    {session : Session World}
    (named : nameOf? block = some table)
    (missing : table ∉ session.ledger.names)
    {steps : List Step}
    (resolves :
      Resolves index [table] table (references block.text)
        session.ledger.names steps none) :
    ensureCreated index action block session =
      perform action (steps ++ [.create table block]) session := by
  have resolved := resolves.resolveReferences_eq keepsLedger rfl
  simp only [ensureCreated, named, if_neg missing]
  rw [createTable_eq, resolved, perform_append]
  cases perform action steps session with
  | stopped cause middle =>
      rfl
  | done middle =>
      simp only [Outcome.done_andThen, conclude, perform_cons, performStep]
      cases createAndRecord action table block middle <;> rfl

/-- A circle among the references of a missing table ends its resolution. -/
theorem ensureCreated_of_circle
    {index : Index}
    {action : Action Cause World}
    (keepsLedger : KeepsLedger action)
    {block : Block}
    {table : Text}
    {session : Session World}
    (named : nameOf? block = some table)
    (missing : table ∉ session.ledger.names)
    {steps : List Step}
    {circle : List Text}
    (resolves :
      Resolves index [table] table (references block.text)
        session.ledger.names steps (some circle)) :
    ensureCreated index action block session =
      (perform action steps session).andThen (conclude (some circle)) := by
  have resolved := resolves.resolveReferences_eq keepsLedger rfl
  simp only [ensureCreated, named, if_neg missing]
  rw [createTable_eq, resolved]
  cases perform action steps session <;> rfl

end

end TenantSchema.Table
