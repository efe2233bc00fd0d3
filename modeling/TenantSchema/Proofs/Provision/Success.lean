import TenantSchema.Proofs.Provision.Preparation
import TenantSchema.Proofs.Provision.RunCases
import TenantSchema.Report

namespace TenantSchema.Provision

open Conversation

/-!
# Success is reported exactly

If calls fail in no other way than by an error of the driver, a prepared run comes to a
result.  The result is a success exactly if the plan of the run is one and nothing failed on
the way, and its report says what went wrong exactly if it is none.
-/

/-- Whether no call of a history failed, but for rolling back. -/
def Smooth (history : History) : Prop :=
  ∀ event ∈ history,
    event.succeeded = false → ∃ catalog, event.call = .rollback catalog

theorem smooth_nil :
    Smooth [] := by
  simp [Smooth]

theorem smooth_cons
    {event : Event}
    {history : History} :
    Smooth (event :: history) ↔
      (event.succeeded = false → ∃ catalog, event.call = .rollback catalog) ∧
        Smooth history := by
  simp only [Smooth, List.mem_cons, forall_eq_or_imp]

theorem smooth_append
    {first second : History} :
    Smooth (first ++ second) ↔ Smooth first ∧ Smooth second := by
  simp only [Smooth, List.mem_append, or_imp, forall_and]

theorem not_smooth_refused
    (catalog : Option Text) :
    ¬ Smooth (Conversation.refused.events catalog) := by
  simp [events, opened, afterOpening, smooth_cons]

/--
A conversation goes smoothly if its statements succeed, its transaction is committed where
that is tried, and its connection is closed well.
-/
theorem smooth_held_iff
    {catalog : Option Text}
    {sent : List (Text × Bool)}
    {verdict : Option (Verdict × Bool)}
    {closedWell : Bool} :
    Smooth ((Conversation.held sent verdict closedWell).events catalog) ↔
      (∀ statement ∈ sent, statement.2 = true) ∧
        verdict ≠ some (.commit, false) ∧
        closedWell = true := by
  have statements :
      Smooth (sent.map (sentEvent catalog)) ↔
        ∀ statement ∈ sent, statement.2 = true := by
    induction sent with
    | nil =>
        simp [smooth_nil]
    | cons statement rest inductionHypothesis =>
        rw [List.map_cons, smooth_cons, inductionHypothesis, List.forall_mem_cons]
        simp [sentEvent]
  have ending :
      Smooth (verdict.toList.map (verdictEvent catalog)) ↔
        verdict ≠ some (.commit, false) := by
    rcases verdict with _ | ⟨_ | _, _ | _⟩ <;>
      simp [smooth_cons, smooth_nil, verdictEvent, Verdict.call]
  have closing :
      Smooth (closingEvents catalog closedWell) ↔ closedWell = true := by
    cases closedWell <;> simp [closingEvents, smooth_cons, smooth_nil]
  rw [events, afterOpening, smooth_cons, smooth_append, smooth_append,
    statements, ending, closing]
  simp [opened]

theorem not_smooth_of_administersInVain
    {statement : Text}
    {conversation : Conversation}
    (inVain : AdministersInVain statement conversation) :
    ¬ Smooth (conversation.events none) := by
  cases inVain with
  | refused =>
      exact not_smooth_refused none
  | brokenOff _ | rejected _ _ | uncommitted _ | closedBadly =>
      simp [smooth_held_iff]

/-- What is reported of a success, and what of a failure. -/
structure ReportsOutcome (result : ApplyResult) : Prop where
  success :
    result.success = true →
    ∀ field ∈ ["error_kind", "diagnostic", "failed_statement_text"],
      result.report.field? field = some .null
  failure :
    result.success = false →
    ∀ field ∈ ["error_kind", "diagnostic"],
      ∃ words, result.report.field? field = some (.text words)

theorem reportsOutcome
    (result : ApplyResult) :
    ReportsOutcome result := by
  obtain ⟨failure, createdTables, executedStatements⟩ := result
  cases failure with
  | none =>
      refine ⟨?_, (fun failed => by cases failed)⟩
      intro _ field member
      simp only [List.mem_cons, List.not_mem_nil, or_false] at member
      rcases member with rfl | rfl | rfl <;> rfl
  | some failure =>
      refine ⟨(fun succeeded => by cases succeeded), ?_⟩
      intro _ field member
      simp only [List.mem_cons, List.not_mem_nil, or_false] at member
      rcases member with rfl | rfl
      · exact ⟨failure.kind.name, rfl⟩
      · exact ⟨failure.diagnostic, rfl⟩

section

variable
  {factory : ConnectionFactory}
  {previewLimit : Int}
  {prepared : Prepared}
  {planned : ApplyResult}

theorem attempts_succeeded_iff :
    (∀ statement ∈ tenantSent factory previewLimit prepared, statement.2 = true) ↔
      ∀ attempt ∈ tenantAttempts factory previewLimit prepared,
        attempt.succeeded = true := by
  simp [tenantSent]

/-- If no statement failed, applying the blocks came to what was planned. -/
theorem result_of_attempts_succeeded
    (rehearsed : (rehearse prepared.blocks).result = .ok planned)
    (succeeded :
      ∀ statement ∈ tenantSent factory previewLimit prepared, statement.2 = true) :
    (tenantRun factory previewLimit prepared).result = .ok planned := by
  rw [← rehearsed]
  exact (Applier.agrees_of_attempts (attempts_succeeded_iff.mp succeeded)).2

/-- A conversation that ends in a fault is not smooth unless the plan is a failure. -/
theorem not_smooth_of_populatesInVain
    {conversation : Conversation}
    (rehearsed : (rehearse prepared.blocks).result = .ok planned)
    (inVain :
      PopulatesInVain (tenantRun factory previewLimit prepared)
        (tenantSent factory previewLimit prepared) conversation)
    (success : planned.success = true) :
    ¬ Smooth (conversation.events (some prepared.name)) := by
  intro smooth
  cases inVain with
  | refused =>
      exact not_smooth_refused _ smooth
  | brokenOff closedWell broken =>
      have succeeded := (smooth_held_iff.mp smooth).1
      rw [result_of_attempts_succeeded rehearsed succeeded] at broken
      cases broken
  | unsettled closedWell ran =>
      obtain ⟨succeeded, noCommit, _⟩ := smooth_held_iff.mp smooth
      rw [result_of_attempts_succeeded rehearsed succeeded] at ran
      cases ran
      simp [verdictOn, success] at noCommit
  | closedBadly _ =>
      cases (smooth_held_iff.mp smooth).2.2

/-- A run that comes to its end succeeds exactly if it goes smoothly and as planned. -/
theorem success_of_populated_iff
    {result : ApplyResult}
    (rehearsed : (rehearse prepared.blocks).result = .ok planned)
    (ran : (tenantRun factory previewLimit prepared).result = .ok result) :
    result.success = true ↔
      planned.success = true ∧
        Smooth
          ((Conversation.held (tenantSent factory previewLimit prepared)
            (some (verdictOn result, true)) true).events (some prepared.name)) := by
  rw [smooth_held_iff]
  constructor
  · intro success
    obtain ⟨succeeded, same⟩ := Applier.agrees_of_success ran success
    rw [rehearsed] at same
    cases same
    exact ⟨success, attempts_succeeded_iff.mpr succeeded, by simp, rfl⟩
  · rintro ⟨success, succeeded, _⟩
    rw [result_of_attempts_succeeded rehearsed succeeded] at ran
    cases ran
    exact success

/-- The verdict on a run whose calls fail only by errors of the driver. -/
theorem CarriesOut.exists_result
    {conversations : List (Option Text × Conversation)}
    {outcome : Except RunError ProvisionResult}
    (carries :
      CarriesOut factory previewLimit prepared conversations outcome)
    (rehearsed : (rehearse prepared.blocks).result = .ok planned)
    (driverOnly :
      ∀ fault, factory.Raises fault → ∃ message, fault = .driver message) :
    ∃ result,
      outcome = .ok result ∧
        (result.applied.success = true ↔
          planned.success = true ∧ Smooth (eventsOf conversations)) := by
  have reported
      {other : Except RunError ProvisionResult}
      (fails : FailsWith factory prepared other) :
      ∃ result, other = .ok result ∧ result.applied.success = false := by
    cases fails with
    | reported _ failed =>
        exact ⟨_, rfl, failed⟩
    | broken raised =>
        obtain ⟨message, isDriver⟩ := driverOnly _ raised
        cases isDriver
  have created : Smooth ((creation prepared.database.text).events none) := by
    simp [creation, smooth_held_iff]
  cases carries with
  | notCreated inVain fails =>
      obtain ⟨result, isResult, failed⟩ := reported fails
      refine ⟨result, isResult, ?_⟩
      have notSmooth := not_smooth_of_administersInVain inVain
      simp [failed, notSmooth]
  | notPopulated inVain fails =>
      obtain ⟨result, isResult, failed⟩ := reported fails
      refine ⟨result, isResult, ?_⟩
      have notSmooth := not_smooth_of_populatesInVain rehearsed inVain
      simp only [failed, Bool.false_eq_true, eventsOf_cons, eventsOf_nil,
        List.append_nil, smooth_append, false_iff]
      rintro ⟨success, _, smooth⟩
      exact notSmooth success smooth
  | populated ran =>
      refine ⟨_, rfl, ?_⟩
      rw [success_of_populated_iff rehearsed ran]
      simp only [eventsOf_cons, eventsOf_nil, List.append_nil, smooth_append,
        created, true_and]

end

/--
A run that can be prepared, and whose calls fail only by errors of the driver, comes to a
result.  This is a success exactly if the plan is one and no call but a rollback failed, and
it is reported as what it is.
-/
theorem provision_succeeds_iff
    (factory : ConnectionFactory)
    (settings : RunSettings)
    (script : Text)
    (name : Option Text)
    (prepared : Prepared)
    (preparation : (prepare settings script name).outcome = .ok prepared)
    (driverOnly :
      ∀ fault, factory.Raises fault → ∃ message, fault = .driver message) :
    ∃ result planned,
      (provisionOver factory settings script name).outcome = .ok result ∧
        (plan settings script name).outcome = .ok planned ∧
        (result.applied.success = true ↔
          planned.result.success = true ∧
            Smooth (provisionOver factory settings script name).history) ∧
        ReportsOutcome result.applied := by
  obtain ⟨planned, rehearsed, isPlan⟩ := exists_plan_of_prepared preparation
  obtain ⟨outcome, history⟩ := provisionOver_of_prepared factory preparation
  obtain ⟨conversations, carries, made⟩ :=
    carryOut_cases factory settings.previewLimit prepared
  obtain ⟨result, isResult, success⟩ := carries.exists_result rehearsed driverOnly
  refine ⟨result, _, outcome.trans isResult, isPlan, ?_, reportsOutcome _⟩
  rw [history, made]
  exact success

/-- A server that reports a fault of closing the connection to the new catalog. -/
def Sample.closingBadly : Server :=
  fun _ call =>
    if call = .close (some name) then some (.driver "gone away") else none

/-- After a commit that succeeded, a fault of closing still makes a run fail. -/
theorem fault_of_closing_is_reported :
    ∃ result,
      (provision Sample.closingBadly .default Sample.script
          (some Sample.name)).outcome = .ok result ∧
        ⟨.commit (some Sample.name), true⟩ ∈
          (provision Sample.closingBadly .default Sample.script
            (some Sample.name)).history ∧
        result.applied.success = false ∧
        ReportsOutcome result.applied := by
  have driverOnly
      (fault : Fault)
      (raised : (ConnectionFactory.ofServer Sample.closingBadly).Raises fault) :
      ∃ message, fault = .driver message := by
    rcases raised with ⟨history, call, answer⟩ | ⟨history, call, answer⟩
    · have answered :
          (if call = .close (some Sample.name) then
            some (Fault.driver "gone away")
          else
            none) = some fault := answer
      split at answered
      · exact ⟨"gone away", (Option.some.inj answered).symm⟩
      · cases answered
    · cases answer
  obtain ⟨result, planned, outcome, _, success, reports⟩ :=
    provision_succeeds_iff (.ofServer Sample.closingBadly) .default
      Sample.script (some Sample.name) Sample.prepared Sample.prepare_script
      driverOnly
  have observed :
      ⟨.commit (some Sample.name), true⟩ ∈
          (provision Sample.closingBadly .default Sample.script
            (some Sample.name)).history ∧
        ⟨.close (some Sample.name), false⟩ ∈
          (provision Sample.closingBadly .default Sample.script
            (some Sample.name)).history := by
    decide +kernel
  obtain ⟨committed, closedBadly⟩ := observed
  refine ⟨result, outcome, committed, ?_, reports⟩
  cases succeeded : result.applied.success with
  | false =>
      rfl
  | true =>
      obtain ⟨catalog, rollsBack⟩ :=
        (success.mp succeeded).2 _ closedBadly rfl
      cases rollsBack

end TenantSchema.Provision
