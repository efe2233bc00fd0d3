import TenantSchema.Proofs.Provision.Preparation
import TenantSchema.Proofs.Provision.RunCases

namespace TenantSchema.Provision

open Conversation

/-!
# What is planned is carried out

A run raises the error of its plan before it makes a call.  Over connections that never fail
it executes the planned statements, first the one over the administrative connection and then
those over the new catalog, comes to the planned result and ends the transaction accordingly.
-/

theorem executedStatements_append
    (first second : History) :
    executedStatements (first ++ second) =
      executedStatements first ++ executedStatements second :=
  List.filterMap_append

/-- The statements of a conversation are executed if all of them succeed. -/
theorem executedStatements_held
    {catalog : Option Text}
    {sent : List (Text × Bool)}
    {verdict : Option (Verdict × Bool)}
    {closedWell : Bool}
    (succeeded : ∀ statement ∈ sent, statement.2 = true) :
    executedStatements
        ((Conversation.held sent verdict closedWell).events catalog) =
      sent.map Prod.fst := by
  have statements :
      executedStatements (sent.map (sentEvent catalog)) = sent.map Prod.fst := by
    induction sent with
    | nil =>
        rfl
    | cons statement rest inductionHypothesis =>
        rw [List.forall_mem_cons] at succeeded
        have first :
            sentEvent catalog statement =
              ⟨.execute catalog statement.1, true⟩ := by
          rw [sentEvent, succeeded.1]
        rw [List.map_cons, List.map_cons, first]
        exact congrArg _ (inductionHypothesis succeeded.2)
  have noVerdict :
      executedStatements (verdict.toList.map (verdictEvent catalog)) = [] := by
    rcases verdict with _ | ⟨_ | _, _⟩ <;> rfl
  have noClosing :
      executedStatements (closingEvents catalog closedWell) = [] := by
    cases closedWell <;> rfl
  calc executedStatements
        ((Conversation.held sent verdict closedWell).events catalog)
      _ = executedStatements
            ((Conversation.held sent verdict closedWell).afterOpening catalog) := rfl
      _ = sent.map Prod.fst := by
        rw [afterOpening, executedStatements_append, executedStatements_append,
          statements, noVerdict, noClosing, List.append_nil, List.append_nil]

/-- How a run over connections that never fail fulfils a plan. -/
structure Fulfils
    (planned : Plan)
    (history : History)
    (result : ProvisionResult) : Prop where
  name :
    result.name = planned.name
  blockCount :
    result.blocks.length = planned.blockCount
  applied :
    result.applied = planned.result
  statements :
    executedStatements (history.overCatalog none) ++
        executedStatements (history.overCatalog (some planned.name)) =
      planned.statements
  order :
    executedStatements history = planned.statements
  ending :
    (history.overCatalog (some planned.name)).endings =
      [
        if planned.result.success then
          ⟨.commit (some planned.name), true⟩
        else
          ⟨.rollback (some planned.name), true⟩
      ]

section

variable
  {previewLimit : Int}
  {prepared : Prepared}
  {planned : ApplyResult}

theorem not_raises_faultless
    {fault : Fault} :
    ¬ (ConnectionFactory.ofServer .faultless).Raises fault := by
  rintro (⟨_, _, answered⟩ | ⟨_, _, answered⟩) <;> cases answered

/-- Over connections that never fail the blocks are applied as rehearsed. -/
theorem tenantRun_of_faultless
    (rehearsed : (rehearse prepared.blocks).result = .ok planned) :
    (∀ statement ∈ tenantSent (.ofServer .faultless) previewLimit prepared,
        statement.2 = true) ∧
      (tenantSent (.ofServer .faultless) previewLimit prepared).map Prod.fst =
        Applier.plannedStatements prepared.blocks ∧
      (tenantRun (.ofServer .faultless) previewLimit prepared).result =
        .ok planned := by
  have compares :=
    Applier.comparesWithRehearsal
      (tenantConnection (.ofServer .faultless) previewLimit prepared)
      (tenantHistory prepared) prepared.blocks
  cases compares with
  | agreed succeeded texts same =>
      refine ⟨?_, ?_, same.trans rehearsed⟩
      · intro statement member
        obtain ⟨attempt, made, rfl⟩ := List.mem_map.mp member
        exact succeeded attempt made
      · rw [← texts, tenantSent, List.map_map]
        rfl
  | interrupted _ _ answered _ =>
      cases answered

/-- A prepared run over connections that never fail fulfils its plan. -/
theorem CarriesOut.fulfils
    {conversations : List (Option Text × Conversation)}
    {outcome : Except RunError ProvisionResult}
    (carries :
      CarriesOut (.ofServer .faultless) previewLimit prepared conversations
        outcome)
    (rehearsed : (rehearse prepared.blocks).result = .ok planned) :
    ∃ result,
      outcome = .ok result ∧
        Fulfils
          {
            name := prepared.name
            blockCount := prepared.blocks.length
            statements :=
              prepared.database.text ::
                Applier.plannedStatements prepared.blocks
            result := planned
          }
          (eventsOf conversations) result := by
  cases carries with
  | notCreated _ fails | notPopulated _ fails =>
      cases fails with
      | reported raised _ | broken raised =>
          exact (not_raises_faultless raised).elim
  | @populated result ran =>
      obtain ⟨succeeded, texts, same⟩ := tenantRun_of_faultless rehearsed
      obtain rfl : result = planned :=
        Except.ok.inj (ran.symm.trans same)
      have distinct :
          ([
            (none, creation prepared.database.text),
            (
              some prepared.name,
              Conversation.held
                (tenantSent (.ofServer .faultless) previewLimit prepared)
                (some (verdictOn result, true)) true
            )
          ].map Prod.fst : List (Option Text)).Nodup := by
        simp
      have created :
          executedStatements ((creation prepared.database.text).events none) =
            [prepared.database.text] :=
        rfl
      have populated :
          executedStatements
              ((Conversation.held
                (tenantSent (.ofServer .faultless) previewLimit prepared)
                (some (verdictOn result, true)) true).events
                  (some prepared.name)) =
            Applier.plannedStatements prepared.blocks := by
        rw [executedStatements_held succeeded, texts]
      refine ⟨_, rfl, rfl, rfl, rfl, ?_, ?_, ?_⟩
      · rw [overCatalog_eventsOf distinct List.mem_cons_self,
          overCatalog_eventsOf distinct (List.mem_cons_of_mem _ List.mem_cons_self),
          created, populated]
        rfl
      · rw [eventsOf_cons, eventsOf_cons, eventsOf_nil, List.append_nil,
          executedStatements_append, created, populated]
        rfl
      · rw [overCatalog_eventsOf distinct (List.mem_cons_of_mem _ List.mem_cons_self),
          endings_events]
        simp only [endings, Option.toList, List.map_cons, List.map_nil,
          verdictEvent, verdictOn]
        cases result.success <;> rfl

end

/--
A run that cannot be planned raises the error of the plan without a call, over connections of
whatever kind; any other run fulfils its plan over connections that never fail.
-/
theorem provision_fulfils_plan
    (settings : RunSettings)
    (script : Text)
    (name : Option Text) :
    match (plan settings script name).outcome with
    | .error error =>
        ∀ factory,
          (provisionOver factory settings script name).outcome = .error error ∧
            (provisionOver factory settings script name).history = []
    | .ok planned =>
        ∃ result,
          (provision .faultless settings script name).outcome = .ok result ∧
            Fulfils planned
              (provision .faultless settings script name).history result := by
  cases planning : (plan settings script name).outcome with
  | error error =>
      intro factory
      exact provisionOver_of_error factory (prepare_of_plan_error planning)
  | ok planned =>
      cases preparation : (prepare settings script name).outcome with
      | error error =>
          rw [plan_of_error preparation] at planning
          cases planning
      | ok prepared =>
          obtain ⟨applied, rehearsed, isPlan⟩ :=
            exists_plan_of_prepared preparation
          rw [isPlan] at planning
          cases planning
          obtain ⟨outcome, history⟩ :=
            provisionOver_of_prepared (.ofServer .faultless) preparation
          obtain ⟨conversations, carries, made⟩ :=
            carryOut_cases (.ofServer .faultless) settings.previewLimit prepared
          obtain ⟨result, isResult, fulfils⟩ := carries.fulfils rehearsed
          refine ⟨result, outcome.trans isResult, ?_⟩
          rw [provision, history, made]
          exact fulfils

/-- References that run in a circle are planned as a failure and rolled back as one. -/
example :
    (provision .faultless .default
        ("CREATE DATABASE __database_name__;\n" ++
          "CREATE TABLE a (b INT REFERENCES b (id)) ENGINE = InnoDB;\n" ++
          "CREATE TABLE b (a INT REFERENCES a (id)) ENGINE = InnoDB;").toList
        (some Sample.name)).history =
      (creation Sample.database.text).events none ++
        [
          ⟨.connect (some Sample.name), true⟩,
          ⟨.rollback (some Sample.name), true⟩,
          ⟨.close (some Sample.name), true⟩
        ] := by
  decide +kernel

end TenantSchema.Provision
