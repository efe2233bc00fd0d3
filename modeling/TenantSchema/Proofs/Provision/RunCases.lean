import TenantSchema.Proofs.Applier.Interruption
import TenantSchema.Proofs.Provision.Creation

namespace TenantSchema.Provision

open Conversation

/-!
# What a provisioning run can do

A prepared run holds one conversation over the administrative connection and, if all of it
went well, one over the connection to the new catalog.  The shapes that these conversations
can take, and what the run comes to after each of them, are all that the statements about
provisioning are drawn from.
-/

section

variable
  (factory : ConnectionFactory)
  (previewLimit : Int)
  (prepared : Prepared)

/-- The history of a run when the connection to the new catalog was opened. -/
def tenantHistory : History :=
  (creation prepared.database.text).events none ++
    [⟨.connect (some prepared.name), true⟩]

/-- How the blocks are applied over the connection to the new catalog. -/
def tenantRun : Applier.Run :=
  Applier.run (tenantConnection factory previewLimit prepared)
    (tenantHistory prepared) prepared.blocks

/-- The blocks that are handed to the connection to the new catalog. -/
def tenantAttempts : List Applier.Attempt :=
  Applier.attempts (tenantConnection factory previewLimit prepared)
    (tenantHistory prepared) prepared.blocks

/-- The statements that are sent to the new catalog, each with its success. -/
def tenantSent : List (Text × Bool) :=
  (tenantAttempts factory previewLimit prepared).map fun attempt =>
    (attempt.block.text, attempt.succeeded)

end

/-- How a transaction is ended after blocks were applied. -/
def verdictOn (result : ApplyResult) : Verdict :=
  if result.success then .commit else .rollback

section

variable
  {factory : ConnectionFactory}
  {previewLimit : Int}
  {prepared : Prepared}

theorem history_tenantRun :
    (tenantRun factory previewLimit prepared).history =
      tenantHistory prepared ++
        (tenantSent factory previewLimit prepared).map
          (sentEvent (some prepared.name)) := by
  rw [tenantRun, Applier.run_history, tenantSent, List.map_map]
  rfl

end

/-- How filling the database ends, after the statements and perhaps the end of a transaction. -/
inductive Fills
    (server : Server)
    (run : Applier.Run) :
    Option (Verdict × Bool) → Ending ApplyResult → Prop where
  | brokenOff
      {message : String} :
      run.result = .error message →
      Fills server run none (.broken (.unhandled message) none)
  | settled
      {result : ApplyResult} :
      run.result = .ok result →
      Fills server run (some (verdictOn result, true)) (.finished result)
  | unsettled
      {result : ApplyResult}
      {fault : Fault} :
      run.result = .ok result →
      server.Raises fault →
      Fills server run (some (verdictOn result, false))
        (.broken fault (some result))

theorem fillDatabase_of_error
    {connection : Applier.Connection}
    {blocks : List Block}
    {history : History}
    {message : String}
    (brokenOff : (Applier.run connection history blocks).result = .error message) :
    fillDatabase connection blocks history =
      {
        ending := .broken (.unhandled message) none
        history := (Applier.run connection history blocks).history
        notes := (Applier.run connection history blocks).notes
      } := by
  simp only [fillDatabase, brokenOff]

theorem fillDatabase_of_result
    {connection : Applier.Connection}
    {blocks : List Block}
    {history : History}
    {result : ApplyResult}
    (ran : (Applier.run connection history blocks).result = .ok result) :
    fillDatabase connection blocks history =
      settled result (Applier.run connection history blocks).notes
        (connection.server.perform (Applier.run connection history blocks).history
          ((verdictOn result).call connection.catalog)) := by
  simp only [fillDatabase, ran, verdictOn]
  cases result.success <;> rfl

theorem fillDatabase_cases
    (connection : Applier.Connection)
    (blocks : List Block)
    (history : History) :
    ∃ verdict,
      Fills connection.server (Applier.run connection history blocks) verdict
          (fillDatabase connection blocks history).ending ∧
        (fillDatabase connection blocks history).history =
          (Applier.run connection history blocks).history ++
            verdict.toList.map (verdictEvent connection.catalog) := by
  cases ran : (Applier.run connection history blocks).result with
  | error message =>
      rw [fillDatabase_of_error ran]
      exact ⟨none, .brokenOff ran, (List.append_nil _).symm⟩
  | ok result =>
      rw [fillDatabase_of_result ran]
      cases answer :
          connection.server (Applier.run connection history blocks).history
            ((verdictOn result).call connection.catalog) with
      | none =>
          refine ⟨some (verdictOn result, true), ?_⟩
          rw [settled_of_accepted result _ answer]
          exact ⟨.settled ran, rfl⟩
      | some fault =>
          refine ⟨some (verdictOn result, false), ?_⟩
          rw [settled_of_fault result _ answer]
          exact ⟨.unsettled ran ⟨_, _, answer⟩, rfl⟩

/-- The conversations over the new catalog that end in a fault. -/
inductive PopulatesInVain
    (run : Applier.Run)
    (sent : List (Text × Bool)) :
    Conversation → Prop where
  | refused :
      PopulatesInVain run sent .refused
  | brokenOff
      {message : String}
      (closedWell : Bool) :
      run.result = .error message →
      PopulatesInVain run sent (.held sent none closedWell)
  | unsettled
      {result : ApplyResult}
      (closedWell : Bool) :
      run.result = .ok result →
      PopulatesInVain run sent
        (.held sent (some (verdictOn result, false)) closedWell)
  | closedBadly
      {result : ApplyResult} :
      run.result = .ok result →
      PopulatesInVain run sent
        (.held sent (some (verdictOn result, true)) false)

/-- Unless all went well, the conversation ends in a fault. -/
theorem Fills.populatesInVain
    {server : Server}
    {run : Applier.Run}
    {verdict : Option (Verdict × Bool)}
    {ending : Ending ApplyResult}
    {closedWell : Bool}
    (sent : List (Text × Bool))
    (fills : Fills server run verdict ending)
    (flawed : closedWell = false ∨ ∀ result, ending ≠ .finished result) :
    PopulatesInVain run sent (.held sent verdict closedWell) := by
  cases fills with
  | brokenOff broken =>
      exact .brokenOff closedWell broken
  | unsettled ran _ =>
      exact .unsettled closedWell ran
  | settled ran =>
      rcases flawed with rfl | other
      · exact .closedBadly ran
      · exact (other _ rfl).elim

/-- How the part of a run over the new catalog ends after a conversation. -/
inductive Populates
    (factory : ConnectionFactory)
    (run : Applier.Run)
    (sent : List (Text × Bool)) :
    Conversation → Ending ApplyResult → Prop where
  | settled
      {result : ApplyResult} :
      run.result = .ok result →
      Populates factory run sent
        (.held sent (some (verdictOn result, true)) true) (.finished result)
  | inVain
      {conversation : Conversation}
      {ending : Ending ApplyResult} :
      PopulatesInVain run sent conversation →
      ending.Fails factory (fun result => result.success = false) →
      Populates factory run sent conversation ending

section

variable
  {factory : ConnectionFactory}
  {previewLimit : Int}
  {prepared : Prepared}
  {history : History}

theorem history_populate :
    (populate factory previewLimit prepared history).history =
      (factory.within (some prepared.name) history
        (fillDatabase (tenantConnection factory previewLimit prepared)
          prepared.blocks)).history := by
  unfold populate
  dsimp only
  split <;> rfl

/-- A fault that leaves the connection to the new catalog makes the run fail. -/
theorem fails_of_populate_broken
    {fault : Fault}
    {obtained : Option ApplyResult}
    (raised : factory.Raises fault)
    (broken :
      (factory.within (some prepared.name) history
        (fillDatabase (tenantConnection factory previewLimit prepared)
          prepared.blocks)).ending = .broken fault obtained) :
    (populate factory previewLimit prepared history).ending.Fails factory
      (fun result => result.success = false) := by
  unfold populate
  dsimp only [tenantConnection] at broken ⊢
  cases fault with
  | driver message =>
      rw [broken]
      exact .reported raised rfl
  | unhandled message =>
      rw [broken]
      dsimp only
      rw [broken]
      exact .broken raised

theorem ending_populate_of_finished
    {result : ApplyResult}
    (finished :
      (factory.within (some prepared.name) history
        (fillDatabase (tenantConnection factory previewLimit prepared)
          prepared.blocks)).ending = .finished result) :
    (populate factory previewLimit prepared history).ending =
      .finished result := by
  unfold populate
  dsimp only [tenantConnection] at finished ⊢
  rw [finished]
  exact finished

/-- How the part of a run over the new catalog ends, once filling the database has ended. -/
theorem Fills.populates
    {verdict : Option (Verdict × Bool)}
    {ended : Ending ApplyResult}
    {closing : Option Fault}
    (fills :
      Fills factory.server (tenantRun factory previewLimit prepared) verdict ended)
    (closingRaised : ∀ fault, closing = some fault → factory.Raises fault)
    (ending :
      (factory.within (some prepared.name) history
        (fillDatabase (tenantConnection factory previewLimit prepared)
          prepared.blocks)).ending = ended.afterClosing closing) :
    Populates factory (tenantRun factory previewLimit prepared)
      (tenantSent factory previewLimit prepared)
      (.held (tenantSent factory previewLimit prepared) verdict closing.isNone)
      (populate factory previewLimit prepared history).ending := by
  cases closing with
  | some fault =>
      -- A fault of closing makes the run fail whatever came before it.
      exact .inVain (fills.populatesInVain _ (.inl rfl))
        (fails_of_populate_broken (closingRaised fault rfl) ending)
  | none =>
      have inVain (flawed : ∀ result, ended ≠ .finished result) :
          PopulatesInVain (tenantRun factory previewLimit prepared)
            (tenantSent factory previewLimit prepared)
            (.held (tenantSent factory previewLimit prepared) verdict true) :=
        fills.populatesInVain _ (.inr flawed)
      cases fills with
      | brokenOff broken =>
          obtain ⟨raised, _⟩ := Applier.exists_fault_of_error broken
          exact .inVain (inVain (by simp))
            (fails_of_populate_broken (.inl raised) ending)
      | unsettled _ raised =>
          exact .inVain (inVain (by simp))
            (fails_of_populate_broken (.inl raised) ending)
      | settled ran =>
          rw [ending_populate_of_finished ending]
          exact .settled ran

theorem populate_cases
    (factory : ConnectionFactory)
    (previewLimit : Int)
    (prepared : Prepared) :
    ∃ conversation,
      Populates factory (tenantRun factory previewLimit prepared)
          (tenantSent factory previewLimit prepared) conversation
          (populate factory previewLimit prepared
            ((creation prepared.database.text).events none)).ending ∧
        (populate factory previewLimit prepared
            ((creation prepared.database.text).events none)).history =
          (creation prepared.database.text).events none ++
            conversation.events (some prepared.name) := by
  rw [history_populate]
  rcases factory.within_cases (some prepared.name)
      ((creation prepared.database.text).events none)
      (fillDatabase (tenantConnection factory previewLimit prepared)
        prepared.blocks) with
    ⟨fault, raised, broken, history⟩ | ⟨closing, closingRaised, ending, history⟩
  · exact ⟨.refused, .inVain .refused (fails_of_populate_broken raised broken),
      history⟩
  · obtain ⟨verdict, fills, made⟩ :=
      fillDatabase_cases (tenantConnection factory previewLimit prepared)
        prepared.blocks (tenantHistory prepared)
    have opened :
        (creation prepared.database.text).events none ++
            [⟨.connect (some prepared.name), true⟩] =
          tenantHistory prepared := rfl
    rw [opened] at ending history
    refine ⟨_, fills.populates closingRaised ending, ?_⟩
    rw [history, made]
    change (tenantRun factory previewLimit prepared).history ++ _ ++ _ = _
    rw [history_tenantRun]
    simp [tenantHistory, tenantConnection, events, afterOpening,
      Conversation.opened]

end

/-- How a run ends that a fault kept from its purpose. -/
inductive FailsWith
    (factory : ConnectionFactory)
    (prepared : Prepared) :
    Except RunError ProvisionResult → Prop where
  | reported
      {fault : Fault}
      {applied : ApplyResult} :
      factory.Raises fault →
      applied.success = false →
      FailsWith factory prepared
        (.ok {
          name := prepared.name
          blocks := prepared.blocks
          applied := applied
        })
  | broken
      {message : String} :
      factory.Raises (.unhandled message) →
      FailsWith factory prepared (.error (.unhandled message))

/--
What a prepared run can do: the conversations that it holds, each with the catalog of its
connection, and what the run comes to.
-/
inductive CarriesOut
    (factory : ConnectionFactory)
    (previewLimit : Int)
    (prepared : Prepared) :
    List (Option Text × Conversation) →
      Except RunError ProvisionResult → Prop where
  | notCreated
      {conversation : Conversation}
      {outcome : Except RunError ProvisionResult} :
      AdministersInVain prepared.database.text conversation →
      FailsWith factory prepared outcome →
      CarriesOut factory previewLimit prepared [(none, conversation)] outcome
  | notPopulated
      {conversation : Conversation}
      {outcome : Except RunError ProvisionResult} :
      PopulatesInVain (tenantRun factory previewLimit prepared)
        (tenantSent factory previewLimit prepared) conversation →
      FailsWith factory prepared outcome →
      CarriesOut factory previewLimit prepared
        [
          (none, creation prepared.database.text),
          (some prepared.name, conversation)
        ] outcome
  | populated
      {result : ApplyResult} :
      (tenantRun factory previewLimit prepared).result = .ok result →
      CarriesOut factory previewLimit prepared
        [
          (none, creation prepared.database.text),
          (
            some prepared.name,
            .held (tenantSent factory previewLimit prepared)
              (some (verdictOn result, true)) true
          )
        ]
        (.ok {
          name := prepared.name
          blocks := prepared.blocks
          applied := result
        })

theorem carryOut_cases
    (factory : ConnectionFactory)
    (previewLimit : Int)
    (prepared : Prepared) :
    ∃ conversations,
      CarriesOut factory previewLimit prepared conversations
          (carryOut factory previewLimit prepared).outcome ∧
        (carryOut factory previewLimit prepared).history =
          eventsOf conversations := by
  obtain ⟨conversation, administers, administered⟩ :=
    administrate_cases factory prepared
  unfold carryOut
  dsimp only
  generalize isFirst : (administrate factory prepared).ending = first at administers
  cases administers with
  | inVain inVain fails =>
      refine ⟨[(none, conversation)], ?_⟩
      cases fails with
      | reported raised failed =>
          obtain ⟨applied, rfl, failed⟩ := failed
          exact ⟨.notCreated inVain (.reported raised failed), by simp [administered]⟩
      | broken raised =>
          exact ⟨.notCreated inVain (.broken raised), by simp [administered]⟩
  | created =>
      obtain ⟨conversation, populates, populated⟩ :=
        populate_cases factory previewLimit prepared
      rw [administered]
      refine ⟨[(none, creation prepared.database.text),
        (some prepared.name, conversation)], ?_⟩
      generalize (populate factory previewLimit prepared
        ((creation prepared.database.text).events none)).ending =
          second at populates
      cases populates with
      | settled ran =>
          exact ⟨.populated ran, by simp [populated]⟩
      | inVain inVain fails =>
          cases fails with
          | reported raised failed =>
              exact ⟨.notPopulated inVain (.reported raised failed),
                by simp [populated]⟩
          | broken raised =>
              exact ⟨.notPopulated inVain (.broken raised), by simp [populated]⟩

end TenantSchema.Provision
