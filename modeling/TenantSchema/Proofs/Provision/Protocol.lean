import TenantSchema.Proofs.Provision.Preparation
import TenantSchema.Proofs.Provision.RunCases

namespace TenantSchema.Provision

open Conversation

/-!
# The protocol of a provisioning run

Whatever the calls come to, and however a connection is left, a run creates the database
first, turns to the new catalog only after that went well, closes what it opened before it
opens anything else, and ends each transaction at most once and for good.
-/

/-- The events of a creation of the database with nothing amiss. -/
def creationEvents (statement : Text) : History :=
  [
    ⟨.connect none, true⟩,
    ⟨.execute none statement, true⟩,
    ⟨.commit none, true⟩,
    ⟨.close none, true⟩
  ]

/--
The protocol of the calls of a prepared run.  The blocks are applied over the new catalog from
the moment on when its connection was opened.
-/
structure KeepsProtocol
    (factory : ConnectionFactory)
    (previewLimit : Int)
    (prepared : Prepared)
    (history : History) : Prop where
  administrativeFirst :
    history.head?.map Event.call = some (.connect none)
  /-- The database is created by the first block that creates one. -/
  firstDatabase :
    prepared.blocks.find? (·.kind == .createDatabase) = some prepared.database
  /-- Its statement is sent once, and no other over the administrative connection. -/
  administrativeStatements :
    (history.overCatalog none).statements =
      if ⟨.connect none, true⟩ ∈ history then [prepared.database.text] else []
  catalogs :
    ∀ event ∈ history,
      event.call.catalog = none ∨ event.call.catalog = some prepared.name
  tenantOnce :
    (history.filter (·.call == .connect (some prepared.name))).length ≤ 1
  tenantAfterCreation :
    ∀ before event after,
      history = before ++ event :: after →
      event.call = .connect (some prepared.name) →
      before = creationEvents prepared.database.text
  tenantApplies :
    ⟨.connect (some prepared.name), true⟩ ∈ history →
    (tenantRun factory previewLimit prepared).history <+: history
  /-- The statements over the new catalog are those of the blocks that are handed to it. -/
  tenantStatements :
    (history.overCatalog (some prepared.name)).statements =
      if ⟨.connect (some prepared.name), true⟩ ∈ history then
        (tenantAttempts factory previewLimit prepared).map (·.block.text)
      else
        []
  tenantBlocks :
    ∀ attempt ∈ tenantAttempts factory previewLimit prepared,
      attempt.block ∈ prepared.blocks ∧ attempt.block.kind ≠ .createDatabase
  closesConnections :
    history.ClosesConnections
  endsTransactionsOnce :
    ∀ catalog, (history.overCatalog catalog).endings.length ≤ 1
  executesBeforeEnding :
    history.ExecutesBeforeEnding
  commitsSuccess :
    ∀ succeeded,
      ⟨.commit (some prepared.name), succeeded⟩ ∈ history →
      ∃ result,
        (tenantRun factory previewLimit prepared).result = .ok result ∧
          result.success = true
  rollsBackFailure :
    ∀ succeeded,
      ⟨.rollback (some prepared.name), succeeded⟩ ∈ history →
      ∃ result,
        (tenantRun factory previewLimit prepared).result = .ok result ∧
          result.success = false

section

variable
  {factory : ConnectionFactory}
  {previewLimit : Int}
  {prepared : Prepared}
  {conversations : List (Option Text × Conversation)}
  {outcome : Except RunError ProvisionResult}

/-- What the conversation over the new catalog says about the run that applied the blocks. -/
inductive TenantConversation
    (factory : ConnectionFactory)
    (previewLimit : Int)
    (prepared : Prepared) :
    Conversation → Prop where
  | refused :
      TenantConversation factory previewLimit prepared .refused
  | brokenOff
      (closedWell : Bool) :
      TenantConversation factory previewLimit prepared
        (.held (tenantSent factory previewLimit prepared) none closedWell)
  | ended
      {result : ApplyResult}
      (succeeded closedWell : Bool) :
      (tenantRun factory previewLimit prepared).result = .ok result →
      TenantConversation factory previewLimit prepared
        (.held (tenantSent factory previewLimit prepared)
          (some (verdictOn result, succeeded)) closedWell)

/-- A run holds one conversation, or a second one after it created the database. -/
theorem CarriesOut.conversations_cases
    (carries :
      CarriesOut factory previewLimit prepared conversations outcome) :
    (∃ conversation,
      AdministersInVain prepared.database.text conversation ∧
        conversations = [(none, conversation)]) ∨
      ∃ conversation,
        TenantConversation factory previewLimit prepared conversation ∧
          conversations =
            [
              (none, creation prepared.database.text),
              (some prepared.name, conversation)
            ] := by
  cases carries with
  | @notCreated conversation _ inVain _ =>
      exact .inl ⟨conversation, inVain, rfl⟩
  | @notPopulated conversation _ inVain _ =>
      refine .inr ⟨conversation, ?_, rfl⟩
      cases inVain with
      | refused =>
          exact .refused
      | brokenOff closedWell _ =>
          exact .brokenOff closedWell
      | unsettled closedWell ran =>
          exact .ended false closedWell ran
      | closedBadly ran =>
          exact .ended true false ran
  | populated ran =>
      exact .inr ⟨_, .ended true true ran, rfl⟩

theorem statements_of_administersInVain
    {statement : Text}
    {conversation : Conversation}
    (inVain : AdministersInVain statement conversation) :
    conversation.statements = if conversation.opened then [statement] else [] := by
  cases inVain <;> rfl

theorem statements_of_tenantConversation
    {conversation : Conversation}
    (tenant : TenantConversation factory previewLimit prepared conversation) :
    conversation.statements =
      if conversation.opened then
        (tenantAttempts factory previewLimit prepared).map (·.block.text)
      else
        [] := by
  have texts :
      (tenantSent factory previewLimit prepared).map Prod.fst =
        (tenantAttempts factory previewLimit prepared).map (·.block.text) := by
    rw [tenantSent, List.map_map]
    rfl
  cases tenant with
  | refused =>
      rfl
  | brokenOff _ | ended _ _ _ =>
      exact texts

/-- The transaction of the new catalog is ended as the result of the applier asks for. -/
theorem exists_result_of_verdict
    {conversation : Conversation}
    (tenant : TenantConversation factory previewLimit prepared conversation)
    {verdict : Verdict}
    {succeeded : Bool}
    (member :
      ⟨verdict.call (some prepared.name), succeeded⟩ ∈
        conversation.events (some prepared.name)) :
    ∃ result,
      (tenantRun factory previewLimit prepared).result = .ok result ∧
        verdictOn result = verdict := by
  have ends : (verdict.call (some prepared.name)).endsTransaction = true := by
    cases verdict <;> rfl
  have ending :
      ⟨verdict.call (some prepared.name), succeeded⟩ ∈
        conversation.endings (some prepared.name) := by
    rw [← Conversation.endings_events]
    exact List.mem_filter.mpr ⟨member, ends⟩
  cases tenant with
  | refused | brokenOff _ =>
      cases ending
  | @ended result tookEffect _ ran =>
      have same := congrArg Event.call (List.mem_singleton.mp ending)
      refine ⟨result, ran, ?_⟩
      cases verdict <;> cases decided : verdictOn result <;>
        simp [verdictEvent, Verdict.call, decided] at same ⊢

/-- Creating the database does not end the transaction of the new catalog. -/
theorem exists_result_of_ending
    {conversation : Conversation}
    (tenant : TenantConversation factory previewLimit prepared conversation)
    (verdict : Verdict)
    {succeeded : Bool}
    (member :
      ⟨verdict.call (some prepared.name), succeeded⟩ ∈
        creationEvents prepared.database.text ++
          conversation.events (some prepared.name)) :
    ∃ result,
      (tenantRun factory previewLimit prepared).result = .ok result ∧
        verdictOn result = verdict := by
  rcases List.mem_append.mp member with administrative | inside
  · cases verdict <;> simp [creationEvents, Verdict.call] at administrative
  · exact exists_result_of_verdict tenant inside

/-- What is committed was a success, and what is rolled back was none. -/
theorem success_of_verdictOn
    {result : ApplyResult}
    {verdict : Verdict}
    (decided : verdictOn result = verdict) :
    result.success = (verdict == .commit) := by
  subst decided
  unfold verdictOn
  cases result.success <;> rfl

/-- What precedes the attempt to connect to the new catalog is the creation of the database. -/
theorem before_tenant_connect
    {statement name : Text}
    {conversation : Conversation}
    {before after : History}
    {event : Event}
    (shape :
      creationEvents statement ++ conversation.events (some name) =
        before ++ event :: after)
    (connects : event.call = .connect (some name)) :
    before = creationEvents statement := by
  rcases List.append_eq_append_iff.mp shape with
    ⟨between, created, later⟩ | ⟨between, created, later⟩
  · rcases between with _ | ⟨first, between⟩
    · rw [created, List.append_nil]
    · -- No conversation connects a second time.
      injection later with _ remaining
      have member : event ∈ conversation.afterOpening (some name) := by
        rw [remaining]
        simp
      have noConnect := isConnect_of_mem_afterOpening member
      rw [connects] at noConnect
      cases noConnect
  · rcases between with _ | ⟨first, between⟩
    · rw [created, List.append_nil]
    · -- The creation takes place over the administrative connection.
      injection later with isEvent _
      have member : event ∈ (creation statement).events none := by
        change event ∈ creationEvents statement
        rw [created, isEvent]
        simp
      have reached := catalog_of_mem_events member
      rw [connects] at reached
      cases reached

theorem history_tenantRun_isPrefix
    {conversation : Conversation}
    (tenant : TenantConversation factory previewLimit prepared conversation)
    (wasOpened : conversation.opened = true) :
    (tenantRun factory previewLimit prepared).history <+:
      creationEvents prepared.database.text ++
        conversation.events (some prepared.name) := by
  have reached (verdict : Option (Verdict × Bool)) (closedWell : Bool) :
      (tenantRun factory previewLimit prepared).history <+:
        creationEvents prepared.database.text ++
          (Conversation.held (tenantSent factory previewLimit prepared) verdict
            closedWell).events (some prepared.name) := by
    rw [history_tenantRun]
    exact ⟨verdict.toList.map (verdictEvent (some prepared.name)) ++
      closingEvents (some prepared.name) closedWell, by
        simp [tenantHistory, creation, creationEvents, events, afterOpening,
          opened, sentEvent, verdictEvent, Verdict.call, closingEvents]⟩
  cases tenant with
  | refused =>
      cases wasOpened
  | brokenOff closedWell =>
      exact reached none closedWell
  | ended succeeded closedWell _ =>
      exact reached _ closedWell

theorem blocks_of_tenantAttempts
    {attempt : Applier.Attempt}
    (made : attempt ∈ tenantAttempts factory previewLimit prepared) :
    attempt.block ∈ prepared.blocks ∧ attempt.block.kind ≠ .createDatabase :=
  Applier.block_of_mem_attempts made

/-- A run that does not get to the new catalog keeps the protocol. -/
theorem keepsProtocol_of_inVain
    {conversation : Conversation}
    (creates :
      prepared.blocks.find? (·.kind == .createDatabase) = some prepared.database)
    (inVain : AdministersInVain prepared.database.text conversation) :
    KeepsProtocol factory previewLimit prepared
      (eventsOf [(none, conversation)]) := by
  have distinct :
      ([(none, conversation)].map Prod.fst : List (Option Text)).Nodup := by
    simp
  have held :
      (none, conversation) ∈ [((none : Option Text), conversation)] :=
    List.mem_singleton_self _
  have absent :
      some prepared.name ∉
        ([(none, conversation)].map Prod.fst : List (Option Text)) := by
    simp
  have administrative
      {event : Event}
      (member : event ∈ eventsOf [(none, conversation)]) :
      event.call.catalog = none :=
    List.mem_singleton.mp (catalog_of_mem_eventsOf member)
  exact {
    administrativeFirst := rfl
    firstDatabase := creates
    administrativeStatements :=
      statements_overCatalog_eventsOf distinct held
        (statements_of_administersInVain inVain)
    catalogs := fun event member => .inl (administrative member)
    tenantOnce := length_connects_eventsOf_le_one distinct _
    tenantAfterCreation := by
      intro before event after shape connects
      have member : event ∈ eventsOf [(none, conversation)] := by
        rw [shape]
        simp
      have reached := administrative member
      rw [connects] at reached
      cases reached
    tenantApplies := fun member => by
      cases administrative member
    tenantStatements := by
      rw [overCatalog_eventsOf_of_not_mem absent, if_neg]
      · rfl
      · intro member
        cases administrative member
    tenantBlocks := fun _ => blocks_of_tenantAttempts
    closesConnections := closesConnections_eventsOf _
    endsTransactionsOnce := length_endings_overCatalog_eventsOf_le_one distinct
    executesBeforeEnding := executesBeforeEnding_eventsOf distinct
    commitsSuccess := fun _ member => by
      cases administrative member
    rollsBackFailure := fun _ member => by
      cases administrative member
  }

/-- A run that gets to the new catalog keeps the protocol. -/
theorem keepsProtocol_of_tenant
    {conversation : Conversation}
    (creates :
      prepared.blocks.find? (·.kind == .createDatabase) = some prepared.database)
    (tenant : TenantConversation factory previewLimit prepared conversation) :
    KeepsProtocol factory previewLimit prepared
      (eventsOf [
        (none, creation prepared.database.text),
        (some prepared.name, conversation)
      ]) := by
  have distinct :
      ([
        (none, creation prepared.database.text),
        (some prepared.name, conversation)
      ].map Prod.fst : List (Option Text)).Nodup := by
    simp
  have history :
      eventsOf [
          (none, creation prepared.database.text),
          (some prepared.name, conversation)
        ] =
        creationEvents prepared.database.text ++
          conversation.events (some prepared.name) := by
    rw [eventsOf_cons, eventsOf_cons, eventsOf_nil, List.append_nil]
    rfl
  have held :
      (some prepared.name, conversation) ∈
        [
          (none, creation prepared.database.text),
          (some prepared.name, conversation)
        ] := by
    simp
  exact {
    administrativeFirst := rfl
    firstDatabase := creates
    administrativeStatements :=
      statements_overCatalog_eventsOf distinct List.mem_cons_self rfl
    catalogs := by
      intro event member
      simpa using catalog_of_mem_eventsOf member
    tenantOnce := length_connects_eventsOf_le_one distinct _
    tenantAfterCreation := fun _ _ _ shape connects =>
      before_tenant_connect (history ▸ shape) connects
    tenantApplies := fun member => by
      rw [history]
      apply history_tenantRun_isPrefix tenant
      exact (connect_mem_eventsOf_iff distinct held).mp member
    tenantStatements :=
      statements_overCatalog_eventsOf distinct held
        (statements_of_tenantConversation tenant)
    tenantBlocks := fun _ => blocks_of_tenantAttempts
    closesConnections := closesConnections_eventsOf _
    endsTransactionsOnce := length_endings_overCatalog_eventsOf_le_one distinct
    executesBeforeEnding := executesBeforeEnding_eventsOf distinct
    commitsSuccess := fun _ member => by
      rw [history] at member
      obtain ⟨result, ran, commits⟩ :=
        exists_result_of_ending tenant .commit member
      exact ⟨result, ran, success_of_verdictOn commits⟩
    rollsBackFailure := fun _ member => by
      rw [history] at member
      obtain ⟨result, ran, rollsBack⟩ :=
        exists_result_of_ending tenant .rollback member
      exact ⟨result, ran, success_of_verdictOn rollsBack⟩
  }

end

theorem keepsProtocol_of_prepared
    {settings : RunSettings}
    {script : Text}
    {name : Option Text}
    {prepared : Prepared}
    (factory : ConnectionFactory)
    (preparation : (prepare settings script name).outcome = .ok prepared) :
    KeepsProtocol factory settings.previewLimit prepared
      (provisionOver factory settings script name).history := by
  obtain ⟨substitution, origin⟩ := exists_preparedFrom preparation
  obtain ⟨conversations, carries, history⟩ :=
    carryOut_cases factory settings.previewLimit prepared
  rw [(provisionOver_of_prepared factory preparation).2, history]
  rcases carries.conversations_cases with
    ⟨conversation, inVain, rfl⟩ | ⟨conversation, tenant, rfl⟩
  · exact keepsProtocol_of_inVain origin.creates inVain
  · exact keepsProtocol_of_tenant origin.creates tenant

/--
Whatever its calls come to, a provisioning run keeps the protocol; if it could not be
prepared, it makes no call.
-/
theorem provision_keeps_protocol
    (factory : ConnectionFactory)
    (settings : RunSettings)
    (script : Text)
    (name : Option Text) :
    match (prepare settings script name).outcome with
    | .error _ =>
        (provisionOver factory settings script name).history = []
    | .ok prepared =>
        KeepsProtocol factory settings.previewLimit prepared
          (provisionOver factory settings script name).history := by
  cases preparation : (prepare settings script name).outcome with
  | error error =>
      exact (provisionOver_of_error factory preparation).2
  | ok prepared =>
      exact keepsProtocol_of_prepared factory preparation

/-- A connection that could not commit is closed, and nothing is rolled back. -/
example :
    (provision
        (fun _ call =>
          if call = .commit (some Sample.name) then some (.unhandled "gone") else none)
        .default Sample.script (some Sample.name)).history =
      creationEvents Sample.database.text ++
        [
          ⟨.connect (some Sample.name), true⟩,
          ⟨.execute (some Sample.name) Sample.users.text, true⟩,
          ⟨.execute (some Sample.name) Sample.posts.text, true⟩,
          ⟨.commit (some Sample.name), false⟩,
          ⟨.close (some Sample.name), true⟩
        ] := by
  decide +kernel

end TenantSchema.Provision
