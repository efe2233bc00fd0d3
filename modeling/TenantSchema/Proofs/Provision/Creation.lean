import TenantSchema.Proofs.Provision.Faults

namespace TenantSchema.Provision

open Conversation

/-!
# Creating the database

The administrative part of a run is one conversation.  It leads on to the new catalog exactly
if the statement, the commit and the closing of the connection succeed; after any other
conversation the run is over.
-/

/-- The conversation that creates the database, with nothing amiss. -/
def creation (statement : Text) : Conversation :=
  .held [(statement, true)] (some (.commit, true)) true

/-- The administrative conversations that do not lead on to the new catalog. -/
inductive AdministersInVain (statement : Text) : Conversation → Prop where
  | refused :
      AdministersInVain statement .refused
  | brokenOff
      (closedWell : Bool) :
      AdministersInVain statement
        (.held [(statement, false)] none closedWell)
  | rejected
      (rolledBack closedWell : Bool) :
      AdministersInVain statement
        (.held [(statement, false)] (some (.rollback, rolledBack)) closedWell)
  | uncommitted
      (closedWell : Bool) :
      AdministersInVain statement
        (.held [(statement, true)] (some (.commit, false)) closedWell)
  | closedBadly :
      AdministersInVain statement
        (.held [(statement, true)] (some (.commit, true)) false)

/-- How creating the database ends, after a statement and perhaps the end of a transaction. -/
inductive Creates (server : Server) :
    Bool → Option (Verdict × Bool) → Ending (Option ApplyResult) → Prop where
  | created :
      Creates server true (some (.commit, true)) (.finished none)
  | uncommitted
      {fault : Fault}
      {obtained : Option (Option ApplyResult)} :
      server.Raises fault →
      Creates server true (some (.commit, false)) (.broken fault obtained)
  | rejected
      {fault : Fault}
      {applied : ApplyResult} :
      server.Raises fault →
      applied.success = false →
      Creates server false (some (.rollback, true)) (.finished (some applied))
  | stuck
      {fault : Fault}
      {obtained : Option (Option ApplyResult)} :
      server.Raises fault →
      Creates server false (some (.rollback, false)) (.broken fault obtained)
  | brokenOff
      {fault : Fault}
      {obtained : Option (Option ApplyResult)} :
      server.Raises fault →
      Creates server false none (.broken fault obtained)

/-- Unless all went well, the conversation does not lead on. -/
theorem Creates.administersInVain
    {server : Server}
    {statement : Text}
    {succeeded closedWell : Bool}
    {verdict : Option (Verdict × Bool)}
    {ending : Ending (Option ApplyResult)}
    (creates : Creates server succeeded verdict ending)
    (flawed : closedWell = false ∨ ending ≠ .finished none) :
    AdministersInVain statement
      (.held [(statement, succeeded)] verdict closedWell) := by
  cases creates with
  | created =>
      rcases flawed with rfl | other
      · exact .closedBadly
      · exact (other rfl).elim
  | uncommitted _ =>
      exact .uncommitted closedWell
  | rejected _ _ =>
      exact .rejected true closedWell
  | stuck _ =>
      exact .rejected false closedWell
  | brokenOff _ =>
      exact .brokenOff closedWell

theorem createDatabase_cases
    (server : Server)
    (name statement : Text)
    (history : History) :
    ∃ succeeded verdict,
      Creates server succeeded verdict
          (createDatabase server name statement history).ending ∧
        (createDatabase server name statement history).history =
          history ++ sentEvent none (statement, succeeded) ::
            verdict.toList.map (verdictEvent none) := by
  unfold createDatabase
  cases sent : server history (.execute none statement) with
  | none =>
      rw [Server.perform_of_accepted sent]
      dsimp only
      cases committed :
          server
            (history ++ [⟨.execute none statement, true⟩]) (.commit none) with
      | none =>
          rw [settled_of_accepted none [] committed]
          exact ⟨true, some (.commit, true), .created, by
            simp [sentEvent, verdictEvent, Verdict.call]⟩
      | some fault =>
          rw [settled_of_fault none [] committed]
          exact ⟨true, some (.commit, false),
            .uncommitted ⟨_, _, committed⟩, by
              simp [sentEvent, verdictEvent, Verdict.call]⟩
  | some fault =>
      rw [Server.perform_of_fault sent]
      cases fault with
      | unhandled message =>
          exact ⟨false, none, .brokenOff ⟨_, _, sent⟩, rfl⟩
      | driver message =>
          dsimp only
          cases rolledBack :
              server
                (history ++ [⟨.execute none statement, false⟩])
                (.rollback none) with
          | none =>
              rw [Server.perform_of_accepted rolledBack]
              exact ⟨false, some (.rollback, true),
                .rejected ⟨_, _, sent⟩ rfl, by
                  simp [sentEvent, verdictEvent, Verdict.call]⟩
          | some fault =>
              rw [Server.perform_of_fault rolledBack]
              exact ⟨false, some (.rollback, false),
                .stuck ⟨_, _, rolledBack⟩, by
                  simp [sentEvent, verdictEvent, Verdict.call]⟩

/-- How the administrative part of a run ends after a conversation. -/
inductive Administers
    (factory : ConnectionFactory)
    (statement : Text) :
    Conversation → Ending (Option ApplyResult) → Prop where
  | created :
      Administers factory statement (creation statement) (.finished none)
  | inVain
      {conversation : Conversation}
      {ending : Ending (Option ApplyResult)} :
      AdministersInVain statement conversation →
      ending.Fails factory
        (fun value => ∃ applied, value = some applied ∧ applied.success = false) →
      Administers factory statement conversation ending

theorem history_administrate
    (factory : ConnectionFactory)
    (prepared : Prepared) :
    (administrate factory prepared).history =
      (factory.within none []
        (createDatabase factory.server prepared.name
          prepared.database.text)).history := by
  unfold administrate
  dsimp only
  split <;> rfl

/-- A fault that leaves the administrative connection ends the run. -/
theorem fails_of_administrate_broken
    {factory : ConnectionFactory}
    {prepared : Prepared}
    {fault : Fault}
    {obtained : Option (Option ApplyResult)}
    (raised : factory.Raises fault)
    (broken :
      (factory.within none []
        (createDatabase factory.server prepared.name
          prepared.database.text)).ending = .broken fault obtained) :
    (administrate factory prepared).ending.Fails factory
      (fun value => ∃ applied, value = some applied ∧ applied.success = false) := by
  unfold administrate
  dsimp only
  cases fault with
  | driver message =>
      rw [broken]
      exact .reported raised ⟨_, rfl, rfl⟩
  | unhandled message =>
      rw [broken]
      dsimp only
      rw [broken]
      exact .broken raised

theorem ending_administrate_of_finished
    {factory : ConnectionFactory}
    {prepared : Prepared}
    {value : Option ApplyResult}
    (finished :
      (factory.within none []
        (createDatabase factory.server prepared.name
          prepared.database.text)).ending = .finished value) :
    (administrate factory prepared).ending = .finished value := by
  unfold administrate
  dsimp only
  rw [finished]
  exact finished

/-- How the administrative part of a run ends, once creating the database has ended. -/
theorem Creates.administers
    {factory : ConnectionFactory}
    {prepared : Prepared}
    {succeeded : Bool}
    {verdict : Option (Verdict × Bool)}
    {ended : Ending (Option ApplyResult)}
    {closing : Option Fault}
    (creates : Creates factory.server succeeded verdict ended)
    (closingRaised : ∀ fault, closing = some fault → factory.Raises fault)
    (ending :
      (factory.within none []
        (createDatabase factory.server prepared.name
          prepared.database.text)).ending = ended.afterClosing closing) :
    Administers factory prepared.database.text
      (.held [(prepared.database.text, succeeded)] verdict closing.isNone)
      (administrate factory prepared).ending := by
  cases closing with
  | some fault =>
      -- A fault of closing ends the run whatever came before it.
      exact .inVain (creates.administersInVain (.inl rfl))
        (fails_of_administrate_broken (closingRaised fault rfl) ending)
  | none =>
      have inVain (flawed : ended ≠ .finished none) :
          AdministersInVain prepared.database.text
            (.held [(prepared.database.text, succeeded)] verdict true) :=
        creates.administersInVain (.inr flawed)
      cases creates with
      | created =>
          rw [ending_administrate_of_finished ending]
          exact .created
      | uncommitted raised | stuck raised | brokenOff raised =>
          exact .inVain (inVain (by simp))
            (fails_of_administrate_broken (.inl raised) ending)
      | rejected raised failed =>
          rw [ending_administrate_of_finished ending]
          exact .inVain (inVain (by simp))
            (.reported (.inl raised) ⟨_, rfl, failed⟩)

theorem administrate_cases
    (factory : ConnectionFactory)
    (prepared : Prepared) :
    ∃ conversation,
      Administers factory prepared.database.text conversation
          (administrate factory prepared).ending ∧
        (administrate factory prepared).history = conversation.events none := by
  rw [history_administrate]
  rcases factory.within_cases none []
      (createDatabase factory.server prepared.name prepared.database.text) with
    ⟨fault, raised, broken, history⟩ | ⟨closing, closingRaised, ending, history⟩
  · exact ⟨.refused, .inVain .refused (fails_of_administrate_broken raised broken),
      history⟩
  · obtain ⟨succeeded, verdict, creates, made⟩ :=
      createDatabase_cases factory.server prepared.name prepared.database.text
        ([] ++ [⟨.connect none, true⟩])
    refine ⟨_, creates.administers closingRaised ending, ?_⟩
    rw [history, made]
    simp [events, afterOpening, opened]

end TenantSchema.Provision
