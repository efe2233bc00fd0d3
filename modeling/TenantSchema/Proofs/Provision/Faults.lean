import TenantSchema.Proofs.Provision.Conversation
import TenantSchema.Provision

namespace TenantSchema

/-!
# Faults over connections

An activity over a connection can fail to take place, break off, or come to a fault when the
connection is closed after it.  Whatever fault it ends with is the answer to some call.
-/

/-- Whether a fault is the answer of a server to some call. -/
def Server.Raises
    (server : Server)
    (fault : Fault) : Prop :=
  ∃ history call, server history call = some fault

/-- Whether a fault is the answer to some call over connections of the factory. -/
def ConnectionFactory.Raises
    (factory : ConnectionFactory)
    (fault : Fault) : Prop :=
  factory.server.Raises fault ∨ factory.release.Raises fault

section

variable {Value : Type}

theorem Server.perform_of_accepted
    {server : Server}
    {history : History}
    {call : Call}
    (accepted : server history call = none) :
    server.perform history call = (none, history ++ [⟨call, true⟩]) := by
  simp only [Server.perform, accepted]

theorem Server.perform_of_fault
    {server : Server}
    {history : History}
    {call : Call}
    {fault : Fault}
    (answered : server history call = some fault) :
    server.perform history call = (some fault, history ++ [⟨call, false⟩]) := by
  simp only [Server.perform, answered]

theorem Server.leave_of_answer
    (server : Server)
    (history : History)
    (catalog : Option Text) :
    let answer := server (history ++ [⟨.close catalog, true⟩]) (.close catalog)
    server.leave history catalog =
      (answer, history ++ Conversation.closingEvents catalog answer.isNone) := by
  unfold Server.leave
  dsimp only
  cases server (history ++ [⟨.close catalog, true⟩]) (.close catalog) with
  | none =>
      rfl
  | some fault =>
      simp [Conversation.closingEvents]

/-- Nothing is done over a connection that cannot be opened. -/
theorem ConnectionFactory.within_of_refused
    {factory : ConnectionFactory}
    {catalog : Option Text}
    {history : History}
    {fault : Fault}
    (body : History → Activity Value)
    (refused : factory.server history (.connect catalog) = some fault) :
    factory.within catalog history body =
      {
        ending := .broken fault none
        history := history ++ [⟨.connect catalog, false⟩]
        notes := []
      } := by
  rw [within, Server.perform_of_fault refused]

theorem ConnectionFactory.within_of_opened
    {factory : ConnectionFactory}
    {catalog : Option Text}
    {history : History}
    (body : History → Activity Value)
    (opened : factory.server history (.connect catalog) = none) :
    factory.within catalog history body =
      let activity := body (history ++ [⟨.connect catalog, true⟩])
      let answer :=
        factory.closer activity.ending (activity.history ++ [⟨.close catalog, true⟩])
          (.close catalog)
      {
        ending := activity.ending.afterClosing answer
        history := activity.history ++ Conversation.closingEvents catalog answer.isNone
        notes := activity.notes
      } := by
  rw [within, Server.perform_of_accepted opened]
  simp only [Server.leave_of_answer]

/--
An activity over a connection does not take place if the connection cannot be opened.
Otherwise closing the connection may come to a fault of its own, whatever ended the activity.
-/
theorem ConnectionFactory.within_cases
    (factory : ConnectionFactory)
    (catalog : Option Text)
    (history : History)
    (body : History → Activity Value) :
    (∃ fault,
      factory.Raises fault ∧
        (factory.within catalog history body).ending = .broken fault none ∧
        (factory.within catalog history body).history =
          history ++ Conversation.refused.events catalog) ∨
      ∃ closing,
        (∀ fault, closing = some fault → factory.Raises fault) ∧
          (factory.within catalog history body).ending =
            (body (history ++ [⟨.connect catalog, true⟩])).ending.afterClosing
              closing ∧
          (factory.within catalog history body).history =
            (body (history ++ [⟨.connect catalog, true⟩])).history ++
              Conversation.closingEvents catalog closing.isNone := by
  cases answer : factory.server history (.connect catalog) with
  | some fault =>
      rw [factory.within_of_refused body answer]
      exact .inl ⟨fault, .inl ⟨_, _, answer⟩, rfl, rfl⟩
  | none =>
      rw [factory.within_of_opened body answer]
      refine .inr ⟨_, ?_, rfl, rfl⟩
      intro fault isFault
      cases ended : (body (history ++ [⟨.connect catalog, true⟩])).ending with
      | finished value =>
          rw [ended] at isFault
          exact .inl ⟨_, _, isFault⟩
      | broken earlier obtained =>
          rw [ended] at isFault
          exact .inr ⟨_, _, isFault⟩

/--
How an activity ends that a fault kept from its purpose: it reports a failure, or it is broken
off by a fault that is not handled.
-/
inductive Ending.Fails
    (factory : ConnectionFactory)
    (failed : Value → Prop) :
    Ending Value → Prop where
  | reported
      {fault : Fault}
      {value : Value} :
      factory.Raises fault →
      failed value →
      Fails factory failed (.finished value)
  | broken
      {message : String}
      {obtained : Option Value} :
      factory.Raises (.unhandled message) →
      Fails factory failed (.broken (.unhandled message) obtained)

end

namespace Provision

theorem settled_of_accepted
    {Value : Type}
    {server : Server}
    {history : History}
    {call : Call}
    (value : Value)
    (notes : List Note)
    (accepted : server history call = none) :
    settled value notes (server.perform history call) =
      {
        ending := .finished value
        history := history ++ [⟨call, true⟩]
        notes := notes
      } := by
  rw [Server.perform_of_accepted accepted]
  rfl

theorem settled_of_fault
    {Value : Type}
    {server : Server}
    {history : History}
    {call : Call}
    {fault : Fault}
    (value : Value)
    (notes : List Note)
    (answered : server history call = some fault) :
    settled value notes (server.perform history call) =
      {
        ending := .broken fault (some value)
        history := history ++ [⟨call, false⟩]
        notes := notes
      } := by
  rw [Server.perform_of_fault answered]
  rfl

end Provision

end TenantSchema
