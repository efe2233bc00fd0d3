import TenantSchema.Server

namespace TenantSchema

/-!
# Conversations over connections

The calls over one connection make a conversation: the connection is opened, statements are
sent, the transaction is ended at most once, and the connection is closed.  The rules of
such conversations are stated for any history, and a history that consists of conversations
over different catalogs keeps them.
-/

namespace Call

/-- The catalog of the connection that a call is made over. -/
def catalog : Call → Option Text
  | .connect catalog | .execute catalog _ | .commit catalog | .rollback catalog |
    .close catalog =>
      catalog

/-- Whether a call opens a connection. -/
def isConnect : Call → Bool
  | .connect _ =>
      true
  | _ =>
      false

/-- The statement that a call sends. -/
def statement? : Call → Option Text
  | .execute _ statement =>
      some statement
  | _ =>
      none

/-- Whether a call commits or rolls back. -/
def endsTransaction : Call → Bool
  | .commit _ | .rollback _ =>
      true
  | _ =>
      false

/-- Whether a call closes a connection. -/
def isClose : Call → Bool
  | .close _ =>
      true
  | _ =>
      false

end Call

/--
Whether a connection is left with an event.  A fault of closing is an event of its own, which
follows the one that leaves the connection.
-/
def Event.leaves (event : Event) : Bool :=
  event.call.isClose && event.succeeded

namespace History

/-- The events over the connection of a catalog. -/
def overCatalog (catalog : Option Text) (history : History) : History :=
  history.filter fun event => event.call.catalog == catalog

/-- The statements that were sent, executed or not, in order. -/
def statements (history : History) : List Text :=
  history.filterMap fun event => event.call.statement?

/-- The attempts to end a transaction. -/
def endings (history : History) : History :=
  history.filter fun event => event.call.endsTransaction

/-- The events up to the next attempt to open a connection. -/
def untilConnect (history : History) : History :=
  history.takeWhile fun event => !event.call.isConnect

/-- Every connection that is opened is left exactly once before any other is asked for. -/
def ClosesConnections (history : History) : Prop :=
  ∀ before catalog after,
    history = before ++ ⟨.connect catalog, true⟩ :: after →
    (untilConnect after).filter Event.leaves = [⟨.close catalog, true⟩]

/-- No statement is sent over a connection whose transaction was to be ended. -/
def ExecutesBeforeEnding (history : History) : Prop :=
  history.Pairwise fun earlier later =>
    earlier.call.endsTransaction = true →
    later.call.catalog = earlier.call.catalog →
    later.call.statement? = none

theorem statements_append
    (first second : History) :
    statements (first ++ second) = statements first ++ statements second :=
  List.filterMap_append

theorem endings_append
    (first second : History) :
    endings (first ++ second) = endings first ++ endings second :=
  List.filter_append first second

end History

/-- How a transaction is ended. -/
inductive Verdict where
  | commit
  | rollback
  deriving Repr, DecidableEq

/-- The call that ends the transaction of a connection. -/
def Verdict.call (catalog : Option Text) : Verdict → Call
  | .commit =>
      .commit catalog
  | .rollback =>
      .rollback catalog

/-- What was called over one connection. -/
inductive Conversation where
  /-- The connection could not be opened. -/
  | refused
  /--
  The statements that were sent, how the transaction was ended if it was, each with its
  success, and whether the connection was closed without a fault.
  -/
  | held
      (statements : List (Text × Bool))
      (verdict : Option (Verdict × Bool))
      (closedWell : Bool)
  deriving Repr, DecidableEq

namespace Conversation

/-- Whether the connection was opened. -/
def opened : Conversation → Bool
  | .refused =>
      false
  | .held _ _ _ =>
      true

/-- The statements that were sent. -/
def statements : Conversation → List Text
  | .refused =>
      []
  | .held sent _ _ =>
      sent.map Prod.fst

/-- The event of sending a statement. -/
def sentEvent (catalog : Option Text) (sent : Text × Bool) : Event :=
  { call := .execute catalog sent.1, succeeded := sent.2 }

/-- The event of ending the transaction. -/
def verdictEvent (catalog : Option Text) (verdict : Verdict × Bool) : Event :=
  { call := verdict.1.call catalog, succeeded := verdict.2 }

/-- The attempt to end the transaction, if there was one. -/
def endings (catalog : Option Text) : Conversation → History
  | .refused =>
      []
  | .held _ verdict _ =>
      verdict.toList.map (verdictEvent catalog)

/-- The events of closing the connection. -/
def closingEvents (catalog : Option Text) (closedWell : Bool) : History :=
  ⟨.close catalog, true⟩ :: if closedWell then [] else [⟨.close catalog, false⟩]

/-- What follows the attempt to open the connection. -/
def afterOpening (catalog : Option Text) : Conversation → History
  | .refused =>
      []
  | .held sent verdict closedWell =>
      sent.map (sentEvent catalog) ++
        (verdict.toList.map (verdictEvent catalog) ++
          closingEvents catalog closedWell)

/-- The events of a conversation. -/
def events (catalog : Option Text) (conversation : Conversation) : History :=
  ⟨.connect catalog, conversation.opened⟩ :: conversation.afterOpening catalog

/-- What may follow the attempt to open a connection. -/
theorem mem_afterOpening
    {catalog : Option Text}
    {conversation : Conversation}
    {event : Event}
    (member : event ∈ conversation.afterOpening catalog) :
    (∃ statement, event.call = .execute catalog statement) ∨
      (∃ verdict : Verdict, event.call = verdict.call catalog) ∨
      event.call = .close catalog := by
  cases conversation with
  | refused =>
      cases member
  | held sent verdict closedWell =>
      simp only [afterOpening, List.mem_append, List.mem_map] at member
      rcases member with
        ⟨sent, _, rfl⟩ | ⟨ended, _, rfl⟩ | closing
      · exact .inl ⟨sent.1, rfl⟩
      · exact .inr (.inl ⟨ended.1, rfl⟩)
      · cases closedWell <;>
          simp only [closingEvents, Bool.false_eq_true, if_true, if_false,
            List.mem_cons, List.not_mem_nil, or_false] at closing
        · rcases closing with rfl | rfl <;> exact .inr (.inr rfl)
        · subst closing
          exact .inr (.inr rfl)

theorem isConnect_of_mem_afterOpening
    {catalog : Option Text}
    {conversation : Conversation}
    {event : Event}
    (member : event ∈ conversation.afterOpening catalog) :
    event.call.isConnect = false := by
  rcases mem_afterOpening member with
    ⟨statement, call⟩ | ⟨verdict, call⟩ | call
  · rw [call]
    rfl
  · rw [call]
    cases verdict <;> rfl
  · rw [call]
    rfl

/-- A conversation stays with the connection of its catalog. -/
theorem catalog_of_mem_events
    {catalog : Option Text}
    {conversation : Conversation}
    {event : Event}
    (member : event ∈ conversation.events catalog) :
    event.call.catalog = catalog := by
  rcases List.mem_cons.mp member with rfl | later
  · rfl
  · rcases mem_afterOpening later with
      ⟨statement, call⟩ | ⟨verdict, call⟩ | call
    · rw [call]
      rfl
    · rw [call]
      cases verdict <;> rfl
    · rw [call]
      rfl

/-- A conversation opens only the connection of its catalog, and tells whether it did. -/
theorem connect_mem_events_iff
    {catalog other : Option Text}
    {conversation : Conversation} :
    ⟨.connect catalog, true⟩ ∈ conversation.events other ↔
      catalog = other ∧ conversation.opened = true := by
  constructor
  · intro member
    rcases List.mem_cons.mp member with isFirst | later
    · injection isFirst with isCall wasOpened
      injection isCall with same
      exact ⟨same, wasOpened.symm⟩
    · cases isConnect_of_mem_afterOpening later
  · rintro ⟨rfl, wasOpened⟩
    rw [events, wasOpened]
    exact List.mem_cons_self

/-- A connection is asked for once in its conversation. -/
theorem filter_connect_events
    (catalog : Option Text)
    (conversation : Conversation) :
    (conversation.events catalog).filter (·.call == .connect catalog) =
      [⟨.connect catalog, conversation.opened⟩] := by
  have noMore :
      (conversation.afterOpening catalog).filter
        (·.call == .connect catalog) = [] := by
    rw [List.filter_eq_nil_iff]
    intro event member isConnect
    have other := isConnect_of_mem_afterOpening member
    rw [beq_iff_eq.mp isConnect] at other
    cases other
  rw [events, List.filter_cons_of_pos (by simp), noMore]

/-- A connection that was opened is left once. -/
theorem leaves_afterOpening
    (catalog : Option Text)
    {conversation : Conversation}
    (opened : conversation.opened = true) :
    (conversation.afterOpening catalog).filter Event.leaves =
      [⟨.close catalog, true⟩] := by
  cases conversation with
  | refused =>
      cases opened
  | held sent verdict closedWell =>
      have noStatement :
          (sent.map (sentEvent catalog)).filter Event.leaves = [] := by
        rw [List.filter_eq_nil_iff]
        intro event member
        obtain ⟨statement, _, rfl⟩ := List.mem_map.mp member
        exact Bool.false_ne_true
      have noVerdict :
          (verdict.toList.map (verdictEvent catalog)).filter Event.leaves = [] := by
        rcases verdict with _ | ⟨_ | _, _⟩ <;> rfl
      have closing :
          (closingEvents catalog closedWell).filter Event.leaves =
            [⟨.close catalog, true⟩] := by
        cases closedWell <;> rfl
      rw [afterOpening, List.filter_append, List.filter_append, noStatement,
        noVerdict, closing]
      rfl

/-- The attempts to end the transaction stand in the events as they were made. -/
theorem endings_events
    (catalog : Option Text)
    (conversation : Conversation) :
    (conversation.events catalog).endings = conversation.endings catalog := by
  cases conversation with
  | refused =>
      rfl
  | held sent verdict closedWell =>
      have noStatement :
          History.endings (sent.map (sentEvent catalog)) = [] := by
        rw [History.endings, List.filter_eq_nil_iff]
        intro event member
        obtain ⟨statement, _, rfl⟩ := List.mem_map.mp member
        exact Bool.false_ne_true
      have ended :
          History.endings (verdict.toList.map (verdictEvent catalog)) =
            verdict.toList.map (verdictEvent catalog) := by
        rcases verdict with _ | ⟨_ | _, _⟩ <;> rfl
      have noClosing :
          History.endings (closingEvents catalog closedWell) = [] := by
        cases closedWell <;> rfl
      calc History.endings (events catalog (.held sent verdict closedWell))
          _ = History.endings (afterOpening catalog (.held sent verdict closedWell)) := rfl
          _ = verdict.toList.map (verdictEvent catalog) := by
            rw [afterOpening, History.endings_append, History.endings_append,
              noStatement, ended, noClosing, List.nil_append, List.append_nil]

theorem length_endings_le_one
    (catalog : Option Text)
    (conversation : Conversation) :
    (conversation.endings catalog).length ≤ 1 := by
  rcases conversation with _ | ⟨_, _ | _, _⟩ <;> simp [endings]

/-- The statements stand in the events as they were sent. -/
theorem statements_events
    (catalog : Option Text)
    (conversation : Conversation) :
    (conversation.events catalog).statements = conversation.statements := by
  cases conversation with
  | refused =>
      rfl
  | held sent verdict closedWell =>
      have statements :
          History.statements (sent.map (sentEvent catalog)) =
            sent.map Prod.fst := by
        rw [History.statements, List.filterMap_map, ← List.filterMap_eq_map]
        rfl
      have noVerdict :
          History.statements (verdict.toList.map (verdictEvent catalog)) = [] := by
        rcases verdict with _ | ⟨_ | _, _⟩ <;> rfl
      have noClosing :
          History.statements (closingEvents catalog closedWell) = [] := by
        cases closedWell <;> rfl
      calc History.statements (events catalog (.held sent verdict closedWell))
          _ = History.statements (afterOpening catalog (.held sent verdict closedWell)) := rfl
          _ = sent.map Prod.fst := by
            rw [afterOpening, History.statements_append, History.statements_append,
              statements, noVerdict, noClosing, List.append_nil, List.append_nil]

/-- Within a conversation no statement follows the end of the transaction. -/
theorem executesBeforeEnding_events
    (catalog : Option Text)
    (conversation : Conversation) :
    History.ExecutesBeforeEnding (conversation.events catalog) := by
  cases conversation with
  | refused =>
      simp [History.ExecutesBeforeEnding, events, afterOpening]
  | held sent verdict closedWell =>
      rw [History.ExecutesBeforeEnding, events, afterOpening,
        List.pairwise_cons, List.pairwise_append]
      refine ⟨?_, ?_, ?_, ?_⟩
      · intro later _ ends
        cases ends
      · -- No statement ends the transaction.
        rw [List.pairwise_map]
        exact List.pairwise_of_forall (fun _ _ ends => by cases ends)
      · rcases verdict with _ | ⟨_ | _, _⟩ <;> cases closedWell <;>
          simp [closingEvents, verdictEvent, Verdict.call, Call.statement?]
      · intro earlier member _ _ ends
        obtain ⟨statement, _, rfl⟩ := List.mem_map.mp member
        cases ends

end Conversation

/-- The history of conversations that are held one after the other, each with its catalog. -/
def eventsOf (conversations : List (Option Text × Conversation)) : History :=
  conversations.flatMap fun (catalog, conversation) => conversation.events catalog

@[simp] theorem eventsOf_nil :
    eventsOf [] = [] :=
  rfl

@[simp] theorem eventsOf_cons
    (catalog : Option Text)
    (conversation : Conversation)
    (rest : List (Option Text × Conversation)) :
    eventsOf ((catalog, conversation) :: rest) =
      conversation.events catalog ++ eventsOf rest :=
  rfl

/-- Every event is over the connection of one of the conversations. -/
theorem catalog_of_mem_eventsOf
    {conversations : List (Option Text × Conversation)}
    {event : Event}
    (member : event ∈ eventsOf conversations) :
    event.call.catalog ∈ conversations.map Prod.fst := by
  obtain ⟨⟨catalog, conversation⟩, held, inside⟩ := List.mem_flatMap.mp member
  rw [Conversation.catalog_of_mem_events inside]
  exact List.mem_map_of_mem held

/-- The next attempt to open a connection begins the next conversation. -/
theorem untilConnect_afterOpening_append
    (catalog : Option Text)
    (conversation : Conversation)
    (rest : List (Option Text × Conversation)) :
    History.untilConnect (conversation.afterOpening catalog ++ eventsOf rest) =
      conversation.afterOpening catalog := by
  have noConnect
      (event : Event)
      (member : event ∈ conversation.afterOpening catalog) :
      (!event.call.isConnect) = true := by
    rw [Conversation.isConnect_of_mem_afterOpening member]
    rfl
  rw [History.untilConnect, List.takeWhile_append_of_pos noConnect]
  rcases rest with _ | ⟨⟨next, other⟩, others⟩
  · simp
  · simp [Conversation.events, Call.isConnect]

/-- Conversations that are held one after the other close their connections. -/
theorem closesConnections_eventsOf
    (conversations : List (Option Text × Conversation)) :
    (eventsOf conversations).ClosesConnections := by
  intro before catalog after shape
  induction conversations generalizing before with
  | nil =>
      simp at shape
  | cons first rest inductionHypothesis =>
      obtain ⟨other, conversation⟩ := first
      rw [eventsOf_cons, Conversation.events, List.cons_append] at shape
      rcases before with _ | ⟨earliest, before⟩
      · -- The connection that is opened is that of the first conversation.
        injection shape with isConnect isAfter
        injection isConnect with isCall wasOpened
        injection isCall with sameCatalog
        subst sameCatalog isAfter
        rw [untilConnect_afterOpening_append]
        exact Conversation.leaves_afterOpening other wasOpened
      · -- It is opened later, and not within the first conversation.
        injection shape with _ remaining
        rcases List.append_eq_append_iff.mp remaining with
          ⟨between, _, later⟩ | ⟨between, within, later⟩
        · exact inductionHypothesis between later
        · rcases between with _ | ⟨connect, between⟩
          · exact inductionHypothesis [] later.symm
          · injection later with isConnect _
            have member :
                connect ∈ conversation.afterOpening other := by
              rw [within]
              simp
            have noConnect :=
              Conversation.isConnect_of_mem_afterOpening member
            rw [← isConnect] at noConnect
            cases noConnect

section

variable
  {conversations : List (Option Text × Conversation)}
  {catalog : Option Text}

theorem overCatalog_events
    (catalog : Option Text)
    (conversation : Conversation) :
    (conversation.events catalog).overCatalog catalog = conversation.events catalog := by
  rw [History.overCatalog, List.filter_eq_self]
  intro event member
  rw [Conversation.catalog_of_mem_events member]
  exact beq_self_eq_true catalog

theorem overCatalog_events_of_ne
    {other : Option Text}
    (different : other ≠ catalog)
    (conversation : Conversation) :
    (conversation.events other).overCatalog catalog = [] := by
  rw [History.overCatalog, List.filter_eq_nil_iff]
  intro event member
  rw [Conversation.catalog_of_mem_events member, beq_iff_eq]
  exact different

theorem overCatalog_eventsOf_of_not_mem
    (absent : catalog ∉ conversations.map Prod.fst) :
    (eventsOf conversations).overCatalog catalog = [] := by
  rw [History.overCatalog, List.filter_eq_nil_iff]
  intro event member
  rw [beq_iff_eq]
  rintro rfl
  exact absent (catalog_of_mem_eventsOf member)

/-- The events over a connection are those of its conversation. -/
theorem overCatalog_eventsOf
    (distinct : (conversations.map Prod.fst).Nodup)
    {conversation : Conversation}
    (held : (catalog, conversation) ∈ conversations) :
    (eventsOf conversations).overCatalog catalog = conversation.events catalog := by
  induction conversations with
  | nil =>
      cases held
  | cons first rest inductionHypothesis =>
      obtain ⟨other, otherConversation⟩ := first
      rw [List.map_cons, List.nodup_cons] at distinct
      rw [eventsOf_cons, History.overCatalog, List.filter_append]
      rcases List.mem_cons.mp held with isFirst | later
      · cases isFirst
        have noMore : (eventsOf rest).overCatalog catalog = [] :=
          overCatalog_eventsOf_of_not_mem distinct.1
        have itself := overCatalog_events catalog conversation
        rw [History.overCatalog] at noMore itself
        rw [noMore, itself, List.append_nil]
      · have different : other ≠ catalog := by
          rintro rfl
          exact distinct.1 (List.mem_map.mpr ⟨_, later, rfl⟩)
        have nothing := overCatalog_events_of_ne different otherConversation
        rw [History.overCatalog] at nothing
        rw [nothing, List.nil_append]
        exact inductionHypothesis distinct.2 later

theorem connect_mem_eventsOf_iff
    (distinct : (conversations.map Prod.fst).Nodup)
    {conversation : Conversation}
    (held : (catalog, conversation) ∈ conversations) :
    ⟨.connect catalog, true⟩ ∈ eventsOf conversations ↔
      conversation.opened = true := by
  have among :
      ⟨.connect catalog, true⟩ ∈ (eventsOf conversations).overCatalog catalog ↔
        ⟨.connect catalog, true⟩ ∈ eventsOf conversations := by
    simp [History.overCatalog, Call.catalog]
  rw [← among, overCatalog_eventsOf distinct held, Conversation.connect_mem_events_iff]
  simp

/-- The statements over a connection are those of its conversation, if it was opened. -/
theorem statements_overCatalog_eventsOf
    (distinct : (conversations.map Prod.fst).Nodup)
    {conversation : Conversation}
    (held : (catalog, conversation) ∈ conversations)
    {sent : List Text}
    (said :
      conversation.statements = if conversation.opened then sent else []) :
    ((eventsOf conversations).overCatalog catalog).statements =
      if ⟨.connect catalog, true⟩ ∈ eventsOf conversations then sent else [] := by
  rw [overCatalog_eventsOf distinct held, Conversation.statements_events, said]
  simp only [connect_mem_eventsOf_iff distinct held]

/-- Each connection is asked for at most once if the catalogs differ. -/
theorem length_connects_eventsOf_le_one
    (distinct : (conversations.map Prod.fst).Nodup)
    (catalog : Option Text) :
    ((eventsOf conversations).filter (·.call == .connect catalog)).length ≤ 1 := by
  have among :
      (eventsOf conversations).filter (·.call == .connect catalog) =
        ((eventsOf conversations).overCatalog catalog).filter
          (·.call == .connect catalog) := by
    rw [History.overCatalog, List.filter_filter]
    apply List.filter_congr
    intro event _
    cases isConnect : event.call == .connect catalog with
    | false =>
        simp
    | true =>
        simp [beq_iff_eq.mp isConnect, Call.catalog]
  rw [among]
  by_cases held : catalog ∈ conversations.map Prod.fst
  · obtain ⟨⟨other, conversation⟩, member, rfl⟩ := List.mem_map.mp held
    rw [overCatalog_eventsOf distinct member, Conversation.filter_connect_events]
    exact Nat.le_refl 1
  · rw [overCatalog_eventsOf_of_not_mem held]
    exact Nat.zero_le 1

/-- Each transaction is ended at most once if the catalogs differ. -/
theorem length_endings_overCatalog_eventsOf_le_one
    (distinct : (conversations.map Prod.fst).Nodup)
    (catalog : Option Text) :
    ((eventsOf conversations).overCatalog catalog).endings.length ≤ 1 := by
  by_cases held : catalog ∈ conversations.map Prod.fst
  · obtain ⟨⟨other, conversation⟩, member, rfl⟩ := List.mem_map.mp held
    rw [overCatalog_eventsOf distinct member, Conversation.endings_events]
    exact conversation.length_endings_le_one other
  · rw [overCatalog_eventsOf_of_not_mem held]
    exact Nat.zero_le 1

/-- No statement follows the end of its transaction if the catalogs differ. -/
theorem executesBeforeEnding_eventsOf
    (distinct : (conversations.map Prod.fst).Nodup) :
    (eventsOf conversations).ExecutesBeforeEnding := by
  rw [History.ExecutesBeforeEnding, eventsOf, List.pairwise_flatMap]
  constructor
  · rintro ⟨catalog, conversation⟩ _
    exact conversation.executesBeforeEnding_events catalog
  · rw [List.Nodup, List.pairwise_map] at distinct
    apply distinct.imp
    intro first second different earlier earlierMember later laterMember _ same
    rw [Conversation.catalog_of_mem_events earlierMember,
      Conversation.catalog_of_mem_events laterMember] at same
    exact (different same.symm).elim

end

end TenantSchema
