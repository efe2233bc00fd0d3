import TenantSchema.Proofs.Applier.RunCases
import TenantSchema.Proofs.Resolution.Creation

namespace TenantSchema.Table

open Applier

/-!
# Resumption

Creating a table may be interrupted at any of its steps.  The ledger then lists what was
created, and creating the table again takes up the work there: the derivation from a ledger
that the first steps have extended hands over what the remaining steps hand over, and ends in
the same circle, if in any.
-/

/-- Where a list is cut, one of its items is behind the cut or before it. -/
theorem of_append_eq_append_cons
    {Item : Type}
    {first second inner outer : List Item}
    {item : Item}
    (shape : first ++ second = inner ++ item :: outer) :
    (∃ rest, inner = first ++ rest ∧ second = rest ++ item :: outer) ∨
      ∃ earlier, first = inner ++ item :: earlier ∧ outer = earlier ++ second := by
  rcases List.append_eq_append_iff.mp shape with
    ⟨rest, isInner, isSecond⟩ | ⟨beyond, isFirst, isOuter⟩
  · exact .inl ⟨rest, isInner, isSecond⟩
  · cases beyond with
    | nil =>
        exact .inl ⟨[], by simpa using isFirst.symm, isOuter.symm⟩
    | cons found earlier =>
        cases isOuter
        exact .inr ⟨earlier, isFirst, rfl⟩

/-- The first steps of a resolution create no table that is under way. -/
theorem Resolves.not_mem_of_leading
    {index : Index}
    {path names known : List Text}
    {table name : Text}
    {first second steps : List Step}
    {circle : Option (List Text)}
    (resolves : Resolves index path table names known steps circle)
    (shape : first ++ second = steps)
    (underWay : name ∈ path)
    (missing : name ∉ known) :
    name ∉ known ++ createdNames first := by
  rw [List.mem_append, not_or]
  refine ⟨missing, ?_⟩
  intro created
  apply resolves.not_mem_path _ underWay
  rw [← shape, createdNames_append]
  exact List.mem_append_left _ created

/--
After the first steps of a resolution, what is left of it is a resolution: it hands over and
creates what the other steps do, and the same circle ends it.
-/
theorem Resolves.resume
    {index : Index}
    {path names known : List Text}
    {table : Text}
    {first second : List Step}
    {circle : Option (List Text)}
    (resolves : Resolves index path table names known (first ++ second) circle) :
    ∃ again,
      Resolves index path table names (known ++ createdNames first) again circle ∧
        handedOver again = handedOver second ∧
        createdNames again = createdNames second := by
  generalize shape : first ++ second = steps at resolves
  induction resolves generalizing first second with
  | nothing =>
      obtain ⟨rfl, rfl⟩ := List.append_eq_nil_iff.mp shape
      exact ⟨[], .nothing, rfl, rfl⟩
  | present settled _ inductionHypothesis =>
      obtain ⟨again, resolves, handed, created⟩ := inductionHypothesis shape
      exact ⟨again, .present (settled.imp_right (List.mem_append_left _)) resolves,
        handed, created⟩
  | @outside path known rest table reference steps _
      other fresh undefined remaining inductionHypothesis =>
      cases first with
      | nil =>
          subst shape
          exact ⟨_, by simpa using Resolves.outside other fresh undefined remaining, rfl, rfl⟩
      | cons step earlier =>
          injection shape with isSay shape
          subst isSay
          obtain ⟨again, resolves, handed, created⟩ := inductionHypothesis shape
          by_cases isCreated : reference ∈ known ++ createdNames earlier
          · exact ⟨again, .present (.inr isCreated) resolves, handed, created⟩
          · exact ⟨_, .outside other isCreated undefined resolves, handed, created⟩
  | closed other fresh found met =>
      obtain ⟨rfl, rfl⟩ := List.append_eq_nil_iff.mp shape
      exact ⟨[], .closed other (by simpa using fresh) found met, rfl, rfl⟩
  | @descended path known rest table reference definition inner outer circle
      other fresh found unmet entered remaining innerHypothesis outerHypothesis =>
      rcases of_append_eq_append_cons shape with ⟨left, isInner, rfl⟩ | ⟨earlier, rfl, isOuter⟩
      · obtain ⟨again, resolves, handed, created⟩ := innerHypothesis isInner.symm
        have stillFresh := entered.not_mem_of_leading isInner.symm (by simp) fresh
        have onward :
            Resolves index path table rest
              (known ++ createdNames first ++ createdNames again ++ [reference]) outer circle := by
          rw [isInner] at remaining
          simpa [created] using remaining
        exact ⟨_, .descended other stillFresh found unmet resolves onward,
          by simp [handed], by simp [created]⟩
      · obtain ⟨again, resolves, handed, created⟩ := outerHypothesis isOuter.symm
        refine ⟨again, .present (.inr (by simp)) ?_, handed, created⟩
        simpa using resolves
  | @broken path known rest table reference definition inner circle
      other fresh found unmet entered innerHypothesis =>
      obtain ⟨again, resolves, handed, created⟩ := innerHypothesis shape
      have stillFresh := entered.not_mem_of_leading shape (by simp) fresh
      exact ⟨again, .broken other stillFresh found unmet resolves, handed, created⟩

/-- After the first steps of creating a table, what is left of it is a creation again. -/
theorem Creation.resume
    {index : Index}
    {block : Block}
    {known : List Text}
    {first second : List Step}
    {circle : Option (List Text)}
    (creation : Creation index block known (first ++ second) circle) :
    ∃ again,
      Creation index block (known ++ createdNames first) again circle ∧
        handedOver again = handedOver second ∧
        createdNames again = createdNames second := by
  generalize shape : first ++ second = steps at creation
  cases creation with
  | present named present =>
      obtain ⟨rfl, rfl⟩ := List.append_eq_nil_iff.mp shape
      exact ⟨[], .present named (by simpa using present), rfl, rfl⟩
  | @created table _ inner named missing resolves =>
      rcases of_append_eq_append_cons shape with ⟨left, rfl, rfl⟩ | ⟨earlier, rfl, isOuter⟩
      · obtain ⟨again, resumed, handed, created⟩ := resolves.resume
        have stillMissing := resolves.not_mem_of_leading rfl (by simp) missing
        exact ⟨_, .created named stillMissing resumed, by simp [handed], by simp [created]⟩
      · obtain ⟨rfl, rfl⟩ := List.append_eq_nil_iff.mp isOuter.symm
        exact ⟨[], .present named (by simp), rfl, rfl⟩
  | circular named missing resolves =>
      subst shape
      obtain ⟨again, resumed, handed, created⟩ := resolves.resume
      have stillMissing := resolves.not_mem_of_leading rfl (by simp) missing
      exact ⟨again, .circular named stillMissing resumed, handed, created⟩

/--
The calls to create the table of a block that an action interrupts, one after the other: from
the tables listed before them to the blocks that they accepted and the tables listed after.
The action, and the world that it acts on, may differ from call to call.
-/
inductive Interruptions (index : Index) (block : Block) :
    List Text → List Block → List Text → Prop where
  | nothing
      {known : List Text} :
      Interruptions index block known [] known
  | interrupted
      {Cause World : Type}
      {action : Action Cause World}
      {session later : Session World}
      {cause : Cause}
      {rest : List Block}
      {last : List Text} :
      KeepsLedger action →
      ensureCreated index action block session = .stopped (.action cause) later →
      Interruptions index block later.ledger.names rest last →
      Interruptions index block session.ledger.names
        (acceptedBlocks index action block session ++ rest) last

/-- An activity that no action interrupted. -/
def Uninterrupted
    {Cause World : Type}
    (outcome : Outcome (Obstacle Cause) World) : Prop :=
  ∀ cause, outcome.cause? ≠ some (.action cause)

section

variable
  {blocks : List Block}
  {index : Index}
  {block : Block}

/-- A call is uninterrupted if its action never stops. -/
theorem uninterrupted_of_never_stopped
    {Cause World : Type}
    {action : Action Cause World}
    {session : Session World}
    (keepsLedger : KeepsLedger action)
    (neverStops :
      ∀ definition earlier cause later,
        action definition earlier ≠ .stopped cause later) :
    Uninterrupted (ensureCreated index action block session) := by
  intro cause
  cases named : nameOf? block with
  | none =>
      rw [ensureCreated_of_unnamed index action session named]
      simp [Outcome.cause?]
  | some table =>
      obtain ⟨steps, circle, creation⟩ :=
        exists_creation index named session.ledger.names
      rcases creation.cases_of_action keepsLedger with
        ⟨later, ended, _, _⟩ | ⟨_, _, _, _, _, _, _, _, _, stopped, _⟩
      · rw [ended]
        cases circle <;> simp [conclude, Outcome.cause?]
      · exact (neverStops _ _ _ _ stopped).elim

/-- An uninterrupted call accepts what its derivation hands over and ends as it does. -/
theorem Creation.of_uninterrupted
    {Cause World : Type}
    {action : Action Cause World}
    {session : Session World}
    {steps : List Step}
    {circle : Option (List Text)}
    (creation : Creation index block session.ledger.names steps circle)
    (keepsLedger : KeepsLedger action)
    (uninterrupted : Uninterrupted (ensureCreated index action block session)) :
    acceptedBlocks index action block session = handedOver steps ∧
      (ensureCreated index action block session).session.ledger.names =
        session.ledger.names ++ createdNames steps ∧
      (ensureCreated index action block session).cause? = circle.map .cyclic := by
  rcases creation.cases_of_action keepsLedger with
    ⟨later, ended, names, made⟩ | ⟨_, _, _, _, _, cause, _, _, _, _, failed, _⟩
  · refine ⟨?_, ?_, ?_⟩
    · rw [acceptedBlocks, made, map_block_filter_attemptsOf]
    · rw [ended, ← names]
      cases circle <;> rfl
    · rw [ended]
      cases circle <;> rfl
  · rw [failed] at uninterrupted
    exact (uninterrupted cause rfl).elim

/-- An interrupted call accepts what the first steps of its derivation hand over. -/
theorem Creation.of_interrupted
    {Cause World : Type}
    {action : Action Cause World}
    {session later : Session World}
    {cause : Cause}
    {steps : List Step}
    {circle : Option (List Text)}
    (creation : Creation index block session.ledger.names steps circle)
    (keepsLedger : KeepsLedger action)
    (interrupted :
      ensureCreated index action block session = .stopped (.action cause) later) :
    ∃ first second,
      steps = first ++ second ∧
        acceptedBlocks index action block session = handedOver first ∧
        later.ledger.names = session.ledger.names ++ createdNames first := by
  rcases creation.cases_of_action keepsLedger with
    ⟨last, ended, _, _⟩ |
    ⟨before, step, after, _, _, _, last, shape, _, _, failed, names, made⟩
  · rw [ended] at interrupted
    cases circle <;> cases interrupted
  · rw [failed] at interrupted
    cases interrupted
    refine ⟨before, step :: after, shape, ?_, names⟩
    rw [acceptedBlocks, made, List.filter_append, List.map_append,
      map_block_filter_attemptsOf]
    simp

/--
Interrupted calls take the first steps of the derivation between them, and leave the others
to a derivation from the ledger after them.
-/
theorem Interruptions.resume
    {known last : List Text}
    {accepted : List Block}
    {steps : List Step}
    {circle : Option (List Text)}
    (interruptions : Interruptions index block known accepted last)
    (indexed : Index.ofBlocks blocks = .ok index)
    (creation : Creation index block known steps circle) :
    ∃ names again,
      accepted.map nameOf? = names.map some ∧
        last = known ++ names ∧
        Creation index block last again circle ∧
        handedOver steps = accepted ++ handedOver again ∧
        createdNames steps = names ++ createdNames again := by
  induction interruptions generalizing steps with
  | nothing =>
      exact ⟨[], steps, rfl, by simp, creation, rfl, rfl⟩
  | interrupted keepsLedger stopped _ inductionHypothesis =>
      obtain ⟨first, second, rfl, accepted, listed⟩ :=
        creation.of_interrupted keepsLedger stopped
      obtain ⟨middle, resumed, handed, created⟩ := creation.resume
      rw [← listed] at resumed
      obtain ⟨names, again, namesAccepted, rfl, remaining, handedLater, createdLater⟩ :=
        inductionHypothesis resumed
      refine ⟨createdNames first ++ names, again, ?_, ?_, remaining, ?_, ?_⟩
      · rw [accepted, List.map_append, List.map_append, namesAccepted,
          creation.map_nameOf?_handedOver indexed rfl]
      · rw [listed, List.append_assoc]
      · rw [handedOver_append, ← handed, handedLater, accepted, List.append_assoc]
      · rw [createdNames_append, ← created, createdLater, List.append_assoc]

theorem Interruptions.nothing_of_unnamed
    {known last : List Text}
    {accepted : List Block}
    (interruptions : Interruptions index block known accepted last)
    (unnamed : nameOf? block = none) :
    accepted = [] ∧ last = known := by
  cases interruptions with
  | nothing =>
      exact ⟨rfl, rfl⟩
  | interrupted keepsLedger stopped =>
      rw [ensureCreated_of_unnamed index _ _ unnamed] at stopped
      cases stopped

theorem acceptedBlocks_of_unnamed
    {Cause World : Type}
    {action : Action Cause World}
    {session : Session World}
    (unnamed : nameOf? block = none) :
    acceptedBlocks index action block session = [] := by
  rw [acceptedBlocks, attemptsToCreate,
    ensureCreated_of_unnamed index (watched action) _ unnamed]
  rfl

/--
Creating a table can be resumed.  After any number of interrupted calls, the ledger lists what
it listed before them and then the tables of the accepted blocks; a further call that is not
interrupted accepts exactly the blocks that remain of a single one, and ends as that does:
with the same ledger and, if there is one, the same circle.
-/
theorem interrupted_creation_is_resumed
    {known last : List Text}
    {accepted : List Block}
    (indexed : Index.ofBlocks blocks = .ok index)
    (interruptions : Interruptions index block known accepted last) :
    (∃ names,
      accepted.map nameOf? = names.map some ∧ last = known ++ names) ∧
      ∀ (Cause World : Type)
        (action other : Action Cause World)
        (resumed single : Session World),
        KeepsLedger action →
        KeepsLedger other →
        resumed.ledger.names = last →
        single.ledger.names = known →
        Uninterrupted (ensureCreated index action block resumed) →
        Uninterrupted (ensureCreated index other block single) →
        acceptedBlocks index other block single =
            accepted ++ acceptedBlocks index action block resumed ∧
          (ensureCreated index action block resumed).session.ledger.names =
            (ensureCreated index other block single).session.ledger.names ∧
          (ensureCreated index action block resumed).cause? =
            (ensureCreated index other block single).cause? := by
  cases named : nameOf? block with
  | none =>
      obtain ⟨rfl, rfl⟩ := interruptions.nothing_of_unnamed named
      refine ⟨⟨[], rfl, by simp⟩, ?_⟩
      intro Cause World action other resumed single _ _ resumedLists singleLists _ _
      rw [acceptedBlocks_of_unnamed named, acceptedBlocks_of_unnamed named,
        ensureCreated_of_unnamed index action resumed named,
        ensureCreated_of_unnamed index other single named]
      exact ⟨rfl, resumedLists.trans singleLists.symm, rfl⟩
  | some table =>
      obtain ⟨steps, circle, creation⟩ := exists_creation index named known
      obtain ⟨names, again, namesAccepted, rfl, remaining, handed, created⟩ :=
        interruptions.resume indexed creation
      refine ⟨⟨names, namesAccepted, rfl⟩, ?_⟩
      intro Cause World action other resumed single keepsLedger otherKeeps
        resumedLists singleLists uninterrupted singleUninterrupted
      rw [← resumedLists] at remaining
      subst singleLists
      obtain ⟨resumedAccepts, resumedNames, resumedEnds⟩ :=
        remaining.of_uninterrupted keepsLedger uninterrupted
      obtain ⟨singleAccepts, singleNames, singleEnds⟩ :=
        creation.of_uninterrupted otherKeeps singleUninterrupted
      refine ⟨?_, ?_, ?_⟩
      · rw [singleAccepts, resumedAccepts, handed]
      · rw [resumedNames, singleNames, resumedLists, created, List.append_assoc]
      · rw [resumedEnds, singleEnds]

end

end TenantSchema.Table

namespace TenantSchema.Applier

open Table

/-- An action that creates tables as long as there are less than `limit`. -/
def Sample.creatingUpTo (limit : Nat) : Table.Action Unit Unit :=
  fun _ session =>
    if session.ledger.names.length < limit then
      .done session
    else
      .stopped () session

theorem Sample.keepsLedger_creatingUpTo (limit : Nat) :
    KeepsLedger (creatingUpTo limit) := by
  intro block session
  unfold creatingUpTo
  split <;> rfl

/-- A call that stops after `users` and a second one create what a single call creates. -/
theorem posts_are_created_in_two_calls :
    ∃ index later,
      Index.ofBlocks Sample.document = .ok index ∧
        ensureCreated index (Sample.creatingUpTo 1) Sample.posts (.start ()) =
          .stopped (.action ()) later ∧
        acceptedBlocks index Sample.creating Sample.posts (.start ()) =
          Sample.users :: acceptedBlocks index Sample.creating Sample.posts later := by
  obtain ⟨index, indexed⟩ : ∃ index, Index.ofBlocks Sample.document = .ok index :=
    Index.exists_ofBlocks_iff.mpr (by decide +kernel)
  have firstCall :
      (Index.ofBlocks Sample.document).toOption.map
          (fun index =>
            ((ensureCreated index (Sample.creatingUpTo 1) Sample.posts (.start ())).cause?,
              acceptedBlocks index (Sample.creatingUpTo 1) Sample.posts (.start ()))) =
        some (some (.action ()), [Sample.users]) := by
    decide +kernel
  rw [indexed] at firstCall
  obtain ⟨interrupted, accepted⟩ : _ ∧ _ := by
    simpa only [Prod.mk.injEq] using Option.some.inj firstCall
  have stopped := Outcome.eq_stopped_of_cause? interrupted
  have interruptions :=
    Interruptions.interrupted (Sample.keepsLedger_creatingUpTo 1) stopped .nothing
  rw [accepted] at interruptions
  have uninterrupted (session : Session Unit) :
      Uninterrupted (ensureCreated index Sample.creating Sample.posts session) :=
    uninterrupted_of_never_stopped Sample.keepsLedger_creating (by simp [Sample.creating])
  have resumed :=
    (interrupted_creation_is_resumed indexed interruptions).2 Empty Unit
      Sample.creating Sample.creating _ (.start ())
      Sample.keepsLedger_creating Sample.keepsLedger_creating rfl rfl
      (uninterrupted _) (uninterrupted _)
  exact ⟨index, _, indexed, stopped, resumed.1⟩

end TenantSchema.Applier
