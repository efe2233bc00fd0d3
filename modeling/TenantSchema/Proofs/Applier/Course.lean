import TenantSchema.Applier
import TenantSchema.Proofs.Table.CreationOrder
import TenantSchema.Proofs.Table.FirstDefinition
import TenantSchema.Proofs.Table.Performance

namespace TenantSchema.Applier

open Table

/-!
# The course of a document

Which steps applying a document takes is decided by its blocks alone, and so is the circle
that may end it.  The course of a document lists those steps.  Applying the document by an
action that leaves the ledger alone performs the course up to the first step that stops, so
what is said about courses holds of every run, however it ends.
-/

/-- Whether a block holds a statement that is run as it is. -/
def isOtherStatement (block : Block) : Bool :=
  !block.isBlank &&
    (block.kind != .createDatabase && block.kind != .createTable)

/--
The courses of applying `blocks` when the ledger lists `known`: the steps in order, and the
block and the circle that end the work after them, if a circle does.
-/
inductive Course (index : Index) :
    List Block → List Text → List Step →
      Option (Block × List Text) → Prop where
  | finished
      {known : List Text} :
      Course index [] known [] none
  | passed
      {block : Block}
      {rest : List Block}
      {known : List Text}
      {steps : List Step}
      {ending : Option (Block × List Text)} :
      block.kind = .createDatabase ∨ block.isBlank = true →
      Course index rest known steps ending →
      Course index (block :: rest) known steps ending
  | present
      {block : Block}
      {rest : List Block}
      {known : List Text}
      {table : Text}
      {steps : List Step}
      {ending : Option (Block × List Text)} :
      Index.isDefinition block = true →
      nameOf? block = some table →
      table ∈ known →
      Course index rest known steps ending →
      Course index (block :: rest) known
        (.say (.tableSkipped table block.order) :: steps) ending
  | other
      {block : Block}
      {rest : List Block}
      {known : List Text}
      {steps : List Step}
      {ending : Option (Block × List Text)} :
      isOtherStatement block = true →
      Course index rest known steps ending →
      Course index (block :: rest) known (.run block :: steps) ending
  | created
      {block : Block}
      {rest : List Block}
      {known : List Text}
      {table : Text}
      {inner outer : List Step}
      {ending : Option (Block × List Text)} :
      Index.isDefinition block = true →
      nameOf? block = some table →
      table ∉ known →
      Resolves index [table] table (references block.text) known inner none →
      Course index rest (known ++ createdNames inner ++ [table]) outer ending →
      Course index (block :: rest) known
        (inner ++ .create table block :: outer) ending
  | circular
      {block : Block}
      {rest : List Block}
      {known : List Text}
      {table : Text}
      {inner : List Step}
      {circle : List Text} :
      Index.isDefinition block = true →
      nameOf? block = some table →
      table ∉ known →
      Resolves index [table] table (references block.text) known inner
        (some circle) →
      Course index (block :: rest) known inner (some (block, circle))

/-- A block is passed over, defines a table or is run as it is. -/
theorem block_cases (block : Block) :
    (block.kind = .createDatabase ∨ block.isBlank = true) ∨
      Index.isDefinition block = true ∨
      isOtherStatement block = true := by
  unfold Index.isDefinition isOtherStatement
  cases block.isBlank <;> cases block.kind <;> simp

/-- A document whose definitions all have names has a course. -/
theorem exists_course
    (index : Index)
    {blocks : List Block}
    (allNamed : AllNamed blocks)
    (known : List Text) :
    ∃ steps ending, Course index blocks known steps ending := by
  induction blocks generalizing known with
  | nil =>
      exact ⟨[], none, .finished⟩
  | cons block rest inductionHypothesis =>
      have restNamed : AllNamed rest := fun later member =>
        allNamed later (List.mem_cons_of_mem _ member)
      rcases block_cases block with passed | definition | other
      · obtain ⟨steps, ending, course⟩ :=
          inductionHypothesis restNamed known
        exact ⟨steps, ending, .passed passed course⟩
      · obtain ⟨table, named⟩ := allNamed block (by simp) definition
        by_cases present : table ∈ known
        · obtain ⟨steps, ending, course⟩ :=
            inductionHypothesis restNamed known
          exact ⟨_, ending, .present definition named present course⟩
        · obtain ⟨inner, circle, resolves⟩ :=
            exists_resolves index [table] table
              (references block.text) known
          cases circle with
          | some circle =>
              exact ⟨inner, some (block, circle),
                .circular definition named present resolves⟩
          | none =>
              obtain ⟨outer, ending, course⟩ :=
                inductionHypothesis restNamed
                  (known ++ createdNames inner ++ [table])
              exact ⟨_, ending,
                .created definition named present resolves course⟩
      · obtain ⟨steps, ending, course⟩ :=
          inductionHypothesis restNamed known
        exact ⟨_, ending, .other other course⟩

section

variable {Cause World : Type}

theorem kind_of_isDefinition
    {block : Block}
    (definition : Index.isDefinition block = true) :
    block.kind = .createTable ∧
      ¬ (block.kind = .createDatabase ∨ block.isBlank = true) := by
  unfold Index.isDefinition at definition
  cases kind : block.kind <;> simp_all

theorem kind_of_isOtherStatement
    {block : Block}
    (other : isOtherStatement block = true) :
    block.kind ≠ .createTable ∧
      ¬ (block.kind = .createDatabase ∨ block.isBlank = true) := by
  unfold isOtherStatement at other
  cases kind : block.kind <;> simp_all

theorem applyBlock_of_passed
    {index : Index}
    {action : Action Cause World}
    {block : Block}
    {session : Session World}
    (passed : block.kind = .createDatabase ∨ block.isBlank = true) :
    applyBlock index action block session = .done session := by
  rw [applyBlock, if_pos passed]

theorem applyBlock_of_present
    {index : Index}
    {action : Action Cause World}
    {block : Block}
    {table : Text}
    {session : Session World}
    (definition : Index.isDefinition block = true)
    (named : nameOf? block = some table)
    (present : table ∈ session.ledger.names) :
    applyBlock index action block session =
      .done (session.note (.tableSkipped table block.order)) := by
  have kind := kind_of_isDefinition definition
  rw [applyBlock, if_neg kind.2, if_pos kind.1]
  simp only [named, if_pos present]

theorem applyBlock_of_missing
    {index : Index}
    {action : Action Cause World}
    {block : Block}
    {table : Text}
    {session : Session World}
    (definition : Index.isDefinition block = true)
    (named : nameOf? block = some table)
    (missing : table ∉ session.ledger.names) :
    applyBlock index action block session =
      ensureCreated index action block session := by
  have kind := kind_of_isDefinition definition
  rw [applyBlock, if_neg kind.2, if_pos kind.1]
  simp only [named, if_neg missing]

theorem applyBlock_of_other
    {index : Index}
    {action : Action Cause World}
    {block : Block}
    {session : Session World}
    (other : isOtherStatement block = true) :
    applyBlock index action block session =
      performStep action (.run block) session := by
  have kind := kind_of_isOtherStatement other
  rw [applyBlock, if_neg kind.2, if_neg kind.1]
  rfl

/-- Stop with the circle that ends a document, if there is one. -/
def close
    (ending : Option (Block × List Text))
    (session : Session World) :
    Outcome (Halt Cause) World :=
  match ending with
  | none =>
      .done session
  | some (block, circle) =>
      .stopped { block := block, obstacle := .cyclic circle } session

/--
How applying a document comes out of performing its course: all steps are taken and the
ending is reported, or the obstacle that stopped a step is reported with some block.
-/
def Follows
    (applied : Outcome (Halt Cause) World)
    (performed : Outcome (Obstacle Cause) World)
    (ending : Option (Block × List Text)) : Prop :=
  (∃ later,
    performed = .done later ∧ applied = close ending later) ∨
    ∃ block obstacle later,
      performed = .stopped obstacle later ∧
        applied = .stopped { block := block, obstacle := obstacle } later

theorem Follows.session_eq
    {Cause World : Type}
    {applied : Outcome (Halt Cause) World}
    {performed : Outcome (Obstacle Cause) World}
    {ending : Option (Block × List Text)}
    (follows : Follows applied performed ending) :
    applied.session = performed.session := by
  rcases follows with ⟨later, rfl, rfl⟩ | ⟨_, _, later, rfl, rfl⟩
  · rcases ending with _ | ⟨block, circle⟩ <;> rfl
  · rfl

/-- A block that takes some steps, followed by blocks that follow theirs. -/
theorem Follows.cons
    {index : Index}
    {action : Action Cause World}
    {block : Block}
    {rest : List Block}
    {session : Session World}
    {first second : List Step}
    {ending : Option (Block × List Text)}
    (taken :
      applyBlock index action block session =
        perform action first session)
    (continued :
      ∀ later,
        perform action first session = .done later →
        Follows (applyEach index action rest later)
          (perform action second later) ending) :
    Follows (applyEach index action (block :: rest) session)
      (perform action (first ++ second) session) ending := by
  rw [applyEach, taken, perform_append]
  cases performed : perform action first session with
  | done later =>
      exact continued later performed
  | stopped obstacle later =>
      exact .inr ⟨block, obstacle, later, rfl, rfl⟩

/--
Applying a document performs its course.  The induction is on the course; what a block adds
to the ledger is what the rest of the course starts from.
-/
theorem Course.follows
    {index : Index}
    {action : Action Cause World}
    (keepsLedger : KeepsLedger action)
    {blocks : List Block}
    {known : List Text}
    {steps : List Step}
    {ending : Option (Block × List Text)}
    (course : Course index blocks known steps ending)
    (session : Session World)
    (sameLedger : session.ledger.names = known) :
    Follows (applyEach index action blocks session)
      (perform action steps session) ending := by
  induction course generalizing session with
  | finished =>
      exact .inl ⟨session, rfl, rfl⟩
  | passed passed _ inductionHypothesis =>
      rw [applyEach, applyBlock_of_passed passed]
      exact inductionHypothesis session sameLedger
  | present definition named present _ inductionHypothesis =>
      subst sameLedger
      rw [applyEach, applyBlock_of_present definition named present,
        perform_cons]
      exact inductionHypothesis _ rfl
  | @other block rest known steps ending other _ inductionHypothesis =>
      have taken :
          applyBlock index action block session =
            perform action [.run block] session := by
        rw [applyBlock_of_other other, perform_cons]
        cases performStep action (.run block) session <;> rfl
      refine Follows.cons taken ?_
      intro later performed
      apply inductionHypothesis
      rw [ledger_of_perform keepsLedger performed, sameLedger]
      simp
  | created definition named missing resolves _ inductionHypothesis =>
      subst sameLedger
      have taken :
          applyBlock index action _ session =
            ensureCreated index action _ session :=
        applyBlock_of_missing definition named missing
      rw [ensureCreated_of_resolves keepsLedger named missing resolves]
        at taken
      rw [List.append_cons]
      refine Follows.cons taken ?_
      intro later performed
      apply inductionHypothesis
      rw [ledger_of_perform keepsLedger performed]
      simp
  | @circular block rest known table inner circle
      definition named missing resolves =>
      subst sameLedger
      rw [applyEach, applyBlock_of_missing definition named missing,
        ensureCreated_of_circle keepsLedger named missing resolves]
      cases performed : perform action inner session with
      | done later =>
          exact .inl ⟨later, rfl, rfl⟩
      | stopped obstacle later =>
          exact .inr ⟨block, obstacle, later, rfl, rfl⟩

end

end TenantSchema.Applier
