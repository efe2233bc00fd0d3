import TenantSchema.Proofs.Applier.Coverage
import TenantSchema.Proofs.Applier.CycleVerdict
import TenantSchema.Proofs.Applier.PassedBlocks

namespace TenantSchema.Applier

open Table

/-!
# The order of tables

Which tables a run creates, and in which order, is decided by the definitions of its document.
The statements between them are run where they stand, but they record no table and nothing is
looked up in them.  So on a server that accepts every statement, the definitions alone are
executed in the same order and come to the same end, a circle included.
-/

/-- The blocks of a document that are of the kind of table definitions. -/
def tableBlocks (blocks : List Block) : List Block :=
  blocks.filter fun block => block.kind == .createTable

theorem kind_beq_of_isDefinition
    (block : Block)
    (definition : Index.isDefinition block = true) :
    (block.kind == .createTable) = true := by
  rw [(kind_of_isDefinition definition).1]
  rfl

theorem tableBlocks_cons_of_kind
    {block : Block}
    {rest : List Block}
    (kind : block.kind = .createTable) :
    tableBlocks (block :: rest) = block :: tableBlocks rest :=
  List.filter_cons_of_pos (by simp [kind])

theorem tableBlocks_cons_of_not
    {block : Block}
    {rest : List Block}
    (kind : block.kind ≠ .createTable) :
    tableBlocks (block :: rest) = tableBlocks rest :=
  List.filter_cons_of_neg (by simp [kind])

theorem filter_isOtherStatement_tableBlocks (blocks : List Block) :
    (tableBlocks blocks).filter isOtherStatement = [] := by
  rw [List.filter_eq_nil_iff]
  intro block member other
  have kind := (List.mem_filter.mp member).2
  exact (kind_of_isOtherStatement other).1 (beq_iff_eq.mp kind)

section

variable
  {index : Index}
  {blocks : List Block}
  {known : List Text}
  {steps : List Step}
  {ending : Option (Block × List Text)}

/--
The definitions of a document alone have a course that creates the same tables and ends in the
same way.  The induction is on the course of the document: what the statements between the
definitions add to it is no table, so the definitions are met with the same ledger.
-/
theorem Course.exists_course_tableBlocks
    (course : Course index blocks known steps ending) :
    ∃ alone,
      Course index (tableBlocks blocks) known alone ending ∧
        createdNames alone = createdNames steps := by
  induction course with
  | finished =>
      exact ⟨[], .finished, rfl⟩
  | @passed block _ _ _ _ isPassed _ inductionHypothesis =>
      by_cases kind : block.kind = .createTable
      · obtain ⟨alone, course, names⟩ := inductionHypothesis
        rw [tableBlocks_cons_of_kind kind]
        exact ⟨alone, .passed isPassed course, names⟩
      · rw [tableBlocks_cons_of_not kind]
        exact inductionHypothesis
  | present definition named present _ inductionHypothesis =>
      obtain ⟨alone, course, names⟩ := inductionHypothesis
      rw [tableBlocks_cons_of_kind (kind_of_isDefinition definition).1]
      exact ⟨_, .present definition named present course, names⟩
  | other other _ inductionHypothesis =>
      rw [tableBlocks_cons_of_not (kind_of_isOtherStatement other).1]
      exact inductionHypothesis
  | created definition named missing resolves _ inductionHypothesis =>
      obtain ⟨alone, course, names⟩ := inductionHypothesis
      rw [tableBlocks_cons_of_kind (kind_of_isDefinition definition).1]
      refine ⟨_, .created definition named missing resolves course, ?_⟩
      rw [createdNames_append, createdNames_append, createdNames_create,
        createdNames_create, names]
  | circular definition named missing resolves =>
      rw [tableBlocks_cons_of_kind (kind_of_isDefinition definition).1]
      exact ⟨_, .circular definition named missing resolves, rfl⟩

/-- The definitions alone are handed over as they are among the other statements. -/
theorem Course.handedOver_tableBlocks
    {alone : List Step}
    {aloneEnding : Option (Block × List Text)}
    (course : Course index blocks [] steps ending)
    (aloneCourse : Course index (tableBlocks blocks) [] alone aloneEnding)
    (indexed : Index.ofBlocks blocks = .ok index)
    (aloneIndexed : Index.ofBlocks (tableBlocks blocks) = .ok index)
    (names : createdNames alone = createdNames steps) :
    handedOver alone = tableBlocks (handedOver steps) := by
  have sameFirst :
      firstDefinition? (tableBlocks blocks) = firstDefinition? blocks :=
    funext fun name => firstDefinition?_filter kind_beq_of_isDefinition blocks name
  obtain ⟨_, statements, _⟩ := aloneCourse.exists_remaining
  rw [filter_isOtherStatement_tableBlocks] at statements
  obtain ⟨noOthers, definitions⟩ :=
    aloneCourse.append_nil.filter_kind_handedOver aloneIndexed
  rw [(List.append_eq_nil_iff.mp statements.symm).1] at noOthers
  have allTables : tableBlocks (handedOver alone) = handedOver alone := by
    rw [tableBlocks, List.filter_eq_self]
    intro block member
    simpa using List.filter_eq_nil_iff.mp noOthers block member
  rw [← allTables, tableBlocks, tableBlocks, definitions,
    (course.append_nil.filter_kind_handedOver indexed).2, names, sameFirst]

end

/-- The index of a document is the index of its definitions. -/
theorem ofBlocks_tableBlocks (blocks : List Block) :
    Index.ofBlocks (tableBlocks blocks) = Index.ofBlocks blocks :=
  Index.addAll_filter kind_beq_of_isDefinition _ blocks

/--
On a server that accepts every statement, the definitions of a document alone end like the
whole document, with the same tables created, and are executed in the same order.  The other
statements that the whole document executes are the first of those it holds, in document
order, and all of them if it succeeds.
-/
theorem table_order_is_independent
    (connection : Connection)
    (history : History)
    (blocks : List Block)
    (accepting :
      ∀ past statement,
        connection.server past (.execute connection.catalog statement) = none) :
    ∃ result alone,
      (run connection history blocks).result = .ok result ∧
        (run connection history (tableBlocks blocks)).result = .ok alone ∧
        alone.failure = result.failure ∧
        alone.createdTables = result.createdTables ∧
        executedStatements (run connection history blocks).history =
          executedStatements history ++
            (executed connection history blocks).map Block.text ∧
        executedStatements (run connection history (tableBlocks blocks)).history =
          executedStatements history ++
            (tableBlocks (executed connection history blocks)).map Block.text ∧
        ∃ remaining,
          blocks.filter isOtherStatement =
              (executed connection history blocks).filter
                (fun block => block.kind != .createTable) ++ remaining ∧
            (result.success = true → remaining = []) := by
  have statements (document : List Block) :=
    executedStatements_run connection history document
  cases indexed : Index.ofBlocks blocks with
  | error block =>
      have aloneIndexed := (ofBlocks_tableBlocks blocks).trans indexed
      obtain ⟨result, noAttempts, _⟩ :=
        run_of_malformed connection history indexed
      obtain ⟨aloneResult, aloneAttempts, _⟩ :=
        run_of_malformed connection history aloneIndexed
      have nothing : executed connection history blocks = [] := by
        rw [executed, noAttempts]
        rfl
      have nothingAlone :
          executed connection history (tableBlocks blocks) = [] := by
        rw [executed, aloneAttempts]
        rfl
      refine ⟨_, _, result, aloneResult, rfl, rfl, statements blocks, ?_, ?_⟩
      · rw [statements, nothing, nothingAlone]
        rfl
      · rw [nothing]
        exact ⟨_, rfl, fun succeeded => by cases succeeded⟩
  | ok index =>
      have aloneIndexed := (ofBlocks_tableBlocks blocks).trans indexed
      obtain ⟨steps, ending, course⟩ := exists_course_of_ofBlocks indexed
      obtain ⟨alone, aloneCourse, names⟩ := course.exists_course_tableBlocks
      obtain ⟨result, covers⟩ :=
        run_of_accepting connection history accepting indexed course
      obtain ⟨aloneResult, aloneCovers⟩ :=
        run_of_accepting connection history accepting aloneIndexed aloneCourse
      refine ⟨_, _, result, aloneResult, rfl, names, statements blocks, ?_, ?_⟩
      · rw [statements, covers, aloneCovers,
          course.handedOver_tableBlocks aloneCourse indexed aloneIndexed names]
      · obtain ⟨remaining, shape, complete⟩ := course.exists_remaining
        rw [covers, (course.append_nil.filter_kind_handedOver indexed).1]
        refine ⟨remaining, shape, fun succeeded => complete ?_⟩
        simpa [ApplyResult.success, finishedResult] using succeeded

namespace Sample

def tags : Block :=
  block .createTable 0 "CREATE TABLE tags (id INT) ENGINE = InnoDB;"

/-- Statements around a table and a circle of references. -/
def circleAmongStatements : List Block :=
  [greeting, tags, greeting, badges, badgedUsers, greeting]

end Sample

/-- A circle is met after the same table with and without the statements around it. -/
theorem circle_is_met_without_statements :
    ∃ result alone,
      (run Sample.accepting [] Sample.circleAmongStatements).result = .ok result ∧
        (run Sample.accepting []
            [Sample.tags, Sample.badges, Sample.badgedUsers]).result = .ok alone ∧
        alone.failure = result.failure ∧
        alone.failure.map Failure.kind = some .cyclicDependency ∧
        alone.createdTables = result.createdTables ∧
        executedStatements
            (run Sample.accepting []
              [Sample.tags, Sample.badges, Sample.badgedUsers]).history =
          [Sample.tags.text] := by
  obtain ⟨result, alone, ran, ranAlone, sameFailure, sameTables, _, statements, _⟩ :=
    table_order_is_independent Sample.accepting [] Sample.circleAmongStatements
      (fun _ _ => rfl)
  have observed :
      (run Sample.accepting [] Sample.circleAmongStatements).result.toOption.map
          (fun result => result.failure.map Failure.kind) =
        some (some .cyclicDependency) ∧
      tableBlocks (executed Sample.accepting [] Sample.circleAmongStatements) =
        [Sample.tags] := by
    decide +kernel
  rw [ran] at observed
  refine ⟨result, alone, ran, ranAlone, sameFailure, ?_, sameTables, ?_⟩
  · rw [sameFailure]
    exact Option.some.inj observed.1
  · exact statements.trans (by rw [observed.2]; rfl)

end TenantSchema.Applier
