import TenantSchema.Proofs.Applier.RunCases

namespace TenantSchema.Applier

open Table

/-!
# A successful run executes everything once

What a successful run executes are the other statements of the document, in document order,
and the first definition of each table, before every statement that follows some definition
of it in the document.
-/

/-- The tables that the blocks define, each once. -/
def tableNames (blocks : List Block) : List Text :=
  distinct (definedNames blocks)

/-- The first definitions of the tables that the blocks define. -/
def firstDefinitions (blocks : List Block) : List Block :=
  (tableNames blocks).filterMap (firstDefinition? blocks)

theorem mem_tableNames_iff
    {blocks : List Block}
    {table : Text} :
    table ∈ tableNames blocks ↔ Defines blocks table := by
  rw [tableNames, mem_distinct_iff, mem_definedNames_iff]

theorem nodup_tableNames (blocks : List Block) :
    (tableNames blocks).Nodup :=
  nodup_distinct _

section

variable
  {index : Index}
  {blocks : List Block}
  {steps : List Step}
  {ending : Option (Block × List Text)}

/--
What is handed over is what is run as it is, in order, together with what is created from
first definitions, in order.
-/
theorem filter_handedOver
    {steps : List Step}
    (origins :
      ∀ step ∈ steps, ∀ block,
        step.block? = some block →
        (step = .run block ∧ isOtherStatement block = true) ∨
          ∃ table,
            step = .create table block ∧
              firstDefinition? blocks table = some block) :
    (handedOver steps).filter (fun block => block.kind != .createTable) =
        ranBlocks steps ∧
      (handedOver steps).filter (fun block => !(block.kind != .createTable)) =
        (createdNames steps).filterMap (firstDefinition? blocks) := by
  induction steps with
  | nil =>
      exact ⟨rfl, rfl⟩
  | cons step rest inductionHypothesis =>
      obtain ⟨ran, created⟩ := inductionHypothesis
        (fun later member => origins later (List.mem_cons_of_mem _ member))
      cases step with
      | say entry =>
          exact ⟨ran, created⟩
      | run block =>
          rcases origins (.run block) (by simp) block rfl with
            ⟨_, other⟩ | ⟨_, impossible, _⟩
          · have kind := (kind_of_isOtherStatement other).1
            simp [kind, ran, created]
          · cases impossible
      | create table block =>
          rcases origins (.create table block) (by simp) block rfl with
            ⟨impossible, _⟩ | ⟨_, same, first⟩
          · cases impossible
          · cases same
            have definition := (of_firstDefinition? first).2.1
            have kind := (kind_of_isDefinition definition).1
            simp [kind, ran, created, first]

/--
The first steps of a course hand over what they run as it is and, as definitions, the first
definitions of the tables that they create.
-/
theorem Course.filter_kind_handedOver
    {leading trailing : List Step}
    (course : Course index blocks [] (leading ++ trailing) ending)
    (indexed : Index.ofBlocks blocks = .ok index) :
    (handedOver leading).filter (fun block => block.kind != .createTable) =
        ranBlocks leading ∧
      (handedOver leading).filter (fun block => block.kind == .createTable) =
        (createdNames leading).filterMap (firstDefinition? blocks) := by
  have origins
      (step : Step)
      (member : step ∈ leading)
      (block : Block)
      (isBlock : step.block? = some block) :=
    course.step_cases indexed (List.mem_append_left trailing member) isBlock
  obtain ⟨others, definitions⟩ := filter_handedOver origins
  simp only [bne, Bool.not_not] at definitions
  exact ⟨others, definitions⟩

/-- The tables that a whole course creates are the tables of the document. -/
theorem createdNames_perm
    (course : Course index blocks [] steps none)
    (indexed : Index.ofBlocks blocks = .ok index) :
    (createdNames steps).Perm (tableNames blocks) := by
  have orderly := course.orderly_of_ofBlocks indexed
  apply (List.perm_ext_iff_of_nodup (orderly.nodup List.nodup_nil)
    (nodup_tableNames blocks)).mpr
  intro table
  rw [mem_tableNames_iff]
  constructor
  · intro created
    obtain ⟨definition, _, first⟩ :=
      course.append_nil.exists_definition_of_mem_createdNames indexed created
    exact firstDefinition?_isSome_iff.mp (by simp [first])
  · intro defined
    exact course.complete defined

/-- Where one of the other statements stands in the course of a document. -/
theorem exists_split_at_other
    {before after : List Block}
    {block : Block}
    (course : Course index (before ++ block :: after) [] steps none)
    (other : isOtherStatement block = true) :
    ∃ first second,
      steps = first ++ .run block :: second ∧
        ranBlocks first = before.filter isOtherStatement ∧
        ∀ table, Defines before table → table ∈ createdNames first := by
  obtain ⟨first, second, rfl, leading, trailing⟩ := course.split
  have created (table : Text) (defined : Defines before table) :
      table ∈ createdNames first :=
    leading.complete defined
  cases trailing with
  | passed passed =>
      exact (not_other_of_passed passed other).elim
  | present definition =>
      exact (not_other_of_isDefinition definition other).elim
  | other _ _ =>
      exact ⟨first, _, rfl, leading.ranBlocks_eq, created⟩
  | created definition =>
      exact (not_other_of_isDefinition definition other).elim

/-- A run that reports success performed a course that no circle ends. -/
theorem of_success
    {connection : Connection}
    {history : History}
    {result : ApplyResult}
    (ran : (run connection history blocks).result = .ok result)
    (succeeded : result.success = true) :
    ∃ index steps,
      Index.ofBlocks blocks = .ok index ∧
        Course index blocks [] steps none ∧
        executed connection history blocks = handedOver steps := by
  cases indexed : Index.ofBlocks blocks with
  | error block =>
      rw [(run_of_malformed connection history indexed).1] at ran
      cases ran
      cases succeeded
  | ok index =>
      obtain ⟨steps, ending, course⟩ := exists_course_of_ofBlocks indexed
      rcases run_cases connection history indexed course with
        ⟨made, finished⟩ |
        ⟨_, _, _, _, fault, _, _, _, _, interrupted⟩
      · rw [finished] at ran
        cases ran
        have noEnding : ending = none := by
          simpa [ApplyResult.success, finishedResult] using succeeded
        subst noEnding
        exact ⟨index, steps, rfl, course, executed_of_attempts made⟩
      · rw [interrupted] at ran
        cases fault with
        | driver message =>
            cases ran
            cases succeeded
        | unhandled message =>
            cases ran

/--
A successful run executes a block that it does not pass over, or in its place an earlier
definition of the same table.
-/
theorem mem_executed_of_success
    {connection : Connection}
    {history : History}
    {result : ApplyResult}
    {before after : List Block}
    {block : Block}
    (ran : (run connection history (before ++ block :: after)).result = .ok result)
    (succeeded : result.success = true)
    (present : ¬ (block.kind = .createDatabase ∨ block.isBlank = true)) :
    block ∈ executed connection history (before ++ block :: after) ∨
      ∃ table,
        nameOf? block = some table ∧
          ∃ definition ∈ before,
            firstDefinition? before table = some definition ∧
              definition ∈ executed connection history (before ++ block :: after) := by
  obtain ⟨index, steps, indexed, course, covers⟩ := of_success ran succeeded
  rw [covers]
  rcases block_cases block with passed | definition | other
  · exact (present passed).elim
  · have allNamed := Index.exists_ofBlocks_iff.mp ⟨index, indexed⟩
    obtain ⟨table, named⟩ := allNamed block (by simp) definition
    have created := course.complete ⟨block, by simp, definition, named⟩
    obtain ⟨first, handed, isFirst⟩ :=
      course.append_nil.exists_definition_of_mem_createdNames indexed created
    rw [firstDefinition?, List.find?_append, ← firstDefinition?, ← firstDefinition?,
      firstDefinition?_cons_of_defines definition named] at isFirst
    cases earlier : firstDefinition? before table with
    | none =>
        rw [earlier] at isFirst
        cases isFirst
        exact .inl handed
    | some definition =>
        rw [earlier] at isFirst
        cases isFirst
        exact .inr
          ⟨table, named, first, (of_firstDefinition? earlier).1, earlier, handed⟩
  · have ran : block ∈ ranBlocks steps := by
      rw [course.ranBlocks_eq]
      exact List.mem_filter.mpr ⟨by simp, other⟩
    obtain ⟨step, member, isRun⟩ := List.mem_filterMap.mp ran
    refine .inl (List.mem_filterMap.mpr ⟨step, member, ?_⟩)
    cases step with
    | run _ =>
        exact isRun
    | say _ | create _ _ =>
        cases isRun

end

/--
What a successful run executes is a permutation of the other statements and the first
definitions of the document.  The other statements keep their order, and when one of them is
executed, the tables defined before it in the document were executed.
-/
theorem successful_run_executes_document_once
    (connection : Connection)
    (history : History)
    (blocks : List Block)
    (result : ApplyResult)
    (ran : (run connection history blocks).result = .ok result)
    (succeeded : result.success = true) :
    executedStatements (run connection history blocks).history =
        executedStatements history ++
          (executed connection history blocks).map Block.text ∧
      ((executed connection history blocks).map Block.text).Perm
        ((blocks.filter isOtherStatement).map Block.text ++
          (firstDefinitions blocks).map Block.text) ∧
      (executed connection history blocks).filter
          (fun block => block.kind != .createTable) =
        blocks.filter isOtherStatement ∧
      ∀ before block after,
        blocks = before ++ block :: after →
        isOtherStatement block = true →
        ∃ earlier later,
          executed connection history blocks = earlier ++ block :: later ∧
            earlier.filter (fun block => block.kind != .createTable) =
              before.filter isOtherStatement ∧
            ∀ table,
              Defines before table →
              ∃ definition ∈ earlier,
                firstDefinition? blocks table = some definition := by
  obtain ⟨index, steps, indexed, course, covers⟩ := of_success ran succeeded
  have origins
      (step : Step)
      (member : step ∈ steps)
      (block : Block)
      (isBlock : step.block? = some block) :=
    course.step_cases indexed member isBlock
  obtain ⟨others, definitions⟩ := filter_handedOver origins
  rw [course.ranBlocks_eq] at others
  refine ⟨executedStatements_run connection history blocks, ?_, ?_, ?_⟩
  · rw [covers, ← List.map_append]
    apply List.Perm.map
    have parts := List.filter_append_perm
      (fun block : Block => block.kind != .createTable) (handedOver steps)
    rw [others, definitions] at parts
    refine parts.symm.trans (List.Perm.append_left _ ?_)
    exact (createdNames_perm course indexed).filterMap _
  · rw [covers, others]
  · intro before block after shape other
    subst shape
    obtain ⟨first, second, rfl, ranFirst, created⟩ :=
      exists_split_at_other course other
    have originsFirst (step : Step) (member : step ∈ first) (block : Block) :=
      origins step (List.mem_append_left _ member) block
    refine ⟨handedOver first, handedOver second, ?_, ?_, ?_⟩
    · rw [covers, handedOver_append, handedOver_run]
    · rw [(filter_handedOver originsFirst).1, ranFirst]
    · intro table defined
      exact course.exists_definition_of_mem_createdNames indexed
        (created table defined)

/-- A document with a hoisted table and a second definition is executed once. -/
theorem sample_document_executed_once :
    (run Sample.accepting [] Sample.document).result =
        .ok {
          failure := none
          createdTables := ["users".toList, "posts".toList]
          executedStatements := 3
        } ∧
      (executed Sample.accepting [] Sample.document).filter
          (fun block => block.kind != .createTable) =
        [Sample.greeting] := by
  have ran :
      (run Sample.accepting [] Sample.document).result =
        .ok {
          failure := none
          createdTables := ["users".toList, "posts".toList]
          executedStatements := 3
        } := by
    with_unfolding_all rfl
  have covered :=
    successful_run_executes_document_once _ _ _ _ ran rfl
  exact ⟨ran, covered.2.2.1⟩

end TenantSchema.Applier
