import TenantSchema.Proofs.Applier.Accounting
import TenantSchema.Proofs.Applier.CycleVerdict
import TenantSchema.Proofs.Applier.Interruption

namespace TenantSchema.Applier

open Table

/-!
# Documents in the order of their references

A document whose tables come after the tables they refer to is executed as it stands; only
blocks that a run skips are left out.  What a successful run executes is such a document, and
one with nothing to skip, so a run over it executes the same again.
-/

/--
Among `blocks`, of which `before` come first, the next one refers only to tables defined
before it, if it is the first definition of a table.  The table itself does not count, nor do
tables that the blocks do not define.
-/
def FollowsReferences
    (blocks before : List Block)
    (block : Block) : Prop :=
  ∀ table,
    nameOf? block = some table →
    ¬ Defines before table →
    ∀ reference ∈ references block.text,
      reference ≠ table →
      Defines blocks reference →
      Defines before reference

/-- Every table of a document is defined after the tables that it refers to. -/
def ReferencesFirst (blocks : List Block) : Prop :=
  ∀ before block after,
    blocks = before ++ block :: after →
    Index.isDefinition block = true →
    FollowsReferences blocks before block

/-- Whether a run skips a block that comes after the blocks `before`. -/
def isSkipped (before : List Block) (block : Block) : Bool :=
  block.kind == .createDatabase || block.isBlank ||
    (block.kind == .createTable &&
      (nameOf? block).any (· ∈ definedNames before))

/-- The blocks that a run does not skip when they come after the blocks `before`. -/
def unskippedAfter : List Block → List Block → List Block
  | _, [] =>
      []
  | before, block :: rest =>
      if isSkipped before block then
        unskippedAfter (before ++ [block]) rest
      else
        block :: unskippedAfter (before ++ [block]) rest

/--
The blocks of a document in their order, without those that create the database, those that
are blank and those that define a table again.
-/
def unskipped (blocks : List Block) : List Block :=
  unskippedAfter [] blocks

instance (blocks : List Block) (name : Text) : Decidable (Defines blocks name) :=
  decidable_of_iff _ mem_definedNames_iff

instance (blocks before : List Block) (block : Block) :
    Decidable (FollowsReferences blocks before block) :=
  decidable_of_iff
    (∀ table ∈ (nameOf? block).toList,
      ¬ Defines before table →
      ∀ reference ∈ references block.text,
        reference ≠ table →
        Defines blocks reference →
        Defines before reference)
    (by simp only [Option.mem_toList, FollowsReferences])

theorem referencesFirst_iff
    {blocks : List Block} :
    (∀ position < blocks.length,
      ∀ block ∈ blocks[position]?.toList,
        Index.isDefinition block = true →
        FollowsReferences blocks (blocks.take position) block) ↔
      ReferencesFirst blocks := by
  simp only [Option.mem_toList]
  constructor
  · intro ordered before block after shape
    have atPosition := ordered before.length (by simp [shape]) block
    rw [shape, List.take_left, List.getElem?_append_right (Nat.le_refl _)]
      at atPosition
    rw [shape]
    exact atPosition (by simp)
  · intro ordered position inside block isBlock
    apply ordered (blocks.take position) block (blocks.drop (position + 1))
    obtain ⟨_, rfl⟩ := List.getElem?_eq_some_iff.mp isBlock
    rw [List.getElem_cons_drop, List.take_append_drop]

instance (blocks : List Block) : Decidable (ReferencesFirst blocks) :=
  decidable_of_iff _ referencesFirst_iff

theorem isSkipped_of_passed
    {before : List Block}
    {block : Block}
    (passed : block.kind = .createDatabase ∨ block.isBlank = true) :
    isSkipped before block = true := by
  rcases passed with creates | blank
  · simp [isSkipped, creates]
  · simp [isSkipped, blank]

theorem isSkipped_of_other
    {before : List Block}
    {block : Block}
    (other : isOtherStatement block = true) :
    isSkipped before block = false := by
  obtain ⟨noTable, present⟩ := kind_of_isOtherStatement other
  simp only [not_or] at present
  simp [isSkipped, noTable, present]

theorem isSkipped_iff_of_isDefinition
    {before : List Block}
    {block : Block}
    {table : Text}
    (definition : Index.isDefinition block = true)
    (named : nameOf? block = some table) :
    isSkipped before block = true ↔ Defines before table := by
  obtain ⟨kind, present⟩ := kind_of_isDefinition definition
  simp only [not_or] at present
  simp [isSkipped, kind, present, named, mem_definedNames_iff]

theorem defines_concat_iff
    {before : List Block}
    {block : Block}
    {name : Text} :
    Defines (before ++ [block]) name ↔
      Defines before name ∨
        Index.isDefinition block = true ∧ nameOf? block = some name := by
  simp only [Defines, List.mem_append, List.mem_singleton, or_and_right, exists_or,
    exists_eq_left]

/-- Blocks of which none is skipped are unskipped all together. -/
theorem unskippedAfter_eq_self
    {blocks passed rest : List Block}
    (noneSkipped :
      ∀ before block after,
        blocks = before ++ block :: after →
        isSkipped before block = false)
    (split : blocks = passed ++ rest) :
    unskippedAfter passed rest = rest := by
  induction rest generalizing passed with
  | nil =>
      rfl
  | cons block rest inductionHypothesis =>
      have present := noneSkipped passed block rest split
      rw [unskippedAfter, present, inductionHypothesis (by simp [split])]
      rfl

/-- No reference is missing when a document in this order comes to a definition. -/
theorem ReferencesFirst.settled
    {index : Index}
    {blocks passed rest : List Block}
    {block : Block}
    {table : Text}
    {known : List Text}
    (ordered : ReferencesFirst blocks)
    (indexed : Index.ofBlocks blocks = .ok index)
    (split : blocks = passed ++ block :: rest)
    (listed : ∀ name, name ∈ known ↔ Defines passed name)
    (definition : Index.isDefinition block = true)
    (named : nameOf? block = some table)
    (missing : table ∉ known) :
    ∀ reference ∈ references block.text,
      reference ≠ table →
      reference ∈ index.names →
      reference ∈ known := by
  intro reference referred other inIndex
  have isNew : ¬ Defines passed table :=
    fun defined => missing ((listed table).mpr defined)
  apply (listed reference).mpr
  exact ordered passed block rest split definition table named isNew
    reference referred other ((Index.mem_names_iff_defines indexed).mp inIndex)

/--
The course of a document in the order of its references hands over the blocks that it does
not skip, one after the other.  The induction is on the course of the blocks after `passed`;
the tables that the ledger lists then are those defined in `passed`.
-/
theorem Course.handedOver_of_referencesFirst
    {index : Index}
    {blocks passed rest : List Block}
    {known : List Text}
    {steps : List Step}
    {ending : Option (Block × List Text)}
    (course : Course index rest known steps ending)
    (indexed : Index.ofBlocks blocks = .ok index)
    (ordered : ReferencesFirst blocks)
    (split : blocks = passed ++ rest)
    (listed : ∀ name, name ∈ known ↔ Defines passed name) :
    ending = none ∧ handedOver steps = unskippedAfter passed rest := by
  induction course generalizing passed with
  | finished =>
      exact ⟨rfl, rfl⟩
  | @passed block rest known _ _ isPassed _ inductionHypothesis =>
      rw [unskippedAfter, if_pos (isSkipped_of_passed isPassed)]
      apply inductionHypothesis (by simp [split])
      intro name
      simp [defines_concat_iff, listed, not_isDefinition_of_passed isPassed]
  | @present block rest known table _ _ definition named present _
      inductionHypothesis =>
      have skipped : isSkipped passed block = true :=
        (isSkipped_iff_of_isDefinition definition named).mpr
          ((listed table).mp present)
      rw [unskippedAfter, if_pos skipped, handedOver_say]
      apply inductionHypothesis (by simp [split])
      intro name
      rw [defines_concat_iff, listed, named]
      constructor
      · exact .inl
      · rintro (defined | ⟨_, same⟩)
        · exact defined
        · cases same
          exact (listed table).mp present
  | @other block rest known _ _ other _ inductionHypothesis =>
      have listedNext (name : Text) :
          name ∈ known ↔ Defines (passed ++ [block]) name := by
        simp [defines_concat_iff, listed, not_isDefinition_of_other other]
      obtain ⟨whole, handed⟩ := inductionHypothesis (by simp [split]) listedNext
      refine ⟨whole, ?_⟩
      rw [unskippedAfter, isSkipped_of_other other, handedOver_run, handed]
      rfl
  | @created block rest known table inner outer _ definition named missing resolves _
      inductionHypothesis =>
      obtain ⟨_, nothingCreated, nothingHanded⟩ :=
        resolves.of_settled
          (ordered.settled indexed split listed definition named missing)
      have listedNext (name : Text) :
          name ∈ known ++ createdNames inner ++ [table] ↔
            Defines (passed ++ [block]) name := by
        simp [nothingCreated, defines_concat_iff, listed, definition, named,
          eq_comm]
      obtain ⟨whole, handed⟩ := inductionHypothesis (by simp [split]) listedNext
      have present : ¬ isSkipped passed block = true := by
        rw [isSkipped_iff_of_isDefinition definition named, ← listed]
        exact missing
      refine ⟨whole, ?_⟩
      rw [handedOver_append, nothingHanded, handedOver_create, handed,
        unskippedAfter, if_neg present]
      rfl
  | circular definition named missing resolves =>
      obtain ⟨noCircle, _⟩ :=
        resolves.of_settled
          (ordered.settled indexed split listed definition named missing)
      cases noCircle

section

variable
  {index : Index}
  {blocks : List Block}
  {leading trailing steps : List Step}
  {ending : Option (Block × List Text)}

/-- The first steps of a course hand over definitions of the tables that they create. -/
theorem Course.defines_handedOver_iff
    (course : Course index blocks [] (leading ++ trailing) ending)
    (indexed : Index.ofBlocks blocks = .ok index)
    {name : Text} :
    Defines (handedOver leading) name ↔ name ∈ createdNames leading := by
  constructor
  · rintro ⟨definer, handed, definition, named⟩
    exact course.mem_createdNames_of_handedOver indexed handed
      (kind_of_isDefinition definition).1 named
  · intro created
    obtain ⟨definer, handed, first⟩ :=
      course.exists_definition_of_mem_createdNames indexed created
    exact ⟨definer, handed, (of_firstDefinition? first).2⟩

/--
A block that a course hands over is one of the other statements, or it defines a table: one
that is not defined by what is handed over before it, as each table is that it refers to.
-/
theorem Course.handedOver_cases
    (course : Course index blocks [] steps ending)
    (indexed : Index.ofBlocks blocks = .ok index)
    {before after : List Block}
    {block : Block}
    (shape : handedOver steps = before ++ block :: after) :
    isOtherStatement block = true ∨
      Index.isDefinition block = true ∧
        ∃ table,
          nameOf? block = some table ∧
            ¬ Defines before table ∧
            ∀ reference ∈ references block.text,
              reference ≠ table →
              reference ∈ index.names →
              Defines before reference := by
  obtain ⟨leading, step, trailing, rfl, isBlock, rfl⟩ :=
    exists_step_of_handedOver shape
  rcases course.step_cases indexed (by simp) isBlock with
    ⟨_, other⟩ | ⟨table, rfl, first⟩
  · exact .inl other
  · obtain ⟨_, definition, named⟩ := of_firstDefinition? first
    refine .inr ⟨definition, table, named, ?_⟩
    simp only [course.defines_handedOver_iff indexed]
    cases (course.orderly_of_ofBlocks indexed).drop with
    | create fresh _ earlier =>
        exact ⟨fresh, earlier⟩

/-- What a course hands over is in the order of its references. -/
theorem Course.referencesFirst_handedOver
    (course : Course index blocks [] steps ending)
    (indexed : Index.ofBlocks blocks = .ok index) :
    ReferencesFirst (handedOver steps) := by
  intro before block after shape definition table named _
    reference referred other defined
  rcases course.handedOver_cases indexed shape with
    isOther | ⟨_, name, sameName, _, earlier⟩
  · exact (not_other_of_isDefinition definition isOther).elim
  · rw [named] at sameName
    cases sameName
    obtain ⟨definer, member⟩ :=
      exists_create_of_mem_createdNames
        ((course.append_nil.defines_handedOver_iff indexed).mp defined)
    have inIndex :=
      Index.mem_names_of_find?
        ((course.orderly_of_ofBlocks indexed).find?_of_mem member)
    exact earlier reference referred other inIndex

/-- Nothing that a course hands over is skipped where it stands. -/
theorem Course.isSkipped_handedOver
    (course : Course index blocks [] steps ending)
    (indexed : Index.ofBlocks blocks = .ok index)
    {before after : List Block}
    {block : Block}
    (shape : handedOver steps = before ++ block :: after) :
    isSkipped before block = false := by
  rcases course.handedOver_cases indexed shape with
    other | ⟨definition, table, named, isNew, _⟩
  · exact isSkipped_of_other other
  · rw [Bool.eq_false_iff, ne_eq, isSkipped_iff_of_isDefinition definition named]
    exact isNew

theorem Course.allNamed_handedOver
    (course : Course index blocks [] steps ending)
    (indexed : Index.ofBlocks blocks = .ok index) :
    AllNamed (handedOver steps) := by
  intro block handed definition
  obtain ⟨before, after, shape⟩ := List.append_of_mem handed
  rcases course.handedOver_cases indexed shape with
    isOther | ⟨_, table, named, _⟩
  · exact (not_other_of_isDefinition definition isOther).elim
  · exact ⟨table, named⟩

end

/-- A run over a document in the order of its references executes what it does not skip. -/
theorem run_of_referencesFirst
    {connection : Connection}
    {blocks : List Block}
    (history : History)
    (accepting :
      ∀ past statement,
        connection.server past (.execute connection.catalog statement) = none)
    (allNamed : AllNamed blocks)
    (ordered : ReferencesFirst blocks) :
    ∃ index steps,
      Index.ofBlocks blocks = .ok index ∧
        Course index blocks [] steps none ∧
        handedOver steps = unskipped blocks ∧
        (run connection history blocks).result =
          .ok (finishedResult steps none) ∧
        executed connection history blocks = handedOver steps := by
  obtain ⟨index, indexed⟩ := Index.exists_ofBlocks_iff.mpr allNamed
  obtain ⟨steps, ending, course⟩ := exists_course_of_ofBlocks indexed
  obtain ⟨rfl, handed⟩ :=
    course.handedOver_of_referencesFirst indexed ordered
      (List.nil_append blocks).symm (by simp [Defines])
  exact ⟨index, steps, indexed, course, handed,
    run_of_accepting connection history accepting indexed course⟩

/--
What a successful run executed is executed in the same order by a run over it, if the server
accepts every statement, and that run comes to the same result.  Moreover such a run executes
a document whose tables follow their references in document order, but for what it skips.
-/
theorem run_over_executed_repeats
    (connection again : Connection)
    (history past : History)
    (blocks : List Block)
    (accepting :
      ∀ past statement,
        again.server past (.execute again.catalog statement) = none) :
    (∀ result,
      (run connection history blocks).result = .ok result →
      result.success = true →
      (run again past (executed connection history blocks)).result =
          .ok result ∧
        executed again past (executed connection history blocks) =
          executed connection history blocks ∧
        executedStatements
            (run again past (executed connection history blocks)).history =
          executedStatements past ++
            (executed connection history blocks).map Block.text) ∧
      (AllNamed blocks →
        ReferencesFirst blocks →
        ∃ result,
          (run again past blocks).result = .ok result ∧
            result.success = true ∧
            executed again past blocks = unskipped blocks) := by
  constructor
  · intro result ran succeeded
    obtain ⟨index, steps, indexed, course, covers⟩ := of_success ran succeeded
    obtain ⟨rehearsed, _⟩ := rehearse_of_course indexed course
    have isResult : result = finishedResult steps none :=
      Except.ok.inj ((agrees_of_success ran succeeded).2.symm.trans rehearsed)
    obtain ⟨indexAgain, stepsAgain, indexedAgain, courseAgain, handed, ranAgain,
        coversAgain⟩ :=
      run_of_referencesFirst past accepting
        (course.allNamed_handedOver indexed)
        (course.referencesFirst_handedOver indexed)
    have sameBlocks : handedOver stepsAgain = handedOver steps := by
      rw [handed]
      exact unskippedAfter_eq_self
        (fun _ _ _ shape => course.isSkipped_handedOver indexed shape) rfl
    have names := course.append_nil.names_of_definitions indexed
    have namesAgain := courseAgain.append_nil.names_of_definitions indexedAgain
    rw [sameBlocks] at namesAgain
    have sameTables : createdNames stepsAgain = createdNames steps :=
      (List.map_inj_right fun _ _ => Option.some.inj).mp
        (namesAgain.symm.trans names)
    rw [covers, isResult]
    refine ⟨?_, ?_, ?_⟩
    · rw [ranAgain, finishedResult, finishedResult, sameTables, sameBlocks]
    · rw [coversAgain, sameBlocks]
    · rw [executedStatements_run, coversAgain, sameBlocks]
  · intro allNamed ordered
    obtain ⟨index, steps, indexed, course, handed, ran, covers⟩ :=
      run_of_referencesFirst past accepting allNamed ordered
    exact ⟨_, ran, rfl, covers.trans handed⟩

/-- A document with a table that is defined twice, in the order of its references. -/
def Sample.orderedDocument : List Block :=
  [Sample.database, Sample.users, Sample.greeting, Sample.posts, Sample.usersAgain]

/-- A hoisted table stays where it is; without hoisting the document order is kept. -/
theorem sample_executions_are_repeated :
    executed Sample.accepting [] Sample.document =
        [Sample.users, Sample.posts, Sample.greeting] ∧
      executed Sample.accepting [] [Sample.users, Sample.posts, Sample.greeting] =
        [Sample.users, Sample.posts, Sample.greeting] ∧
      executed Sample.accepting [] Sample.orderedDocument =
        [Sample.users, Sample.greeting, Sample.posts] := by
  have observed :
      executed Sample.accepting [] Sample.document =
          [Sample.users, Sample.posts, Sample.greeting] ∧
        unskipped Sample.orderedDocument =
          [Sample.users, Sample.greeting, Sample.posts] := by
    decide +kernel
  obtain ⟨first, left⟩ := observed
  have repeats :=
    (run_over_executed_repeats Sample.accepting Sample.accepting [] []
      Sample.document (fun _ _ => rfl)).1 _ Sample.result_document rfl
  obtain ⟨result, _, _, inOrder⟩ :=
    (run_over_executed_repeats Sample.accepting Sample.accepting [] []
      Sample.orderedDocument (fun _ _ => rfl)).2
      (by decide +kernel) (by decide +kernel)
  rw [first] at repeats
  exact ⟨first, repeats.2.1, inOrder.trans left⟩

end TenantSchema.Applier
