import TenantSchema.Proofs.Applier.RunCases

namespace TenantSchema.Applier

open Table

/-!
# Definitions are handed over after what they refer to

However a server answers, a run hands every table definition over once, as the first
definition of its table, and only after the defined tables that it refers to were created
and recorded.
-/

/--
What holds when a run of `blocks` hands over the definition of `table`, after the attempts
`before`.
-/
structure HandedOverInOrder
    (blocks : List Block)
    (before : List Attempt)
    (attempt : Attempt)
    (table : Text) : Prop where
  named :
    nameOf? attempt.block = some table
  first :
    firstDefinition? blocks table = some attempt.block
  once :
    ∀ earlier ∈ before,
      earlier.block.kind = .createTable →
      nameOf? earlier.block ≠ some table
  referencesCreated :
    ∀ reference ∈ references attempt.block.text,
      reference ≠ table →
      Defines blocks reference →
      reference ∈ attempt.ledger ∧
        ∃ earlier ∈ before,
          earlier.succeeded = true ∧
            firstDefinition? blocks reference = some earlier.block

section

variable
  {index : Index}
  {blocks : List Block}
  {leading trailing : List Step}
  {ending : Option (Block × List Text)}

theorem exists_attempt_of_mem_createdNames
    {known : List Text}
    (course : Course index blocks [] (leading ++ trailing) ending)
    (indexed : Index.ofBlocks blocks = .ok index)
    {table : Text}
    (created : table ∈ createdNames leading) :
    ∃ attempt ∈ attemptsOf known leading,
      attempt.succeeded = true ∧
        firstDefinition? blocks table = some attempt.block := by
  obtain ⟨definition, handed, first⟩ :=
    course.exists_definition_of_mem_createdNames indexed created
  rw [← map_block_attemptsOf known] at handed
  obtain ⟨attempt, made, rfl⟩ := List.mem_map.mp handed
  exact ⟨attempt, made, succeeded_of_mem_attemptsOf made, first⟩

theorem mem_createdNames_of_attempt
    {known : List Text}
    (course : Course index blocks [] (leading ++ trailing) ending)
    (indexed : Index.ofBlocks blocks = .ok index)
    {attempt : Attempt}
    (made : attempt ∈ attemptsOf known leading)
    (kind : attempt.block.kind = .createTable)
    {table : Text}
    (named : nameOf? attempt.block = some table) :
    table ∈ createdNames leading := by
  have handed : attempt.block ∈ handedOver leading := by
    rw [← map_block_attemptsOf known]
    exact List.mem_map_of_mem made
  exact course.mem_createdNames_of_handedOver indexed handed kind named

/-- A definition that a course hands over is handed over in order. -/
theorem handedOverInOrder_of_create
    {table : Text}
    {attempt : Attempt}
    (course :
      Course index blocks []
        (leading ++ .create table attempt.block :: trailing) ending)
    (indexed : Index.ofBlocks blocks = .ok index)
    (listed : attempt.ledger = createdNames leading) :
    HandedOverInOrder blocks (attemptsOf [] leading) attempt table := by
  cases (course.orderly_of_ofBlocks indexed).drop with
  | create fresh found earlierCreated _ =>
      rw [Index.find?_of_ofBlocks indexed] at found
      constructor
      · exact (of_firstDefinition? found).2.2
      · exact found
      · intro earlier made kind named
        exact fresh (mem_createdNames_of_attempt course indexed made kind named)
      · intro reference referred other defined
        have created :=
          earlierCreated reference referred other
            ((Index.mem_names_iff_defines indexed).mpr defined)
        exact ⟨listed ▸ created,
          exists_attempt_of_mem_createdNames course indexed created⟩

end

/--
The calls of a run are those of its attempts, and every table definition among these is
handed over in order, whatever the server answers and wherever the run ends.
-/
theorem definitions_handed_over_in_order
    (connection : Connection)
    (history : History)
    (blocks : List Block) :
    (run connection history blocks).history =
        history ++
          (attempts connection history blocks).map
            (Attempt.event connection) ∧
      ∀ before attempt after,
        attempts connection history blocks = before ++ attempt :: after →
        attempt.block.kind = .createTable →
        ∃ table, HandedOverInOrder blocks before attempt table := by
  refine ⟨run_history connection history blocks, ?_⟩
  intro before attempt after shape kind
  cases indexed : Index.ofBlocks blocks with
  | error block =>
      rw [(run_of_malformed connection history indexed).2.1] at shape
      simp at shape
  | ok index =>
      obtain ⟨steps, ending, course⟩ := exists_course_of_ofBlocks indexed
      obtain ⟨leading, step, trailing, rfl, isBlock, listed, rfl⟩ :=
        exists_step_of_attempts indexed course shape
      rcases course.step_cases indexed (by simp) isBlock with
        ⟨_, other⟩ | ⟨table, rfl, _⟩
      · exact ((kind_of_isOtherStatement other).1 kind).elim
      · exact ⟨table, handedOverInOrder_of_create course indexed listed⟩

/-- A definition that is refused comes after the one it refers to. -/
theorem refused_definition_handed_over_in_order :
    attempts (Sample.refusingAfter 1) [] Sample.document =
        [⟨Sample.users, [], true⟩, ⟨Sample.posts, ["users".toList], false⟩] ∧
      ∃ table,
        HandedOverInOrder Sample.document [⟨Sample.users, [], true⟩]
          ⟨Sample.posts, ["users".toList], false⟩ table := by
  have made :
      attempts (Sample.refusingAfter 1) [] Sample.document =
        [⟨Sample.users, [], true⟩, ⟨Sample.posts, ["users".toList], false⟩] := by
    decide +kernel
  exact ⟨made,
    (definitions_handed_over_in_order _ _ _).2 _ _ [] made rfl⟩

end TenantSchema.Applier
