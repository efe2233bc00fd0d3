import TenantSchema.Proofs.Applier.Course

namespace TenantSchema.Applier

open Table

/-!
# Courses and document order

A course takes orderly steps: every table comes once, from its first definition and after
the tables it refers to.  The other statements stand in it in document order, and one that
no circle ends creates every defined table, those defined before a statement not later than
the statement itself.
-/

/-- Outside the known tables the index gives the first definitions of the blocks. -/
def Agrees
    (index : Index)
    (known : List Text)
    (blocks : List Block) : Prop :=
  ∀ name, name ∉ known → index.find? name = firstDefinition? blocks name

/-- A block that defines no table, or a known one, may be left behind. -/
theorem Agrees.tail
    {index : Index}
    {known later : List Text}
    {block : Block}
    {rest : List Block}
    (agrees : Agrees index known (block :: rest))
    (extended : known ⊆ later)
    (settled :
      ∀ table,
        Index.isDefinition block = true →
        nameOf? block = some table →
        table ∈ later) :
    Agrees index later rest := by
  intro name unknown
  rw [agrees name (fun member => unknown (extended member))]
  apply firstDefinition?_cons_of_not
  intro definition named
  exact unknown (settled name definition named)

theorem Agrees.tail_of_not
    {index : Index}
    {known : List Text}
    {block : Block}
    {rest : List Block}
    (agrees : Agrees index known (block :: rest))
    (noDefinition : ¬ Index.isDefinition block = true) :
    Agrees index known rest :=
  agrees.tail (List.Subset.refl known)
    (fun _ definition => (noDefinition definition).elim)

theorem Agrees.tail_of_mem
    {index : Index}
    {known later : List Text}
    {block : Block}
    {rest : List Block}
    {table : Text}
    (agrees : Agrees index known (block :: rest))
    (extended : known ⊆ later)
    (named : nameOf? block = some table)
    (present : table ∈ later) :
    Agrees index later rest := by
  refine agrees.tail extended ?_
  intro other _ otherNamed
  rw [named] at otherNamed
  cases otherNamed
  exact present

theorem Agrees.tail_of_created
    {index : Index}
    {known inner : List Text}
    {block : Block}
    {rest : List Block}
    {table : Text}
    (agrees : Agrees index known (block :: rest))
    (named : nameOf? block = some table) :
    Agrees index (known ++ inner ++ [table]) rest := by
  refine agrees.tail_of_mem ?_ named (by simp)
  intro name member
  simp [member]

theorem Agrees.find?_of_definition
    {index : Index}
    {known : List Text}
    {block : Block}
    {rest : List Block}
    {table : Text}
    (agrees : Agrees index known (block :: rest))
    (definition : Index.isDefinition block = true)
    (named : nameOf? block = some table)
    (missing : table ∉ known) :
    index.find? table = some block := by
  rw [agrees table missing]
  exact firstDefinition?_cons_of_defines definition named

theorem not_isDefinition_of_passed
    {block : Block}
    (passed : block.kind = .createDatabase ∨ block.isBlank = true) :
    ¬ Index.isDefinition block = true :=
  fun definition => (kind_of_isDefinition definition).2 passed

theorem not_isDefinition_of_other
    {block : Block}
    (other : isOtherStatement block = true) :
    ¬ Index.isDefinition block = true :=
  fun definition =>
    (kind_of_isOtherStatement other).1 (kind_of_isDefinition definition).1

theorem not_other_of_passed
    {block : Block}
    (passed : block.kind = .createDatabase ∨ block.isBlank = true) :
    ¬ isOtherStatement block = true :=
  fun other => (kind_of_isOtherStatement other).2 passed

theorem not_other_of_isDefinition
    {block : Block}
    (definition : Index.isDefinition block = true) :
    ¬ isOtherStatement block = true :=
  fun other => not_isDefinition_of_other other definition

namespace Course

/-- The steps of a course are orderly. -/
theorem orderly
    {index : Index}
    {blocks : List Block}
    {known : List Text}
    {steps : List Step}
    {ending : Option (Block × List Text)}
    (course : Course index blocks known steps ending)
    (agrees : Agrees index known blocks) :
    Orderly index known steps := by
  induction course with
  | finished =>
      exact .nothing
  | passed passed _ inductionHypothesis =>
      exact inductionHypothesis
        (agrees.tail_of_not (not_isDefinition_of_passed passed))
  | present _ named present _ inductionHypothesis =>
      exact .say (inductionHypothesis
        (agrees.tail_of_mem (List.Subset.refl _) named present))
  | other other _ inductionHypothesis =>
      exact .run (inductionHypothesis
        (agrees.tail_of_not (not_isDefinition_of_other other)))
  | @created block rest known table inner outer ending
      definition named missing resolves _ inductionHypothesis =>
      have found := agrees.find?_of_definition definition named missing
      refine resolves.orderly.append (.create ?_ found ?_ ?_)
      · rw [List.mem_append, not_or]
        refine ⟨missing, ?_⟩
        intro created
        exact resolves.not_mem_path created (by simp)
      · intro reference referred other defined
        exact resolves.complete referred other defined
      · exact inductionHypothesis (agrees.tail_of_created named)
  | circular _ _ _ resolves =>
      exact resolves.orderly

theorem orderly_of_ofBlocks
    {index : Index}
    {blocks : List Block}
    {steps : List Step}
    {ending : Option (Block × List Text)}
    (course : Course index blocks [] steps ending)
    (indexed : Index.ofBlocks blocks = .ok index) :
    Orderly index [] steps :=
  course.orderly (fun name _ => Index.find?_of_ofBlocks indexed name)

/--
The circle that ends a course ends the resolution of the block that it is reported with, and
this block is a definition in the index.
-/
theorem resolves_of_circle
    {index : Index}
    {blocks : List Block}
    {known : List Text}
    {steps : List Step}
    {block : Block}
    {circle : List Text}
    (course : Course index blocks known steps (some (block, circle)))
    (agrees : Agrees index known blocks) :
    ∃ table settled inner,
      index.find? table = some block ∧
        Resolves index [table] table (references block.text) settled inner
          (some circle) := by
  generalize isEnding : some (block, circle) = ending at course
  induction course with
  | finished =>
      cases isEnding
  | passed passed _ inductionHypothesis =>
      exact inductionHypothesis
        (agrees.tail_of_not (not_isDefinition_of_passed passed)) isEnding
  | present _ named present _ inductionHypothesis =>
      exact inductionHypothesis
        (agrees.tail_of_mem (List.Subset.refl _) named present) isEnding
  | other other _ inductionHypothesis =>
      exact inductionHypothesis
        (agrees.tail_of_not (not_isDefinition_of_other other)) isEnding
  | created _ named _ _ _ inductionHypothesis =>
      exact inductionHypothesis (agrees.tail_of_created named) isEnding
  | @circular block rest known table inner circle
      definition named missing resolves =>
      cases isEnding
      exact ⟨table, known, inner,
        agrees.find?_of_definition definition named missing, resolves⟩

/-- A course that no circle ends creates every defined table. -/
theorem complete
    {index : Index}
    {blocks : List Block}
    {known : List Text}
    {steps : List Step}
    (course : Course index blocks known steps none)
    {name : Text}
    (defined : Defines blocks name) :
    name ∈ known ++ createdNames steps := by
  generalize noEnding : (none : Option (Block × List Text)) = ending
    at course
  induction course with
  | finished =>
      obtain ⟨_, member, _⟩ := defined
      simp at member
  | passed passed _ inductionHypothesis =>
      obtain ⟨definer, member, definition, named⟩ := defined
      rcases List.mem_cons.mp member with rfl | later
      · exact (not_isDefinition_of_passed passed definition).elim
      · exact inductionHypothesis ⟨definer, later, definition, named⟩ noEnding
  | present _ named present _ inductionHypothesis =>
      obtain ⟨definer, member, definition, definerNamed⟩ := defined
      rcases List.mem_cons.mp member with rfl | later
      · rw [named] at definerNamed
        cases definerNamed
        exact List.mem_append_left _ present
      · exact inductionHypothesis
          ⟨definer, later, definition, definerNamed⟩ noEnding
  | other other _ inductionHypothesis =>
      obtain ⟨definer, member, definition, named⟩ := defined
      rcases List.mem_cons.mp member with rfl | later
      · exact (not_isDefinition_of_other other definition).elim
      · exact inductionHypothesis ⟨definer, later, definition, named⟩ noEnding
  | created _ named _ _ _ inductionHypothesis =>
      obtain ⟨definer, member, definition, definerNamed⟩ := defined
      rcases List.mem_cons.mp member with rfl | later
      · rw [named] at definerNamed
        cases definerNamed
        simp
      · simpa using inductionHypothesis
          ⟨definer, later, definition, definerNamed⟩ noEnding
  | circular =>
      cases noEnding

/--
The other statements of a course are those of the document, in order, as far as the course
goes; nothing remains of them unless a circle ends it.
-/
theorem exists_remaining
    {index : Index}
    {blocks : List Block}
    {known : List Text}
    {steps : List Step}
    {ending : Option (Block × List Text)}
    (course : Course index blocks known steps ending) :
    ∃ remaining,
      blocks.filter isOtherStatement =
          ranBlocks steps ++ remaining ∧
        (ending = none → remaining = []) := by
  induction course with
  | finished =>
      exact ⟨[], rfl, fun _ => rfl⟩
  | passed passed _ inductionHypothesis =>
      rw [List.filter_cons_of_neg (not_other_of_passed passed)]
      exact inductionHypothesis
  | present definition _ _ _ inductionHypothesis =>
      rw [List.filter_cons_of_neg (not_other_of_isDefinition definition)]
      exact inductionHypothesis
  | other other _ inductionHypothesis =>
      obtain ⟨remaining, shape, complete⟩ := inductionHypothesis
      rw [List.filter_cons_of_pos other, shape]
      exact ⟨remaining, rfl, complete⟩
  | created definition _ _ resolves _ inductionHypothesis =>
      rw [List.filter_cons_of_neg (not_other_of_isDefinition definition),
        ranBlocks_append, resolves.ranBlocks_eq_nil, List.nil_append]
      exact inductionHypothesis
  | circular _ _ _ resolves =>
      rw [resolves.ranBlocks_eq_nil]
      exact ⟨_, rfl, fun noEnding => by cases noEnding⟩

theorem isOtherStatement_of_ran
    {index : Index}
    {blocks : List Block}
    {known : List Text}
    {steps : List Step}
    {ending : Option (Block × List Text)}
    (course : Course index blocks known steps ending)
    {block : Block}
    (member : .run block ∈ steps) :
    isOtherStatement block = true := by
  obtain ⟨remaining, shape, _⟩ := course.exists_remaining
  have ran : block ∈ ranBlocks steps :=
    List.mem_filterMap.mpr ⟨.run block, member, rfl⟩
  have filtered : block ∈ blocks.filter isOtherStatement := by
    rw [shape]
    exact List.mem_append_left _ ran
  exact (List.mem_filter.mp filtered).2

/-- A course that no circle ends runs all other statements, in document order. -/
theorem ranBlocks_eq
    {index : Index}
    {blocks : List Block}
    {known : List Text}
    {steps : List Step}
    (course : Course index blocks known steps none) :
    ranBlocks steps = blocks.filter isOtherStatement := by
  obtain ⟨remaining, shape, complete⟩ := course.exists_remaining
  rw [shape, complete rfl, List.append_nil]

/--
A step that hands a block over runs one of the other statements of the document or creates a
table from its first definition.
-/
theorem step_cases
    {index : Index}
    {blocks : List Block}
    {steps : List Step}
    {ending : Option (Block × List Text)}
    (course : Course index blocks [] steps ending)
    (indexed : Index.ofBlocks blocks = .ok index)
    {step : Step}
    {block : Block}
    (member : step ∈ steps)
    (isBlock : step.block? = some block) :
    (step = .run block ∧ isOtherStatement block = true) ∨
      ∃ table,
        step = .create table block ∧
          firstDefinition? blocks table = some block := by
  cases step with
  | say entry =>
      cases isBlock
  | run other =>
      cases isBlock
      exact .inl ⟨rfl, course.isOtherStatement_of_ran member⟩
  | create table definition =>
      cases isBlock
      have found :=
        (course.orderly_of_ofBlocks indexed).find?_of_mem member
      rw [Index.find?_of_ofBlocks indexed] at found
      exact .inr ⟨table, rfl, found⟩

/-- The steps of a course are its first steps, with nothing after them. -/
theorem append_nil
    {index : Index}
    {blocks : List Block}
    {known : List Text}
    {steps : List Step}
    {ending : Option (Block × List Text)}
    (course : Course index blocks known steps ending) :
    Course index blocks known (steps ++ []) ending := by
  rw [List.append_nil]
  exact course

/-- A table that the first steps of a course create is handed over by them. -/
theorem exists_definition_of_mem_createdNames
    {index : Index}
    {blocks : List Block}
    {leading trailing : List Step}
    {ending : Option (Block × List Text)}
    (course : Course index blocks [] (leading ++ trailing) ending)
    (indexed : Index.ofBlocks blocks = .ok index)
    {table : Text}
    (created : table ∈ createdNames leading) :
    ∃ definition ∈ handedOver leading,
      firstDefinition? blocks table = some definition := by
  obtain ⟨definition, member⟩ := exists_create_of_mem_createdNames created
  have found :=
    (course.orderly_of_ofBlocks indexed).find?_of_mem
      (List.mem_append_left _ member)
  rw [Index.find?_of_ofBlocks indexed] at found
  exact ⟨definition, List.mem_filterMap.mpr ⟨_, member, rfl⟩, found⟩

/-- A definition that the first steps of a course hand over has its table created by them. -/
theorem mem_createdNames_of_handedOver
    {index : Index}
    {blocks : List Block}
    {leading trailing : List Step}
    {ending : Option (Block × List Text)}
    (course : Course index blocks [] (leading ++ trailing) ending)
    (indexed : Index.ofBlocks blocks = .ok index)
    {definition : Block}
    {table : Text}
    (handed : definition ∈ handedOver leading)
    (kind : definition.kind = .createTable)
    (named : nameOf? definition = some table) :
    table ∈ createdNames leading := by
  obtain ⟨step, member, isBlock⟩ := List.mem_filterMap.mp handed
  rcases course.step_cases indexed (List.mem_append_left _ member) isBlock with
    ⟨_, other⟩ | ⟨name, rfl, first⟩
  · exact ((kind_of_isOtherStatement other).1 kind).elim
  · have itself := (of_firstDefinition? first).2.2
    rw [named] at itself
    cases itself
    exact List.mem_filterMap.mpr ⟨_, member, rfl⟩

/-- The course of a document in two parts is a course of each part. -/
theorem split
    {index : Index}
    {before after : List Block}
    {known : List Text}
    {steps : List Step}
    (course : Course index (before ++ after) known steps none) :
    ∃ first second,
      steps = first ++ second ∧
        Course index before known first none ∧
        Course index after (known ++ createdNames first) second none := by
  induction before generalizing known steps with
  | nil =>
      exact ⟨[], steps, rfl, .finished, by simpa using course⟩
  | cons block rest inductionHypothesis =>
      cases course with
      | passed passed remaining =>
          obtain ⟨first, second, rfl, leading, trailing⟩ :=
            inductionHypothesis remaining
          exact ⟨first, second, rfl, .passed passed leading, trailing⟩
      | present definition named present remaining =>
          obtain ⟨first, second, rfl, leading, trailing⟩ :=
            inductionHypothesis remaining
          exact ⟨_, second, rfl,
            .present definition named present leading, trailing⟩
      | other other remaining =>
          obtain ⟨first, second, rfl, leading, trailing⟩ :=
            inductionHypothesis remaining
          exact ⟨_, second, rfl, .other other leading, trailing⟩
      | created definition named missing resolves remaining =>
          obtain ⟨first, second, rfl, leading, trailing⟩ :=
            inductionHypothesis remaining
          refine ⟨_, second, by rw [List.append_assoc]; rfl,
            .created definition named missing resolves leading, ?_⟩
          simpa using trailing

end Course

end TenantSchema.Applier
