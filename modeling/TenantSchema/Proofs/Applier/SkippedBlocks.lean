import TenantSchema.Proofs.Applier.PlannedAttempts
import TenantSchema.Proofs.Applier.ReferenceOrder

namespace TenantSchema.Applier

open Table

/-!
# Skipped blocks are inert

A run skips the statement that creates the database, blank blocks and every definition of a
table that was defined before.  The index does not hold them, and when a run comes to one of
them there is nothing to do: an earlier definition was met, so its table is in the ledger.
Without them a document has the same index, and its course plans the same attempts.
-/

/-- A definition without a name is not skipped. -/
theorem isSkipped_of_unnamed
    {before : List Block}
    {block : Block}
    (definition : Index.isDefinition block = true)
    (unnamed : nameOf? block = none) :
    isSkipped before block = false := by
  obtain ⟨kind, present⟩ := kind_of_isDefinition definition
  simp only [not_or] at present
  simp [isSkipped, kind, present, unnamed]

theorem unskippedAfter_cons_of_skipped
    {before rest : List Block}
    {block : Block}
    (skipped : isSkipped before block = true) :
    unskippedAfter before (block :: rest) =
      unskippedAfter (before ++ [block]) rest := by
  rw [unskippedAfter, if_pos skipped]

theorem unskippedAfter_cons_of_not
    {before rest : List Block}
    {block : Block}
    (kept : isSkipped before block = false) :
    unskippedAfter before (block :: rest) =
      block :: unskippedAfter (before ++ [block]) rest := by
  rw [unskippedAfter, kept]
  rfl

/-- A block that is no definition leaves the defined tables as they are. -/
theorem listed_concat_of_not
    {before : List Block}
    {block : Block}
    {known : List Text}
    (listed : ∀ name, Defines before name → name ∈ known)
    (noDefinition : ¬ Index.isDefinition block = true) :
    ∀ name, Defines (before ++ [block]) name → name ∈ known := by
  intro name defined
  rcases defines_concat_iff.mp defined with earlier | ⟨definition, _⟩
  · exact listed name earlier
  · exact (noDefinition definition).elim

/-- A definition adds its table to the defined ones. -/
theorem listed_concat_of_named
    {before : List Block}
    {block : Block}
    {table : Text}
    {known later : List Text}
    (listed : ∀ name, Defines before name → name ∈ known)
    (extended : known ⊆ later)
    (named : nameOf? block = some table)
    (present : table ∈ later) :
    ∀ name, Defines (before ++ [block]) name → name ∈ later := by
  intro name defined
  rcases defines_concat_iff.mp defined with earlier | ⟨_, isName⟩
  · exact extended (listed name earlier)
  · rw [named] at isName
    cases isName
    exact present

/-- A definition whose table is not listed is not skipped. -/
theorem isSkipped_of_missing
    {before : List Block}
    {block : Block}
    {table : Text}
    {known : List Text}
    (listed : ∀ name, Defines before name → name ∈ known)
    (definition : Index.isDefinition block = true)
    (named : nameOf? block = some table)
    (missing : table ∉ known) :
    isSkipped before block = false := by
  rw [Bool.eq_false_iff, ne_eq, isSkipped_iff_of_isDefinition definition named]
  exact fun defined => missing (listed table defined)

/-- Adding a definition keeps the names of an index, and its own is among them then. -/
theorem names_subset_add
    (index : Index)
    (table : Text)
    (block : Block) :
    index.names ⊆ (index.add table block).names ∧
      table ∈ (index.add table block).names := by
  unfold Index.add
  split
  · rename_i present
    exact ⟨List.Subset.refl _, present⟩
  · simp [Index.names]

/--
Adding blocks to an index that lists the tables defined before them is adding those that are
not skipped.
-/
theorem addAll_unskippedAfter
    {index : Index}
    {before rest : List Block}
    (listed : ∀ name, Defines before name → name ∈ index.names) :
    index.addAll (unskippedAfter before rest) = index.addAll rest := by
  induction rest generalizing index before with
  | nil =>
      rfl
  | cons block rest inductionHypothesis =>
      by_cases definition : Index.isDefinition block = true
      · cases named : nameOf? block with
        | none =>
            rw [unskippedAfter_cons_of_not (isSkipped_of_unnamed definition named),
              Index.addAll, Index.addAll, if_pos definition, if_pos definition, named]
        | some table =>
            obtain ⟨extended, present⟩ := names_subset_add index table block
            have later :=
              inductionHypothesis
                (listed_concat_of_named listed extended named present)
            cases skipped : isSkipped before block with
            | false =>
                rw [unskippedAfter_cons_of_not skipped, Index.addAll, Index.addAll,
                  if_pos definition, if_pos definition, named]
                exact later
            | true =>
                have known : table ∈ index.names :=
                  listed table
                    ((isSkipped_iff_of_isDefinition definition named).mp skipped)
                rw [Index.add, if_pos known] at later
                rw [unskippedAfter_cons_of_skipped skipped, later, Index.addAll,
                  if_pos definition, named]
                simp only [Index.add, if_pos known]
      · have later := inductionHypothesis (listed_concat_of_not listed definition)
        cases skipped : isSkipped before block with
        | true =>
            rw [unskippedAfter_cons_of_skipped skipped, later, Index.addAll,
              if_neg definition]
        | false =>
            rw [unskippedAfter_cons_of_not skipped, Index.addAll, Index.addAll,
              if_neg definition, if_neg definition, later]

/-- The index of a document is the index of the blocks that are not skipped. -/
theorem ofBlocks_unskipped (blocks : List Block) :
    Index.ofBlocks (unskipped blocks) = Index.ofBlocks blocks :=
  addAll_unskippedAfter (by simp [Defines])

/--
Without the blocks that are skipped, a document has a course that plans the same attempts and
ends in the same way.  The induction is on the course of the blocks after `before`; it carries
that the ledger lists every table defined in `before`, so a definition whose table it does not
list is not skipped.
-/
theorem Course.exists_course_unskippedAfter
    {index : Index}
    {before rest : List Block}
    {known : List Text}
    {steps : List Step}
    {ending : Option (Block × List Text)}
    (course : Course index rest known steps ending)
    (listed : ∀ name, Defines before name → name ∈ known) :
    ∃ unskippedSteps,
      Course index (unskippedAfter before rest) known unskippedSteps ending ∧
        attemptsOf known unskippedSteps = attemptsOf known steps ∧
        createdNames unskippedSteps = createdNames steps := by
  induction course generalizing before with
  | finished =>
      exact ⟨[], .finished, rfl, rfl⟩
  | passed isPassed _ inductionHypothesis =>
      rw [unskippedAfter_cons_of_skipped (isSkipped_of_passed isPassed)]
      exact inductionHypothesis
        (listed_concat_of_not listed (not_isDefinition_of_passed isPassed))
  | @present block _ known _ _ _ definition named present _ inductionHypothesis =>
      obtain ⟨others, course, planned, names⟩ :=
        inductionHypothesis
          (listed_concat_of_named listed (List.Subset.refl known) named present)
      have silent (entry : Note) (steps : List Step) :
          attemptsOf known (.say entry :: steps) = attemptsOf known steps := by
        rw [attemptsOf, Step.block?, createdNames_say, createdNames_nil,
          List.append_nil]
      cases skipped : isSkipped before block with
      | true =>
          rw [unskippedAfter_cons_of_skipped skipped]
          exact ⟨others, course, by rw [silent, planned], names⟩
      | false =>
          rw [unskippedAfter_cons_of_not skipped]
          exact ⟨_, .present definition named present course,
            by rw [silent, silent, planned], names⟩
  | @other block _ known _ _ other _ inductionHypothesis =>
      obtain ⟨others, course, planned, names⟩ :=
        inductionHypothesis
          (listed_concat_of_not listed (not_isDefinition_of_other other))
      rw [unskippedAfter_cons_of_not (isSkipped_of_other other)]
      refine ⟨_, .other other course, ?_, names⟩
      simp only [attemptsOf, Step.block?, createdNames_run, createdNames_nil,
        List.append_nil, planned]
  | @created _ _ known table inner _ _ definition named missing resolves _
      inductionHypothesis =>
      have extended : known ⊆ known ++ createdNames inner ++ [table] := by
        intro name member
        simp [member]
      obtain ⟨others, course, planned, names⟩ :=
        inductionHypothesis
          (listed_concat_of_named listed extended named (by simp))
      rw [unskippedAfter_cons_of_not
        (isSkipped_of_missing listed definition named missing)]
      refine ⟨_, .created definition named missing resolves course, ?_, ?_⟩
      · rw [attemptsOf_append, attemptsOf_append, attemptsOf, attemptsOf]
        simp only [Step.block?, createdNames_create, createdNames_nil, planned]
      · rw [createdNames_append, createdNames_append, createdNames_create,
          createdNames_create, names]
  | circular definition named missing resolves =>
      rw [unskippedAfter_cons_of_not
        (isSkipped_of_missing listed definition named missing)]
      exact ⟨_, .circular definition named missing resolves, rfl, rfl⟩

/--
A run over the blocks of a document that are not skipped makes the same attempts, so it sends
the same statements with the same answers, and comes to the same result as a run over all of
them, whatever the server answers.
-/
theorem skipped_blocks_are_inert
    (connection : Connection)
    (history : History)
    (blocks : List Block) :
    (run connection history (unskipped blocks)).history =
        (run connection history blocks).history ∧
      (run connection history (unskipped blocks)).result =
        (run connection history blocks).result ∧
      attempts connection history (unskipped blocks) =
        attempts connection history blocks := by
  suffices same :
      attempts connection history (unskipped blocks) =
          attempts connection history blocks ∧
        (run connection history (unskipped blocks)).result =
          (run connection history blocks).result by
    obtain ⟨sameAttempts, sameResult⟩ := same
    exact ⟨by rw [run_history, run_history, sameAttempts], sameResult, sameAttempts⟩
  cases indexed : Index.ofBlocks blocks with
  | error block =>
      have unskippedIndexed := (ofBlocks_unskipped blocks).trans indexed
      obtain ⟨result, noAttempts, _⟩ :=
        run_of_malformed connection history indexed
      obtain ⟨unskippedResult, unskippedAttempts, _⟩ :=
        run_of_malformed connection history unskippedIndexed
      rw [noAttempts, unskippedAttempts, result, unskippedResult]
      exact ⟨rfl, rfl⟩
  | ok index =>
      have unskippedIndexed := (ofBlocks_unskipped blocks).trans indexed
      obtain ⟨steps, ending, course⟩ := exists_course_of_ofBlocks indexed
      have noneDefined (name : Text) (defined : Defines [] name) : name ∈ [] := by
        simp [Defines] at defined
      obtain ⟨others, unskippedCourse, planned, names⟩ :=
        course.exists_course_unskippedAfter noneDefined
      exact run_congr_of_courses connection history indexed unskippedIndexed
        course unskippedCourse planned names

example :
    unskipped Sample.document = [Sample.posts, Sample.greeting, Sample.users] := by
  decide +kernel

end TenantSchema.Applier
