import Mathlib.Data.List.Nodup
import TenantSchema.Proofs.Applier.Accounting
import TenantSchema.Proofs.Applier.CycleVerdict

namespace TenantSchema.Applier

open Table

/-!
# Tables that are created early

A table may be created before statements that precede its definition in the document.  That
happens for the sake of references only: once the blocks up to some place are applied, every
table created by then is defined up to that place, or references lead to it from a table that
is.
-/

/-- The blocks define a table, or the edges lead to it from a table that they define. -/
def NeededBy
    (edge : Text → Text → Prop)
    (blocks : List Block)
    (table : Text) : Prop :=
  Defines blocks table ∨
    ∃ origin,
      Defines blocks origin ∧ Relation.TransGen edge origin table

section

variable
  {edge : Text → Text → Prop}
  {index : Index}
  {blocks : List Block}
  {steps : List Step}

theorem NeededBy.cons
    {block : Block}
    {table : Text}
    (needed : NeededBy edge blocks table) :
    NeededBy edge (block :: blocks) table := by
  rcases needed with defined | ⟨origin, defined, leads⟩
  · exact .inl (defined.mono (List.subset_cons_self block blocks))
  · exact .inr
      ⟨origin, defined.mono (List.subset_cons_self block blocks), leads⟩

/--
A whole course creates only tables that its blocks need.  The blocks may be the first part of
a document, so the definitions that the course enters are given apart from them.
-/
theorem Course.neededBy
    {known : List Text}
    {table : Text}
    (course : Course index blocks known steps none)
    (related : ∀ path, RelatedOutside edge index path)
    (indexed :
      ∀ table block,
        .create table block ∈ steps →
        index.find? table = some block)
    (created : table ∈ createdNames steps) :
    NeededBy edge blocks table := by
  generalize noEnding : (none : Option (Block × List Text)) = ending
    at course
  induction course with
  | finished =>
      cases created
  | passed _ _ inductionHypothesis =>
      exact (inductionHypothesis indexed created noEnding).cons
  | present _ _ _ _ inductionHypothesis =>
      refine (inductionHypothesis ?_ created noEnding).cons
      exact fun name block member => indexed name block (by simp [member])
  | other _ _ inductionHypothesis =>
      refine (inductionHypothesis ?_ created noEnding).cons
      exact fun name block member => indexed name block (by simp [member])
  | @created block rest _ origin inner outer _ definition named _ resolves _
      inductionHypothesis =>
      have itself : Defines (block :: rest) origin :=
        ⟨block, by simp, definition, named⟩
      have found := indexed origin block (by simp)
      rw [createdNames_append, createdNames_create,
        List.mem_append, List.mem_cons] at created
      rcases created with inInner | rfl | inOuter
      · have leads :=
          resolves.transGen_of_created
            (related [] origin block (by simp) found) (related [origin]) inInner
        exact .inr ⟨origin, itself, leads⟩
      · exact .inl itself
      · refine (inductionHypothesis ?_ inOuter noEnding).cons
        exact fun name block member => indexed name block (by simp [member])
  | circular =>
      cases noEnding

/-- A course hands over a definition once. -/
theorem Course.count_definition_le_one
    {ending : Option (Block × List Text)}
    {definition : Block}
    (course : Course index blocks [] steps ending)
    (indexed : Index.ofBlocks blocks = .ok index)
    (kind : definition.kind = .createTable) :
    (handedOver steps).count definition ≤ 1 := by
  have names := course.append_nil.names_of_definitions indexed
  have distinct : (createdNames steps).Nodup :=
    (course.orderly_of_ofBlocks indexed).nodup List.nodup_nil
  have once :
      ((handedOver steps).filter
        (fun block => block.kind == .createTable)).Nodup := by
    apply List.Nodup.of_map nameOf?
    rw [names]
    exact distinct.map fun _ _ => Option.some.inj
  rw [← List.count_filter (p := fun block => block.kind == .createTable) (by simp [kind])]
  exact List.nodup_iff_count_le_one.mp once definition

/--
Once a document is applied up to an occurrence of a block, that occurrence is executed: the
steps until then hand the block over more often than it is executed before its occurrence.
-/
theorem Course.count_lt_of_executed
    {before after earlier later : List Block}
    {block : Block}
    {first second : List Step}
    (course :
      Course index (before ++ block :: after) [] (first ++ second) none)
    (leading : Course index (before ++ [block]) [] first none)
    (indexed : Index.ofBlocks (before ++ block :: after) = .ok index)
    (execution : handedOver (first ++ second) = earlier ++ block :: later)
    (samePlace : earlier.count block = before.count block) :
    earlier.count block < (handedOver first).count block := by
  have handed : block ∈ handedOver (first ++ second) := by
    simp [execution]
  obtain ⟨step, member, isBlock⟩ := List.mem_filterMap.mp handed
  -- A statement is executed as often as it occurs; a definition once, by its first occurrence.
  rcases course.step_cases indexed member isBlock with
    ⟨_, other⟩ | ⟨table, _, isFirst⟩
  · have kind := (kind_of_isOtherStatement other).1
    have executed := (course.filter_kind_handedOver indexed).1
    rw [leading.ranBlocks_eq] at executed
    have counted := congrArg (List.count block) executed
    rw [List.count_filter (by simp [kind]), List.count_filter other] at counted
    rw [counted, samePlace]
    simp
  · obtain ⟨_, definition, named⟩ := of_firstDefinition? isFirst
    have once := course.count_definition_le_one indexed
      (kind_of_isDefinition definition).1
    have created : table ∈ createdNames first :=
      leading.complete ⟨block, by simp, definition, named⟩
    obtain ⟨itself, handedFirst, isItself⟩ :=
      course.exists_definition_of_mem_createdNames indexed created
    rw [isFirst] at isItself
    cases isItself
    have positive := List.count_pos_iff.mpr handedFirst
    rw [execution, List.count_append, List.count_cons_self] at once
    omega

end

/--
In a successful run, take a block of the document and its execution, the same occurrence of
it in both.  A table that was executed before it, but whose first definition comes after it in
the document, can be reached along references from a table that is defined at or before it.
-/
theorem tables_are_hoisted_for_references
    (connection : Connection)
    (history : History)
    (blocks : List Block)
    (result : ApplyResult)
    (ran : (run connection history blocks).result = .ok result)
    (succeeded : result.success = true)
    (before after earlier later : List Block)
    (block definition : Block)
    (table : Text)
    (document : blocks = before ++ block :: after)
    (execution :
      executed connection history blocks = earlier ++ block :: later)
    (samePlace : earlier.count block = before.count block)
    (executedEarlier : definition ∈ earlier)
    (kind : definition.kind = .createTable)
    (named : nameOf? definition = some table)
    (definedLater : ¬ Defines (before ++ [block]) table) :
    ∃ origin,
      Defines (before ++ [block]) origin ∧
        Relation.TransGen (Refers blocks) origin table := by
  obtain ⟨index, steps, indexed, course, covers⟩ := of_success ran succeeded
  subst document
  rw [covers] at execution
  have inTwoParts : Course index ((before ++ [block]) ++ after) [] steps none := by
    simpa using course
  obtain ⟨first, second, rfl, leading, _⟩ := inTwoParts.split
  have fewer := course.count_lt_of_executed leading indexed execution samePlace
  have isPrefix : earlier <+: handedOver first := by
    have whole : earlier <+: handedOver (first ++ second) :=
      ⟨block :: later, execution.symm⟩
    have part : handedOver first <+: handedOver (first ++ second) := by
      simp
    -- The first part executes the block itself, so it reaches beyond what comes before it.
    rcases List.prefix_or_prefix_of_prefix whole part with shorter | longer
    · exact shorter
    · exact (Nat.not_lt.mpr (longer.sublist.count_le block) fewer).elim
  have created : table ∈ createdNames first :=
    course.mem_createdNames_of_handedOver indexed
      (isPrefix.subset executedEarlier) kind named
  have definitions
      (name : Text)
      (definition : Block)
      (member : .create name definition ∈ first) :
      index.find? name = some definition :=
    (course.orderly_of_ofBlocks indexed).find?_of_mem
      (List.mem_append_left _ member)
  have needed : NeededBy (Refers _) (before ++ [block]) table :=
    leading.neededBy (relatedOutside_refers indexed) definitions created
  exact needed.resolve_left definedLater

/-- A table that is created before a statement that precedes it is needed before that. -/
theorem users_are_hoisted_for_posts :
    executed Sample.accepting [] Sample.document =
        [Sample.users, Sample.posts] ++ [Sample.greeting] ∧
      ∃ origin,
        Defines [Sample.database, Sample.posts, Sample.greeting] origin ∧
          Relation.TransGen (Refers Sample.document) origin "users".toList := by
  have execution :
      executed Sample.accepting [] Sample.document =
        [Sample.users, Sample.posts] ++ [Sample.greeting] := by
    decide +kernel
  have definedLater :
      ¬ Defines [Sample.database, Sample.posts, Sample.greeting]
        "users".toList := by
    rw [← mem_definedNames_iff]
    decide +kernel
  exact ⟨execution,
    tables_are_hoisted_for_references _ _ _ _ Sample.result_document rfl
      [Sample.database, Sample.posts] [Sample.users, Sample.usersAgain]
      [Sample.users, Sample.posts] [] Sample.greeting Sample.users "users".toList
      rfl execution (by decide +kernel) (by simp) rfl (by decide +kernel)
      definedLater⟩

end TenantSchema.Applier
