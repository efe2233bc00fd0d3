import TenantSchema.Proofs.Applier.RunCases
import TenantSchema.Proofs.Table.Circle

namespace TenantSchema.Applier

open Table

/-!
# When references run in a circle

On a server that accepts every statement, a run fails exactly if the references between the
first definitions run in a circle.  A course that no circle ends creates every table after
the tables it refers to, so the order of creation rules a circle out; a circle that ends a
course is one of the references.
-/

/-- No table leads back to itself along the references of first definitions. -/
def Acyclic (blocks : List Block) : Prop :=
  ∀ table, ¬ Relation.TransGen (Refers blocks) table table

section

variable
  {index : Index}
  {blocks : List Block}
  {steps : List Step}

theorem idxOf_lt_of_refers
    (course : Course index blocks [] steps none)
    (indexed : Index.ofBlocks blocks = .ok index)
    {table reference : Text}
    (refers : Refers blocks table reference) :
    (createdNames steps).idxOf reference <
      (createdNames steps).idxOf table := by
  obtain ⟨definition, first, referred, other, defined⟩ := refers
  have itself : Defines blocks table :=
    firstDefinition?_isSome_iff.mp (Option.isSome_of_eq_some first)
  apply (course.orderly_of_ofBlocks indexed).idxOf_lt
    (course.complete itself) _ referred other
  · exact (Index.mem_names_iff_defines indexed).mpr defined
  · rw [Index.find?_of_ofBlocks indexed, first]

/-- A whole course creates a table later than those it leads to along references. -/
theorem idxOf_lt_of_transGen
    (course : Course index blocks [] steps none)
    (indexed : Index.ofBlocks blocks = .ok index)
    {table reference : Text}
    (leads : Relation.TransGen (Refers blocks) table reference) :
    (createdNames steps).idxOf reference <
      (createdNames steps).idxOf table := by
  induction leads with
  | single refers =>
      exact idxOf_lt_of_refers course indexed refers
  | tail _ refers inductionHypothesis =>
      exact Nat.lt_trans (idxOf_lt_of_refers course indexed refers)
        inductionHypothesis

theorem acyclic_of_course
    (course : Course index blocks [] steps none)
    (indexed : Index.ofBlocks blocks = .ok index) :
    Acyclic blocks := by
  intro table leads
  exact Nat.lt_irrefl _ (idxOf_lt_of_transGen course indexed leads)

/-- References lead from every table to what its first definition refers to. -/
theorem relatedOutside_refers
    (indexed : Index.ofBlocks blocks = .ok index)
    (path : List Text) :
    RelatedOutside (Refers blocks) index path := by
  intro name definition _ found reference referred other defined
  refine ⟨definition, ?_, referred, other, ?_⟩
  · rw [← Index.find?_of_ofBlocks indexed, found]
  · exact (Index.mem_names_iff_defines indexed).mp defined

/-- A circle that ends a course is a circle of references. -/
theorem circular_of_course
    {block : Block}
    {circle : List Text}
    (course : Course index blocks [] steps (some (block, circle)))
    (indexed : Index.ofBlocks blocks = .ok index) :
    Circular (Refers blocks) circle := by
  obtain ⟨table, settled, inner, found, resolves⟩ :=
    course.resolves_of_circle
      (fun name _ => Index.find?_of_ofBlocks indexed name)
  exact resolves.circular (.start _ table)
    (relatedOutside_refers indexed [] table block (by simp) found)
    (relatedOutside_refers indexed [table])

/-- The course of a document is whole exactly if its references run in no circle. -/
theorem ending_eq_none_iff
    {ending : Option (Block × List Text)}
    (course : Course index blocks [] steps ending)
    (indexed : Index.ofBlocks blocks = .ok index) :
    ending = none ↔ Acyclic blocks := by
  cases ending with
  | none =>
      exact ⟨fun _ => acyclic_of_course course indexed, fun _ => rfl⟩
  | some ending =>
      obtain ⟨table, leads⟩ :=
        (circular_of_course course indexed).exists_transGen
      constructor
      · intro isNone
        cases isNone
      · intro acyclic
        exact (acyclic table leads).elim

/-- The verdict of a run whose statements are all accepted is about the references alone. -/
theorem exists_verdict
    {connection : Connection}
    (history : History)
    (accepting :
      ∀ past statement,
        connection.server past (.execute connection.catalog statement) = none)
    (allNamed : AllNamed blocks) :
    ∃ result,
      (run connection history blocks).result = .ok result ∧
        (Acyclic blocks → result.failure = none) ∧
        (¬ Acyclic blocks →
          result.failure.map Failure.kind = some .cyclicDependency) := by
  obtain ⟨index, indexed⟩ := Index.exists_ofBlocks_iff.mpr allNamed
  obtain ⟨steps, ending, course⟩ := exists_course_of_ofBlocks indexed
  refine ⟨finishedResult steps ending,
    (run_of_accepting connection history accepting indexed course).1, ?_⟩
  have whole := ending_eq_none_iff course indexed
  cases ending with
  | none =>
      exact ⟨fun _ => rfl, fun cyclic => (cyclic (whole.mp rfl)).elim⟩
  | some ending =>
      refine ⟨fun acyclic => ?_, fun _ => rfl⟩
      cases whole.mpr acyclic

end

/--
On a server that accepts every statement, a run of named definitions succeeds exactly if the
references between first definitions run in no circle, and reports a circle otherwise.  If
the definitions have distinct names, the order of the blocks does not change the verdict.
-/
theorem run_succeeds_iff_acyclic
    (connection : Connection)
    (history : History)
    (blocks : List Block)
    (accepting :
      ∀ past statement,
        connection.server past (.execute connection.catalog statement) = none)
    (allNamed : AllNamed blocks) :
    ∃ result,
      (run connection history blocks).result = .ok result ∧
        (result.success = true ↔ Acyclic blocks) ∧
        (result.success = false →
          result.failure.map Failure.kind = some .cyclicDependency) ∧
        ∀ other,
          blocks.Perm other →
          (definedNames blocks).Nodup →
          ∃ otherResult,
            (run connection history other).result = .ok otherResult ∧
              otherResult.success = result.success ∧
              otherResult.failure.map Failure.kind =
                result.failure.map Failure.kind := by
  obtain ⟨result, ran, acyclicOnly, cyclicOnly⟩ :=
    exists_verdict history accepting allNamed
  refine ⟨result, ran, ?_, ?_, ?_⟩
  · constructor
    · intro succeeded
      by_cases acyclic : Acyclic blocks
      · exact acyclic
      · have kind := cyclicOnly acyclic
        rw [Option.isNone_iff_eq_none.mp succeeded] at kind
        cases kind
    · intro acyclic
      exact Option.isNone_iff_eq_none.mpr (acyclicOnly acyclic)
  · intro failed
    apply cyclicOnly
    intro acyclic
    rw [ApplyResult.success, acyclicOnly acyclic] at failed
    cases failed
  · intro other sameBlocks distinctNames
    have otherNamed : AllNamed other := fun block member =>
      allNamed block (sameBlocks.mem_iff.mpr member)
    obtain ⟨otherResult, otherRan, otherAcyclicOnly, otherCyclicOnly⟩ :=
      exists_verdict history accepting otherNamed
    have sameReferences : Acyclic other = Acyclic blocks := by
      rw [Acyclic, Acyclic, refers_perm sameBlocks distinctNames]
    rw [sameReferences] at otherAcyclicOnly otherCyclicOnly
    have sameKind :
        otherResult.failure.map Failure.kind =
          result.failure.map Failure.kind := by
      by_cases acyclic : Acyclic blocks
      · rw [otherAcyclicOnly acyclic, acyclicOnly acyclic]
      · rw [otherCyclicOnly acyclic, cyclicOnly acyclic]
    refine ⟨otherResult, otherRan, ?_, sameKind⟩
    have sameSuccess := congrArg Option.isNone sameKind
    rw [Option.isNone_map, Option.isNone_map] at sameSuccess
    exact sameSuccess

namespace Sample

/-- A table that refers to itself and to `users`. -/
def badges : Block :=
  block .createTable 0
    "CREATE TABLE badges (a INT REFERENCES badges (a), b INT REFERENCES users (a));"

/-- A definition of `users` that refers back to `badges`. -/
def badgedUsers : Block :=
  block .createTable 1
    "CREATE TABLE users (a INT REFERENCES badges (a));"

end Sample

/-- Two tables that refer to each other fail in both orders. -/
theorem crossing_references_are_reported :
    ¬ Acyclic [Sample.badges, Sample.badgedUsers] ∧
      ∃ result,
        (run Sample.accepting [] [Sample.badgedUsers, Sample.badges]).result =
            .ok result ∧
          result.failure.map Failure.kind = some .cyclicDependency := by
  have ran :
      (run Sample.accepting [] [Sample.badges, Sample.badgedUsers]).result.toOption.map
        ApplyResult.success = some false := by
    decide +kernel
  obtain ⟨result, isResult, verdict, kind, otherOrder⟩ :=
    run_succeeds_iff_acyclic Sample.accepting []
      [Sample.badges, Sample.badgedUsers] (fun _ _ => rfl) (by decide +kernel)
  rw [isResult] at ran
  have failed : result.success = false :=
    Option.some.inj ran
  obtain ⟨otherResult, otherRan, _, sameKind⟩ :=
    otherOrder [Sample.badgedUsers, Sample.badges] (.swap _ _ [])
      (by decide +kernel)
  refine ⟨?_, otherResult, otherRan, sameKind.trans (kind failed)⟩
  intro acyclic
  rw [verdict.mpr acyclic] at failed
  cases failed

end TenantSchema.Applier
