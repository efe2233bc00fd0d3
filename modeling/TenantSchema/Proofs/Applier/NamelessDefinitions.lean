import TenantSchema.Proofs.Applier.CycleVerdict

namespace TenantSchema

/-!
# Definitions without a name

The index of a document is built before anything is sent, and it names every definition, also
those that define a table again and those that nothing refers to.  So the first definition
without a name ends a run before its first call, and no run that has an index reports one.
-/

namespace Table

/-- Whether a block is a table definition, not a blank one, that names no table. -/
def isNameless (block : Block) : Bool :=
  Index.isDefinition block && (nameOf? block).isNone

theorem isNameless_iff
    {block : Block} :
    isNameless block = true ↔
      block.kind = .createTable ∧
        block.isBlank = false ∧
        nameOf? block = none := by
  simp [isNameless, Index.isDefinition, and_assoc]

/-- All definitions have names exactly if none is found that has not. -/
theorem allNamed_iff_find?
    {blocks : List Block} :
    AllNamed blocks ↔ blocks.find? isNameless = none := by
  rw [List.find?_eq_none]
  refine forall₂_congr fun block _ => ?_
  simp [isNameless, ← Option.ne_none_iff_exists']

/-- Adding blocks to an index fails with the first definition without a name. -/
theorem Index.addAll_eq_error_iff
    {index : Index}
    {blocks : List Block}
    {block : Block} :
    index.addAll blocks = .error block ↔
      blocks.find? isNameless = some block := by
  induction blocks generalizing index with
  | nil =>
      simp [addAll]
  | cons first rest inductionHypothesis =>
      rw [addAll]
      by_cases definition : isDefinition first = true
      · rw [if_pos definition]
        cases named : nameOf? first with
        | none =>
            have nameless : isNameless first = true := by
              simp [isNameless, definition, named]
            rw [List.find?_cons_of_pos nameless]
            simp
        | some table =>
            have other : ¬ isNameless first = true := by
              simp [isNameless, named]
            rw [List.find?_cons_of_neg other]
            exact inductionHypothesis
      · have other : ¬ isNameless first = true := by
          simp [isNameless, definition]
        rw [if_neg definition, List.find?_cons_of_neg other]
        exact inductionHypothesis

/-- The index of some blocks fails with the first definition without a name. -/
theorem Index.ofBlocks_eq_error_iff
    {blocks : List Block}
    {block : Block} :
    ofBlocks blocks = .error block ↔
      blocks.find? isNameless = some block :=
  addAll_eq_error_iff

end Table

namespace Applier

open Table

/-- Whether a run comes to a result that reports a definition without a name. -/
def ReportsMalformed (run : Run) : Prop :=
  ∃ result failure,
    run.result = .ok result ∧
      result.failure = some failure ∧
      failure.kind = .malformedStatement

section

variable
  {connection : Connection}
  {history : History}
  {blocks : List Block}

/-- A run over an indexed document fails for other reasons, if it fails. -/
theorem not_reportsMalformed_of_ofBlocks
    {index : Index}
    (indexed : Index.ofBlocks blocks = .ok index) :
    ¬ ReportsMalformed (run connection history blocks) := by
  rintro ⟨result, failure, ran, failed, kind⟩
  obtain ⟨steps, ending, course⟩ := exists_course_of_ofBlocks indexed
  rcases run_cases connection history indexed course with
    ⟨_, finished⟩ | ⟨_, _, _, _, fault, _, _, _, _, interrupted⟩
  · rw [finished] at ran
    cases ran
    obtain ⟨ending, _, rfl⟩ := Option.map_eq_some_iff.mp failed
    cases kind
  · rw [interrupted] at ran
    cases fault with
    | driver message =>
        cases ran
        cases failed
        cases kind
    | unhandled message =>
        cases ran

theorem run_of_nameless
    (connection : Connection)
    (history : History)
    {block : Block}
    (first : blocks.find? isNameless = some block) :
    (run connection history blocks).result = .ok (malformedResult block) ∧
      attempts connection history blocks = [] ∧
      (run connection history blocks).history = history :=
  run_of_malformed connection history (Index.ofBlocks_eq_error_iff.mpr first)

theorem reportsMalformed_iff :
    ReportsMalformed (run connection history blocks) ↔
      ∃ block ∈ blocks, isNameless block = true := by
  rw [← List.find?_isSome]
  cases first : blocks.find? isNameless with
  | none =>
      obtain ⟨index, indexed⟩ :=
        Index.exists_ofBlocks_iff.mpr (allNamed_iff_find?.mpr first)
      simpa using not_reportsMalformed_of_ofBlocks indexed
  | some block =>
      simpa using ⟨_, _, (run_of_nameless connection history first).1, rfl, rfl⟩

end

/--
A run reports a malformed statement exactly if some definition of its document has no name.
Whatever the server is like and whatever else the document holds, nothing was sent then, no
table was created, and the report is about the first such definition.
-/
theorem nameless_definition_stops_run
    (connection : Connection)
    (history : History)
    (blocks : List Block) :
    (ReportsMalformed (run connection history blocks) ↔
        ∃ block ∈ blocks,
          block.kind = .createTable ∧
            block.isBlank = false ∧
            nameOf? block = none) ∧
      ∀ before block after,
        blocks = before ++ block :: after →
        AllNamed before →
        isNameless block = true →
        (run connection history blocks).history = history ∧
          attempts connection history blocks = [] ∧
          (run connection history blocks).result =
            .ok {
              failure := some {
                kind := .malformedStatement
                statement := some block.text
                diagnostic := malformedMessage block
              }
              createdTables := []
              executedStatements := 0
            } := by
  constructor
  · simp only [reportsMalformed_iff, isNameless_iff]
  · rintro before block after rfl allNamed nameless
    have first :
        (before ++ block :: after).find? isNameless = some block := by
      rw [List.find?_append, allNamed_iff_find?.mp allNamed,
        List.find?_cons_of_pos nameless]
      rfl
    obtain ⟨result, noAttempts, unchanged⟩ :=
      run_of_nameless connection history first
    exact ⟨unchanged, noAttempts, result⟩

namespace Sample

/-- A definition whose name is missing. -/
def nameless : Block :=
  block .createTable 3 "CREATE TABLE IF NOT EXISTS (id INT) ENGINE = InnoDB;"

end Sample

/-- A statement that would be refused and a circle of references do not come first. -/
theorem nameless_definition_behind_circle_stops_run :
    (run (Sample.refusingAfter 0) []
        [Sample.greeting, Sample.badges, Sample.badgedUsers, Sample.nameless]).history =
        [] ∧
      ReportsMalformed
        (run (Sample.refusingAfter 0) []
          [Sample.greeting, Sample.badges, Sample.badgedUsers, Sample.nameless]) := by
  obtain ⟨reports, stops⟩ :=
    nameless_definition_stops_run (Sample.refusingAfter 0) []
      [Sample.greeting, Sample.badges, Sample.badgedUsers, Sample.nameless]
  obtain ⟨unchanged, _⟩ :=
    stops [Sample.greeting, Sample.badges, Sample.badgedUsers] Sample.nameless []
      rfl (by decide +kernel) (by decide +kernel)
  refine ⟨unchanged, reports.mpr ⟨Sample.nameless, by simp, ?_⟩⟩
  decide +kernel

end Applier

end TenantSchema
