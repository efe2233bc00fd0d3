import TenantSchema.Proofs.Applier.CycleVerdict
import TenantSchema.Proofs.Resolution.Creation

namespace TenantSchema.Table

open Applier

/-!
# Reported circles

A circle that is reported exists: its tables refer to one another, its first table can be
reached from the one that was to be created, and none of its tables exists or was attempted.
The tables under way are those that the ledger does not list, and a circle is closed among
them.
-/

theorem head?_cycleFrom
    {path : List Text}
    {reference : Text}
    (met : reference ∈ path) :
    (cycleFrom path reference).head? = some reference := by
  obtain ⟨before, after, rfl, fresh⟩ := List.eq_append_cons_of_mem met
  rw [cycleFrom_append_cons after fresh]
  rfl

theorem mem_of_mem_cycleFrom
    {path : List Text}
    {reference name : Text}
    (met : reference ∈ path)
    (member : name ∈ cycleFrom path reference) :
    name ∈ path := by
  rcases List.mem_append.mp member with inPath | isReference
  · exact (List.dropWhile_sublist _).subset inPath
  · exact List.mem_singleton.mp isReference ▸ met

/--
The edges lead to the first table of the circle that ends a resolution, if they lead from
`table` to the names gone through and from every table not under way to what its definition
refers to.
-/
theorem Resolves.exists_transGen_head
    {edge : Text → Text → Prop}
    {index : Index}
    {path names known circle : List Text}
    {table : Text}
    {steps : List Step}
    (resolves : Resolves index path table names known steps (some circle))
    (refers : Related edge index table names)
    (entered : RelatedOutside edge index path) :
    ∃ first,
      circle.head? = some first ∧ Relation.TransGen edge table first := by
  generalize isEnding : some circle = ending at resolves
  induction resolves with
  | nothing =>
      cases isEnding
  | present _ _ inductionHypothesis =>
      exact inductionHypothesis refers.tail entered isEnding
  | outside _ _ _ _ inductionHypothesis =>
      exact inductionHypothesis refers.tail entered isEnding
  | closed other _ found met =>
      cases isEnding
      exact ⟨_, head?_cycleFrom met, .single (refers.edge_of_found other found)⟩
  | descended _ _ _ _ _ _ _ outerHypothesis =>
      exact outerHypothesis refers.tail entered isEnding
  | broken other _ found unmet _ innerHypothesis =>
      obtain ⟨first, isFirst, leads⟩ :=
        innerHypothesis (entered _ _ unmet found) (entered.enter _) isEnding
      exact ⟨first, isFirst, .head (refers.edge_of_found other found) leads⟩

/--
No table of the circle that ends a resolution was known or created before it, if none of the
tables under way was known.
-/
theorem Resolves.not_mem_of_mem_circle
    {index : Index}
    {path names known circle : List Text}
    {table name : Text}
    {steps : List Step}
    (resolves : Resolves index path table names known steps (some circle))
    (missing : ∀ entered ∈ path, entered ∉ known)
    (member : name ∈ circle) :
    name ∉ known ++ createdNames steps := by
  generalize isEnding : some circle = ending at resolves
  induction resolves with
  | nothing =>
      cases isEnding
  | present _ _ inductionHypothesis =>
      exact inductionHypothesis missing isEnding
  | outside _ _ _ _ inductionHypothesis =>
      exact inductionHypothesis missing isEnding
  | closed _ _ _ met =>
      cases isEnding
      simpa using missing name (mem_of_mem_cycleFrom met member)
  | descended _ _ _ unmet entered _ _ outerHypothesis =>
      have stillMissing := outerHypothesis ?_ isEnding
      · simpa using stillMissing
      · intro underWay inPath known
        rw [List.mem_append, List.mem_append, List.mem_singleton] at known
        rcases known with (before | created) | isReference
        · exact missing underWay inPath before
        · exact entered.not_mem_path created (List.mem_append_left _ inPath)
        · exact unmet (isReference ▸ inPath)
  | broken _ fresh _ _ _ innerHypothesis =>
      refine innerHypothesis ?_ isEnding
      intro underWay inPath
      rcases List.mem_append.mp inPath with before | isReference
      · exact missing underWay before
      · exact List.mem_singleton.mp isReference ▸ fresh

/-- A circle of the edges that can be reached from a table. -/
structure RealCircle
    (edge : Text → Text → Prop)
    (table : Text)
    (circle : List Text) : Prop where
  circular :
    Circular edge circle
  reached :
    ∃ first,
      circle.head? = some first ∧ Relation.TransGen edge table first

theorem Resolves.realCircle
    {edge : Text → Text → Prop}
    {index : Index}
    {table : Text}
    {names known circle : List Text}
    {steps : List Step}
    (resolves : Resolves index [table] table names known steps (some circle))
    (refers : Related edge index table names)
    (entered : RelatedOutside edge index [table]) :
    RealCircle edge table circle where
  circular := resolves.circular (.start _ table) refers entered
  reached := resolves.exists_transGen_head refers entered

section

variable
  {blocks : List Block}
  {index : Index}

theorem mem_createdNames_of_attempt
    {block : Block}
    {known : List Text}
    {steps : List Step}
    {circle : Option (List Text)}
    {attempt : Attempt}
    {name : Text}
    (creation : Creation index block known steps circle)
    (indexed : Index.ofBlocks blocks = .ok index)
    (attempted : attempt ∈ attemptsOf known steps)
    (named : nameOf? attempt.block = some name) :
    name ∈ createdNames steps := by
  have handed : attempt.block ∈ handedOver steps := by
    rw [← map_block_attemptsOf known]
    exact List.mem_map_of_mem attempted
  exact List.mem_filterMap.mpr ⟨_, creation.create_of_handedOver indexed handed named, rfl⟩

/--
The circle that stops the creation of a table is real, and nothing was done about its tables:
the ledger lists none of them, before or after, and no definition of one was attempted.
-/
theorem realCircle_of_ensureCreated
    {Cause World : Type}
    {action : Action Cause World}
    {block : Block}
    {session later : Session World}
    {circle : List Text}
    (indexed : Index.ofBlocks blocks = .ok index)
    (keepsLedger : KeepsLedger action)
    (stopped :
      ensureCreated index action block session = .stopped (.cyclic circle) later) :
    ∃ table,
      nameOf? block = some table ∧
        RealCircle (LeadsTo blocks block) table circle ∧
        ∀ name ∈ circle,
          name ∉ session.ledger.names ∧
            name ∉ later.ledger.names ∧
            ∀ attempt ∈ attemptsToCreate index action block session,
              nameOf? attempt.block ≠ some name := by
  cases named : nameOf? block with
  | none =>
      rw [ensureCreated_of_unnamed index action session named] at stopped
      cases stopped
  | some table =>
      obtain ⟨steps, ending, creation⟩ :=
        exists_creation index named session.ledger.names
      rcases creation.cases_of_action keepsLedger with
        ⟨last, ended, names, made⟩ | ⟨_, _, _, _, _, _, _, _, _, _, failed, _⟩
      · have whole := creation
        rw [ended] at stopped
        cases creation with
        | present | created =>
            cases stopped
        | circular itself missing resolves =>
            cases stopped
            cases named.symm.trans itself
            refine ⟨table, rfl, ?_, ?_⟩
            · exact resolves.realCircle (related_leadsTo indexed named)
                (relatedOutside_leadsTo indexed named)
            · intro name member
              have unlisted : name ∉ session.ledger.names ++ createdNames steps :=
                resolves.not_mem_of_mem_circle (by simpa using missing) member
              refine ⟨fun known => unlisted (List.mem_append_left _ known),
                names ▸ unlisted, ?_⟩
              intro attempt attempted attemptNamed
              rw [made] at attempted
              exact unlisted (List.mem_append_right _
                (mem_createdNames_of_attempt whole indexed attempted attemptNamed))
      · rw [failed] at stopped
        cases stopped

end

end TenantSchema.Table

namespace TenantSchema.Applier

open Table

/--
The circle that a run reports is a circle of first definitions, and can be reached from the
one whose text is reported with it.
-/
theorem exists_realCircle_of_run
    {connection : Connection}
    {history : History}
    {blocks : List Block}
    {result : ApplyResult}
    {failure : Failure}
    (ran : (run connection history blocks).result = .ok result)
    (failed : result.failure = some failure)
    (kind : failure.kind = .cyclicDependency) :
    ∃ block table circle,
      block ∈ blocks ∧
        firstDefinition? blocks table = some block ∧
        failure.statement = some block.text ∧
        failure.diagnostic = cyclicMessage circle ∧
        RealCircle (Refers blocks) table circle := by
  cases indexed : Index.ofBlocks blocks with
  | error malformed =>
      rw [(run_of_malformed connection history indexed).1] at ran
      cases ran
      cases failed
      cases kind
  | ok index =>
      obtain ⟨steps, ending, course⟩ := exists_course_of_ofBlocks indexed
      rcases run_cases connection history indexed course with
        ⟨_, finished⟩ | ⟨_, _, _, _, fault, _, _, _, _, interrupted⟩
      · rw [finished] at ran
        cases ran
        rcases ending with _ | ⟨block, circle⟩
        · cases failed
        · cases failed
          obtain ⟨table, settled, inner, found, resolves⟩ :=
            course.resolves_of_circle
              (fun name _ => Index.find?_of_ofBlocks indexed name)
          have first := found
          rw [Index.find?_of_ofBlocks indexed] at first
          refine ⟨block, table, circle, (of_firstDefinition? first).1, first, rfl, rfl, ?_⟩
          have named := (of_firstDefinition? first).2.2
          rw [← leadsTo_of_first first]
          exact resolves.realCircle (related_leadsTo indexed named)
            (relatedOutside_leadsTo indexed named)
      · rw [interrupted] at ran
        cases fault with
        | driver message =>
            cases ran
            cases failed
            cases kind
        | unhandled message =>
            cases ran

/--
A circle that is reported is real.  Its tables refer to one another, each by the definition
that counts for it, none of them is in the ledger or was attempted, and its first table can
be reached from the one to create; in a run, from the block that is reported with it.
-/
theorem reported_circle_is_real
    (blocks : List Block) :
    (∀ (Cause World : Type)
        (index : Index)
        (action : Action Cause World)
        (block : Block)
        (session later : Session World)
        (circle : List Text),
      Index.ofBlocks blocks = .ok index →
      KeepsLedger action →
      ensureCreated index action block session = .stopped (.cyclic circle) later →
      ∃ table,
        nameOf? block = some table ∧
          RealCircle (LeadsTo blocks block) table circle ∧
          ∀ name ∈ circle,
            name ∉ session.ledger.names ∧
              name ∉ later.ledger.names ∧
              ∀ attempt ∈ attemptsToCreate index action block session,
                nameOf? attempt.block ≠ some name) ∧
      ∀ connection history result failure,
        (run connection history blocks).result = .ok result →
        result.failure = some failure →
        failure.kind = .cyclicDependency →
        ∃ block table circle,
          block ∈ blocks ∧
            firstDefinition? blocks table = some block ∧
            failure.statement = some block.text ∧
            failure.diagnostic = cyclicMessage circle ∧
            RealCircle (Refers blocks) table circle := by
  constructor
  · intro Cause World index action block session later circle indexed keepsLedger stopped
    exact realCircle_of_ensureCreated indexed keepsLedger stopped
  · intro connection history result failure ran failed kind
    exact exists_realCircle_of_run ran failed kind

/-- A table outside a circle that refers to one of its tables, after one that exists. -/
def Sample.awards : Block :=
  block .createTable 2
    "CREATE TABLE awards (a INT REFERENCES posts (a), b INT REFERENCES badges (a));"

/-- The table outside the circle, and then the circle. -/
def Sample.circularDocument : List Block :=
  [awards, badges, badgedUsers]

/-- A third table leads to the circle of two, which a run of the document reports as well. -/
theorem circle_behind_third_table_is_real :
    RealCircle (LeadsTo Sample.circularDocument Sample.awards) "awards".toList
        ["badges".toList, "users".toList, "badges".toList] ∧
      ∃ table circle, RealCircle (Refers Sample.circularDocument) table circle := by
  have real := reported_circle_is_real Sample.circularDocument
  constructor
  · obtain ⟨index, indexed⟩ : ∃ index, Index.ofBlocks Sample.circularDocument = .ok index :=
      Index.exists_ofBlocks_iff.mpr (by decide +kernel)
    have obstacle :
        (Index.ofBlocks Sample.circularDocument).toOption.map
            (fun index =>
              (ensureCreated index Sample.creating Sample.awards (.start ())).cause?) =
          some (some (.cyclic ["badges".toList, "users".toList, "badges".toList])) := by
      decide +kernel
    rw [indexed] at obstacle
    obtain ⟨table, named, circle, _⟩ :=
      real.1 Empty Unit index Sample.creating Sample.awards (.start ()) _ _ indexed
        Sample.keepsLedger_creating
        (Outcome.eq_stopped_of_cause? (Option.some.inj obstacle))
    have isAwards : nameOf? Sample.awards = some "awards".toList := by
      decide +kernel
    cases named.symm.trans isAwards
    exact circle
  · have kind :
        (run Sample.accepting [] Sample.circularDocument).result.toOption.map
            (fun result => result.failure.map Failure.kind) =
          some (some .cyclicDependency) := by
      decide +kernel
    cases ran : (run Sample.accepting [] Sample.circularDocument).result with
    | error message =>
        rw [ran] at kind
        cases kind
    | ok result =>
        rw [ran] at kind
        obtain ⟨failure, failed, isCyclic⟩ :=
          Option.map_eq_some_iff.mp (Option.some.inj kind)
        obtain ⟨_, table, circle, _, _, _, _, isReal⟩ :=
          real.2 Sample.accepting [] result failure ran failed isCyclic
        exact ⟨table, circle, isReal⟩

end TenantSchema.Applier
