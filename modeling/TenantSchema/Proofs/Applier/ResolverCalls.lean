import Mathlib.Data.List.Flatten
import Mathlib.Data.List.Perm.Subperm
import TenantSchema.Proofs.Applier.Coverage
import TenantSchema.Proofs.Resolution.SingleWalks

namespace TenantSchema.Applier

open Table

/-!
# What resolving costs a run

A run asks for one table after the other, and each time the resolution starts with an empty
path.  What ties the resolutions together is the ledger: a table whose references were gone
through is listed when the next block is applied, or the run has ended.  So a run goes through
the references of each table at most once, and it goes through those of its first definition.
-/

section

variable {Cause World : Type}

/-- Whether applying a block asks for a table that the ledger does not list. -/
def asksForTable (session : Session World) (block : Block) : Bool :=
  Index.isDefinition block &&
    (nameOf? block).any fun table => decide (table ∉ session.ledger.names)

/-- Apply one block with calls that nest at most `depth` deep. -/
def exploreBlock
    (index : Index)
    (action : Action Cause World)
    (depth : Nat)
    (block : Block)
    (session : Session World) :
    Option (Exploration (Obstacle Cause) World) :=
  if asksForTable session block = true then
    exploreWithin index action depth [] block session
  else
    some { calls := [], outcome := applyBlock index action block session }

/-- Stop a document with the obstacle that a block met, if it met one. -/
def haltAt (block : Block) : Outcome (Obstacle Cause) World → Outcome (Halt Cause) World
  | .done later =>
      .done later
  | .stopped obstacle later =>
      .stopped { block := block, obstacle := obstacle } later

/-- Apply the blocks in order with calls that nest at most `depth` deep. -/
def exploreEach
    (index : Index)
    (action : Action Cause World)
    (depth : Nat) :
    List Block → Session World → Option (Exploration (Halt Cause) World)
  | [], session =>
      some { calls := [], outcome := .done session }
  | block :: rest, session =>
      (exploreBlock index action depth block session).bind fun first =>
        Exploration.goOn
          { calls := first.calls, outcome := haltAt block first.outcome }
          (exploreEach index action depth rest)

variable
  {index : Index}
  {action : Action Cause World}
  {depth : Nat}
  {block : Block}
  {blocks : List Block}
  {session : Session World}

theorem asksForTable_eq_true
    (asks : asksForTable session block = true) :
    Index.isDefinition block = true ∧
      ∃ table, nameOf? block = some table ∧ table ∉ session.ledger.names := by
  simpa [asksForTable, Option.any_eq_true] using asks

theorem listed_of_not_asksForTable
    (asksNot : ¬ asksForTable session block = true)
    (definition : Index.isDefinition block = true)
    {table : Text}
    (named : nameOf? block = some table) :
    table ∈ session.ledger.names := by
  simpa [asksForTable, definition, named] using asksNot

theorem eq_done_of_haltAt
    {outcome : Outcome (Obstacle Cause) World}
    {later : Session World}
    (ended : haltAt block outcome = .done later) :
    outcome = .done later := by
  cases outcome with
  | done session =>
      cases ended
      rfl
  | stopped obstacle session =>
      cases ended

/--
Applying blocks is applying the first one and going on with the others, unless it met an
obstacle.
-/
theorem exploreEach_cons_cases
    {exploration : Exploration (Halt Cause) World}
    (finished :
      exploreEach index action depth (block :: blocks) session = some exploration) :
    ∃ first,
      exploreBlock index action depth block session = some first ∧
        (exploration = {
            calls := first.calls
            outcome := haltAt block first.outcome
          } ∨
          ∃ later second,
            first.outcome = .done later ∧
              exploreEach index action depth blocks later = some second ∧
              exploration = {
                calls := first.calls ++ second.calls
                outcome := second.outcome
              }) := by
  rw [exploreEach] at finished
  obtain ⟨first, explored, continued⟩ := Option.bind_eq_some_iff.mp finished
  refine ⟨first, explored, ?_⟩
  rcases Exploration.eq_of_goOn continued with
    ⟨_, _, _, same⟩ | ⟨later, second, ended, further, same⟩
  · exact .inl same
  · exact .inr ⟨later, second, eq_done_of_haltAt ended, further, same⟩

/-! ## Agreement -/

theorem exists_calls_of_applyBlock
    (consistent : index.IsConsistent)
    (action : Action Cause World)
    (block : Block)
    (session : Session World) :
    ∃ calls,
      ∀ depth,
        index.names.length + 2 ≤ depth →
        exploreBlock index action depth block session = some {
          calls := calls
          outcome := applyBlock index action block session
        } := by
  unfold exploreBlock
  by_cases asks : asksForTable session block = true
  · obtain ⟨definition, table, named, missing⟩ := asksForTable_eq_true asks
    simp only [if_pos asks, applyBlock_of_missing definition named missing]
    exact exists_calls_of_ensureCreated consistent action block session
  · simp only [if_neg asks]
    exact ⟨[], fun _ _ => rfl⟩

/-- Applying blocks needs two levels more than there are tables. -/
theorem exists_calls_of_applyEach
    (consistent : index.IsConsistent)
    (action : Action Cause World)
    (blocks : List Block)
    (session : Session World) :
    ∃ calls,
      ∀ depth,
        index.names.length + 2 ≤ depth →
        exploreEach index action depth blocks session = some {
          calls := calls
          outcome := applyEach index action blocks session
        } := by
  induction blocks generalizing session with
  | nil =>
      exact ⟨[], fun _ _ => rfl⟩
  | cons block rest inductionHypothesis =>
      obtain ⟨calls, explored⟩ :=
        exists_calls_of_applyBlock consistent action block session
      simp only [exploreEach, applyEach]
      cases applied : applyBlock index action block session with
      | stopped obstacle later =>
          refine ⟨calls, fun depth deepEnough => ?_⟩
          rw [explored depth deepEnough, applied]
          rfl
      | done later =>
          obtain ⟨further, continued⟩ := inductionHypothesis later
          refine ⟨calls ++ further, fun depth deepEnough => ?_⟩
          rw [explored depth deepEnough, applied]
          simp [Exploration.goOn, haltAt, continued depth deepEnough]

/-! ## The calls of a document -/

theorem mem_calls_of_exploreBlock
    {exploration : Exploration (Obstacle Cause) World}
    (finished : exploreBlock index action depth block session = some exploration)
    {call : ResolverCall}
    (member : call ∈ exploration.calls) :
    asksForTable session block = true ∧
      exploreWithin index action depth [] block session = some exploration := by
  unfold exploreBlock at finished
  by_cases asks : asksForTable session block = true
  · rw [if_pos asks] at finished
    exact ⟨asks, finished⟩
  · rw [if_neg asks] at finished
    cases finished
    cases member

/-- Applying a block takes nothing out of the ledger if running blocks does not. -/
theorem subset_ledger_of_applyBlock
    (adds : AddsToLedger action)
    (asksNot : ¬ asksForTable session block = true) :
    session.ledger.names ⊆
      (applyBlock index action block session).session.ledger.names := by
  rcases block_cases block with passed | definition | other
  · rw [applyBlock_of_passed passed]
    exact List.Subset.refl _
  · have kind := kind_of_isDefinition definition
    cases named : nameOf? block with
    | none =>
        rw [applyBlock, if_neg kind.2, if_pos kind.1]
        simp only [named]
        exact List.Subset.refl _
    | some table =>
        have listed := listed_of_not_asksForTable asksNot definition named
        rw [applyBlock_of_present definition named listed]
        exact List.Subset.refl _
  · have kept := adds block session
    rw [applyBlock_of_other other, performStep]
    cases acted : action block session <;> rw [acted] at kept <;> exact kept

theorem walksOnce_of_exploreBlock
    (adds : AddsToLedger action)
    {exploration : Exploration (Obstacle Cause) World}
    (finished : exploreBlock index action depth block session = some exploration) :
    exploration.WalksOnce session := by
  unfold exploreBlock at finished
  split at finished
  · exact walksOnce_of_exploreWithin adds List.nodup_nil finished
  · rename_i asksNot
    cases finished
    exact Exploration.walksOnce_of_nothing rfl
      (subset_ledger_of_applyBlock adds asksNot)

theorem walksOnce_haltAt
    {first : Exploration (Obstacle Cause) World}
    (once : first.WalksOnce session)
    (block : Block) :
    Exploration.WalksOnce session {
      calls := first.calls
      outcome := haltAt block first.outcome
    } where
  distinct := once.distinct
  fresh := once.fresh
  recorded := fun later ended => once.recorded later (eq_done_of_haltAt ended)

theorem walksOnce_of_exploreEach
    (adds : AddsToLedger action)
    {exploration : Exploration (Halt Cause) World}
    (finished : exploreEach index action depth blocks session = some exploration) :
    exploration.WalksOnce session := by
  induction blocks generalizing session exploration with
  | nil =>
      cases finished
      exact Exploration.walksOnce_of_nothing rfl (List.Subset.refl _)
  | cons block rest inductionHypothesis =>
      obtain ⟨first, explored, rest⟩ := exploreEach_cons_cases finished
      have once := walksOnce_haltAt (walksOnce_of_exploreBlock adds explored) block
      rcases rest with rfl | ⟨later, second, ended, further, rfl⟩
      · exact once
      · exact once.append (by rw [ended]; rfl) (inductionHypothesis further)

/-- A definition that was applied left its table in the ledger. -/
theorem listed_of_exploreBlock
    (adds : AddsToLedger action)
    {exploration : Exploration (Obstacle Cause) World}
    (finished : exploreBlock index action depth block session = some exploration)
    {later : Session World}
    (ended : exploration.outcome = .done later)
    (definition : Index.isDefinition block = true)
    {table : Text}
    (named : nameOf? block = some table) :
    table ∈ later.ledger.names := by
  have once := walksOnce_of_exploreBlock adds finished
  apply once.recorded later ended
  rw [List.mem_append]
  unfold exploreBlock at finished
  split at finished
  · cases depth with
    | zero =>
        cases finished
    | succ depth =>
        rcases exploreWithin_cases finished with
          ⟨_, _, listed⟩ | ⟨walked, _, walkedNamed, _, _, _, rfl⟩
        · obtain ⟨other, otherNamed, listed⟩ := listed later ended
          cases named.symm.trans otherNamed
          exact .inl listed
        · cases named.symm.trans walkedNamed
          exact .inr (by simp)
  · rename_i asksNot
    exact .inl (listed_of_not_asksForTable asksNot definition named)

/--
A call under a block whose table the blocks before it do not define goes through the
references of the first definition of a table.
-/
theorem first_of_isUnder
    {before after : List Block}
    (indexed : Index.ofBlocks (before ++ block :: after) = .ok index)
    (definition : Index.isDefinition block = true)
    {name : Text}
    (named : nameOf? block = some name)
    (undefinedBefore : ¬ Defines before name)
    {call : ResolverCall}
    (under : call.IsUnder index depth [] block)
    {table : Text}
    (walked : call.walked = some table) :
    firstDefinition? (before ++ block :: after) table = some call.block := by
  have walkedNamed := under.named table walked
  rcases under.origin with same | ⟨other, found⟩
  · rw [same, named] at walkedNamed
    cases walkedNamed
    have noneBefore : firstDefinition? before name = none := by
      rw [← Option.not_isSome_iff_eq_none, firstDefinition?_isSome_iff]
      exact undefinedBefore
    unfold firstDefinition? at noneBefore
    rw [same, firstDefinition?, List.find?_append, noneBefore, Option.none_or]
    exact firstDefinition?_cons_of_defines definition named
  · cases (Index.isConsistent_of_ofBlocks indexed other call.block found).symm.trans
      walkedNamed
    rw [← Index.find?_of_ofBlocks indexed]
    exact found

/--
Every call of a document was made under one of its blocks, for a table that neither the ledger
listed at first nor a block before it defines.  The induction is on the blocks; the ledger that
one leaves lists its table.
-/
theorem exists_block_of_exploreEach
    (adds : AddsToLedger action)
    {exploration : Exploration (Halt Cause) World}
    (finished : exploreEach index action depth blocks session = some exploration)
    {call : ResolverCall}
    (member : call ∈ exploration.calls) :
    ∃ before block after name,
      blocks = before ++ block :: after ∧
        Index.isDefinition block = true ∧
        nameOf? block = some name ∧
        name ∉ session.ledger.names ∧
        ¬ Defines before name ∧
        call.IsUnder index depth [] block := by
  induction blocks generalizing session exploration with
  | nil =>
      cases finished
      cases member
  | cons block rest inductionHypothesis =>
      obtain ⟨first, explored, remaining⟩ := exploreEach_cons_cases finished
      have ofFirst (made : call ∈ first.calls) :
          ∃ name,
            Index.isDefinition block = true ∧
              nameOf? block = some name ∧
              name ∉ session.ledger.names ∧
              ¬ Defines [] name ∧
              call.IsUnder index depth [] block := by
        obtain ⟨asks, within⟩ := mem_calls_of_exploreBlock explored made
        obtain ⟨definition, name, named, missing⟩ := asksForTable_eq_true asks
        exact ⟨name, definition, named, missing, by rintro ⟨_, ⟨⟩, _⟩,
          isUnder_of_exploreWithin within made⟩
      rcases remaining with rfl | ⟨later, second, ended, further, rfl⟩
      · obtain ⟨name, made⟩ := ofFirst member
        exact ⟨[], block, rest, name, rfl, made⟩
      · rcases List.mem_append.mp member with made | made
        · obtain ⟨name, made⟩ := ofFirst made
          exact ⟨[], block, rest, name, rfl, made⟩
        · obtain ⟨before, current, after, name, rfl, isCurrent, namedCurrent, missing,
            undefinedBefore, under⟩ := inductionHypothesis further made
          have kept := (walksOnce_of_exploreBlock adds explored).recorded later ended
          refine ⟨block :: before, current, after, name, rfl, isCurrent, namedCurrent,
            fun listed => missing (kept (List.mem_append_left _ listed)), ?_, under⟩
          rintro ⟨definition, among, isDefinition, named⟩
          rcases List.mem_cons.mp among with rfl | earlier
          · exact missing (listed_of_exploreBlock adds explored ended isDefinition named)
          · exact undefinedBefore ⟨definition, earlier, isDefinition, named⟩

/-- A document goes through the references of first definitions only. -/
theorem first_of_exploreEach
    (adds : AddsToLedger action)
    (indexed : Index.ofBlocks blocks = .ok index)
    {exploration : Exploration (Halt Cause) World}
    (finished : exploreEach index action depth blocks session = some exploration)
    {call : ResolverCall}
    (member : call ∈ exploration.calls)
    {table : Text}
    (walked : call.walked = some table) :
    firstDefinition? blocks table = some call.block := by
  obtain ⟨before, block, after, name, rfl, definition, named, _, undefinedBefore, under⟩ :=
    exists_block_of_exploreEach adds finished member
  exact first_of_isUnder indexed definition named undefinedBefore under walked

/-- Each block of a document makes one call, and each reference gone through makes one. -/
theorem length_calls_of_exploreEach
    {exploration : Exploration (Halt Cause) World}
    (finished : exploreEach index action depth blocks session = some exploration) :
    exploration.calls.length ≤
      blocks.countP (fun block => block.kind = .createTable) +
        (followedReferences exploration.calls).length := by
  induction blocks generalizing session exploration with
  | nil =>
      cases finished
      simp
  | cons block rest inductionHypothesis =>
      obtain ⟨first, explored, remaining⟩ := exploreEach_cons_cases finished
      have ofFirst :
          first.calls.length ≤
            (if block.kind = .createTable then 1 else 0) +
              (followedReferences first.calls).length := by
        unfold exploreBlock at explored
        split at explored
        · rename_i asks
          have definition := (asksForTable_eq_true asks).1
          rw [if_pos (kind_of_isDefinition definition).1]
          exact length_calls_of_exploreWithin explored
        · cases explored
          simp
      rw [List.countP_cons]
      simp only [decide_eq_true_eq]
      rcases remaining with rfl | ⟨later, second, _, further, rfl⟩
      · dsimp only
        omega
      · have others := inductionHypothesis further
        simp only [List.length_append, followedReferences_append]
        omega

/-- The references of the first definitions, one definition after the other. -/
def firstReferences (blocks : List Block) : List Text :=
  (firstDefinitions blocks).flatMap fun definition => references definition.text

/-- Calls that go through the references of first definitions, each once, go through few. -/
theorem length_followedReferences_le
    {calls : List ResolverCall}
    (once : (walkedTables calls).Nodup)
    (first :
      ∀ call ∈ calls, ∀ table,
        call.walked = some table →
        firstDefinition? blocks table = some call.block) :
    (followedReferences calls).length ≤ (firstReferences blocks).length := by
  have asDefinitions :
      followedReferences calls =
        ((walkedTables calls).filterMap (firstDefinition? blocks)).flatMap
          fun definition => references definition.text := by
    clear once
    induction calls with
    | nil =>
        rfl
    | cons call rest inductionHypothesis =>
        have ofRest := inductionHypothesis
          (fun other member => first other (List.mem_cons_of_mem _ member))
        rw [followedReferences_cons, walkedTables_cons, ofRest, ResolverCall.followed]
        cases walked : call.walked with
        | none =>
            simp
        | some table =>
            have found := first call (by simp) table walked
            simp [found]
  have defined : walkedTables calls ⊆ tableNames blocks := by
    intro table walkedTable
    obtain ⟨call, member, walked⟩ := mem_walkedTables_iff.mp walkedTable
    rw [mem_tableNames_iff, ← firstDefinition?_isSome_iff, first call member table walked]
    rfl
  obtain ⟨reordered, permuted, among⟩ := once.subperm defined
  rw [asDefinitions, ← ((permuted.filterMap _).flatMap_right _).length_eq]
  exact ((among.filterMap _).flatMap _).length_le

end

/-! ## The calls of a run -/

section

variable
  {blocks : List Block}
  {index : Index}
  {connection : Connection}
  {history : History}

theorem nodup_names_of_addAll
    {before after : Index}
    (distinct : before.names.Nodup)
    (added : before.addAll blocks = .ok after) :
    after.names.Nodup := by
  induction blocks generalizing before with
  | nil =>
      cases added
      exact distinct
  | cons block rest inductionHypothesis =>
      rw [Index.addAll] at added
      split at added
      · split at added
        · cases added
        · rename_i name _
          refine inductionHypothesis ?_ added
          unfold Index.add
          split
          · exact distinct
          · rename_i fresh
            simpa [Index.names] using distinct.concat fresh
      · exact inductionHypothesis distinct added

/-- The index of some blocks has as many entries as the blocks define tables. -/
theorem length_names_of_ofBlocks
    (indexed : Index.ofBlocks blocks = .ok index) :
    index.names.length = (tableNames blocks).length := by
  have empty : (Index.mk []).names.Nodup := List.nodup_nil
  have distinct := nodup_names_of_addAll empty indexed
  refine ((List.perm_ext_iff_of_nodup distinct (nodup_tableNames blocks)).mpr ?_).length_eq
  intro name
  rw [Index.mem_names_iff_defines indexed, mem_tableNames_iff]

/-- What a run comes to when applying its blocks came to an outcome. -/
def Run.ofOutcome
    (connection : Connection) :
    Outcome (Halt ExecutionFault) Execution → Run
  | .stopped halt later =>
      .halt connection later halt
  | .done later =>
      {
        result := .ok {
          failure := none
          createdTables := later.ledger.names
          executedStatements := later.world.executed
        }
        history := later.world.history
        notes :=
          later.notes ++
            [.applied later.world.executed later.ledger.names.length]
      }

/-- Make a run with calls that nest at most `depth` deep, and list the calls. -/
def exploreRun
    (depth : Nat)
    (connection : Connection)
    (history : History)
    (blocks : List Block) :
    Option (List ResolverCall × Run) :=
  let session : Session Execution := .start ⟨history, 0⟩
  match Index.ofBlocks blocks with
  | .error block =>
      some ([], .halt connection session { block := block, obstacle := .malformed block })
  | .ok index =>
      (exploreEach index (execute connection) depth blocks session).map
        fun exploration =>
          (exploration.calls, .ofOutcome connection exploration.outcome)

theorem run_eq_ofOutcome
    (connection : Connection)
    (history : History)
    (indexed : Index.ofBlocks blocks = .ok index) :
    run connection history blocks =
      .ofOutcome connection
        (applyEach index (execute connection) blocks (.start ⟨history, 0⟩)) := by
  simp only [run, indexed]
  cases applyEach index (execute connection) blocks (.start ⟨history, 0⟩) <;> rfl

/-- A call within a limit stays within it, and no table is under way twice. -/
theorem distinct_of_isUnder
    {limit : Nat}
    {call : ResolverCall}
    {block : Block}
    (under : call.IsUnder index limit [] block) :
    call.underWay.Nodup ∧ call.path.length + 1 ≤ limit := by
  have shallow := under.shallow
  rw [List.length_nil, Nat.zero_add] at shallow
  exact ⟨under.distinct List.nodup_nil, shallow⟩

/--
Whatever the references of a script look like and however a block is run, creating a table
needs calls that nest two levels deeper than there are tables, at most, and no path repeats a
table.  While running blocks only adds to the ledger, no table's references are gone through
twice.  Nor are they in a whole run, which goes through those of first definitions and makes
at most one call for each table definition and one for each of these references.
-/
theorem each_reference_list_is_walked_once (blocks : List Block) :
    (∀ index,
      Index.ofBlocks blocks = .ok index →
      ∀ {Cause World : Type}
          (action : Action Cause World)
          (block : Block)
          (session : Session World),
        ∃ calls,
          (∀ depth,
            (tableNames blocks).length + 2 ≤ depth →
            exploreWithin index action depth [] block session = some {
              calls := calls
              outcome := ensureCreated index action block session
            }) ∧
          (∀ call ∈ calls,
            call.underWay.Nodup ∧
              call.path.length + 1 ≤ (tableNames blocks).length + 2) ∧
          (AddsToLedger action → (walkedTables calls).Nodup)) ∧
      ∀ connection history,
        ∃ calls,
          (∀ depth,
            (tableNames blocks).length + 2 ≤ depth →
            exploreRun depth connection history blocks =
              some (calls, run connection history blocks)) ∧
          (∀ call ∈ calls,
            call.underWay.Nodup ∧
              call.path.length + 1 ≤ (tableNames blocks).length + 2) ∧
          (walkedTables calls).Nodup ∧
          (∀ call ∈ calls, ∀ table,
            call.walked = some table →
            firstDefinition? blocks table = some call.block) ∧
          calls.length ≤
            blocks.countP (fun block => block.kind = .createTable) +
              (firstReferences blocks).length := by
  constructor
  · intro index indexed Cause World action block session
    obtain ⟨calls, explored⟩ :=
      exists_calls_of_ensureCreated (Index.isConsistent_of_ofBlocks indexed) action block
        session
    rw [length_names_of_ofBlocks indexed] at explored
    have atLimit := explored _ (Nat.le_refl _)
    refine ⟨calls, explored, ?_, ?_⟩
    · intro call member
      exact distinct_of_isUnder (isUnder_of_exploreWithin atLimit member)
    · intro adds
      exact (walksOnce_of_exploreWithin adds List.nodup_nil atLimit).distinct
  · intro connection history
    cases indexed : Index.ofBlocks blocks with
    | error block =>
        -- A document with a definition that names no table makes no call.
        refine ⟨[], ?_, by simp, List.nodup_nil, by simp, Nat.zero_le _⟩
        intro depth _
        rw [exploreRun, run, indexed]
    | ok index =>
        have adds := (keepsLedger_execute connection).addsToLedger
        obtain ⟨calls, explored⟩ :=
          exists_calls_of_applyEach (Index.isConsistent_of_ofBlocks indexed)
            (execute connection) blocks (.start ⟨history, 0⟩)
        rw [length_names_of_ofBlocks indexed] at explored
        have atLimit := explored _ (Nat.le_refl _)
        have once : (walkedTables calls).Nodup :=
          (walksOnce_of_exploreEach adds atLimit).distinct
        have first (call : ResolverCall) (member : call ∈ calls) (table : Text)
            (walked : call.walked = some table) :
            firstDefinition? blocks table = some call.block :=
          first_of_exploreEach adds indexed atLimit member walked
        refine ⟨calls, ?_, ?_, once, first, ?_⟩
        · intro depth deepEnough
          simp only [exploreRun, indexed, explored depth deepEnough,
            run_eq_ofOutcome connection history indexed, Option.map_some]
        · intro call member
          obtain ⟨_, _, _, _, _, _, _, _, _, under⟩ :=
            exists_block_of_exploreEach adds atLimit member
          exact distinct_of_isUnder under
        · have counted := length_calls_of_exploreEach atLimit
          have bounded := length_followedReferences_le once first
          dsimp only at counted
          omega

/-- Three definitions with one reference are resolved by at most four calls. -/
theorem sample_document_is_walked_once :
    ∃ index calls,
      Index.ofBlocks Sample.document = .ok index ∧
        (∀ block ∈ Sample.document,
          ∃ ofBlock,
            exploreWithin index (execute Sample.accepting) 4 [] block
                (.start ⟨[], 0⟩) = some {
              calls := ofBlock
              outcome :=
                ensureCreated index (execute Sample.accepting) block (.start ⟨[], 0⟩)
            } ∧
              (walkedTables ofBlock).Nodup) ∧
        exploreRun 4 Sample.accepting [] Sample.document =
          some (calls, run Sample.accepting [] Sample.document) ∧
        (walkedTables calls).Nodup ∧
        calls.length ≤ 4 := by
  obtain ⟨index, indexed⟩ : ∃ index, Index.ofBlocks Sample.document = .ok index :=
    Index.exists_ofBlocks_iff.mpr (by decide +kernel)
  obtain ⟨ofTable, ofRun⟩ := each_reference_list_is_walked_once Sample.document
  obtain ⟨calls, agrees, _, once, _, few⟩ := ofRun Sample.accepting []
  have limit : (tableNames Sample.document).length + 2 ≤ 4 := by
    decide +kernel
  have count :
      Sample.document.countP (fun block => block.kind = .createTable) +
        (firstReferences Sample.document).length = 4 := by
    decide +kernel
  refine ⟨index, calls, indexed, ?_, agrees 4 limit, once, count ▸ few⟩
  intro block _
  obtain ⟨ofBlock, explored, _, distinct⟩ :=
    ofTable index indexed (execute Sample.accepting) block (.start ⟨[], 0⟩)
  exact ⟨ofBlock, explored 4 limit,
    distinct (keepsLedger_execute Sample.accepting).addsToLedger⟩

end

end TenantSchema.Applier
