import Mathlib.Data.List.Nodup
import TenantSchema.Proofs.Applier.Attempts
import TenantSchema.Proofs.Table.Circle

namespace TenantSchema.Table

open Applier

/-!
# Creating one table

Someone who wants one table created hands over a block, which need not be the first definition
of its table or even one of the indexed blocks.  For its own table the block itself counts, for
every other table the first definition.  Which steps are taken is decided by the index, the
block and the ledger; an action takes all of them, or is stopped by a cause of its own.
-/

deriving instance DecidableEq for Obstacle

namespace Outcome

variable {Cause World : Type}

/-- The cause that stopped an activity, if it did not come to its end. -/
def cause? : Outcome Cause World → Option Cause
  | .done _ =>
      none
  | .stopped cause _ =>
      some cause

theorem eq_done_of_cause?
    {outcome : Outcome Cause World}
    (ended : outcome.cause? = none) :
    outcome = .done outcome.session := by
  cases outcome with
  | done later =>
      rfl
  | stopped cause later =>
      cases ended

theorem eq_stopped_of_cause?
    {outcome : Outcome Cause World}
    {cause : Cause}
    (stopped : outcome.cause? = some cause) :
    outcome = .stopped cause outcome.session := by
  cases outcome with
  | done later =>
      cases stopped
  | stopped other later =>
      cases stopped
      rfl

end Outcome

/--
The definition that counts for a table when `block` is to be created: the block itself for its
own table, the first definition for any other.
-/
def definitionFor? (blocks : List Block) (block : Block) (name : Text) : Option Block :=
  if nameOf? block = some name then
    some block
  else
    firstDefinition? blocks name

/-- When `block` is to be created, a table refers to another one that the blocks define. -/
def LeadsTo (blocks : List Block) (block : Block) (table reference : Text) : Prop :=
  ∃ definition,
    definitionFor? blocks block table = some definition ∧
      reference ∈ references definition.text ∧
      reference ≠ table ∧
      Defines blocks reference

section

variable
  {blocks : List Block}
  {block definition : Block}
  {table name : Text}

theorem definitionFor?_of_named
    (blocks : List Block)
    (named : nameOf? block = some table) :
    definitionFor? blocks block table = some block :=
  if_pos named

theorem definitionFor?_of_ne
    (blocks : List Block)
    (named : nameOf? block = some table)
    (other : name ≠ table) :
    definitionFor? blocks block name = firstDefinition? blocks name := by
  apply if_neg
  intro itself
  rw [named] at itself
  exact other (Option.some.inj itself).symm

theorem nameOf?_of_definitionFor?
    (counts : definitionFor? blocks block name = some definition) :
    nameOf? definition = some name := by
  unfold definitionFor? at counts
  split at counts
  · rename_i itself
    cases counts
    exact itself
  · exact (of_firstDefinition? counts).2.2

/-- For the first definition of a table no definition but the first ones counts. -/
theorem definitionFor?_of_first
    (first : firstDefinition? blocks table = some block)
    (name : Text) :
    definitionFor? blocks block name = firstDefinition? blocks name := by
  have named := (of_firstDefinition? first).2.2
  by_cases same : name = table
  · rw [same, definitionFor?_of_named blocks named, first]
  · exact definitionFor?_of_ne blocks named same

theorem leadsTo_of_first
    (first : firstDefinition? blocks table = some block) :
    LeadsTo blocks block = Refers blocks := by
  funext name reference
  simp only [LeadsTo, Refers, definitionFor?_of_first first]

theorem related_leadsTo
    {index : Index}
    (indexed : Index.ofBlocks blocks = .ok index)
    (named : nameOf? block = some table) :
    Related (LeadsTo blocks block) index table (references block.text) :=
  fun _ referred other defined =>
    ⟨block, definitionFor?_of_named blocks named, referred, other,
      (Index.mem_names_iff_defines indexed).mp defined⟩

theorem relatedOutside_leadsTo
    {index : Index}
    (indexed : Index.ofBlocks blocks = .ok index)
    (named : nameOf? block = some table) :
    RelatedOutside (LeadsTo blocks block) index [table] := by
  intro name definition outside found reference referred other defined
  refine ⟨definition, ?_, referred, other, ?_⟩
  · rw [definitionFor?_of_ne blocks named (by simpa using outside),
      ← Index.find?_of_ofBlocks indexed, found]
  · exact (Index.mem_names_iff_defines indexed).mp defined

end

/--
The derivations of creating the table of `block` when the ledger lists `known`: the steps in
order, and the circle that ends the work after them, if there is one.
-/
inductive Creation (index : Index) (block : Block) :
    List Text → List Step → Option (List Text) → Prop where
  | present
      {table : Text}
      {known : List Text} :
      nameOf? block = some table →
      table ∈ known →
      Creation index block known [] none
  | created
      {table : Text}
      {known : List Text}
      {inner : List Step} :
      nameOf? block = some table →
      table ∉ known →
      Resolves index [table] table (references block.text) known inner none →
      Creation index block known (inner ++ [.create table block]) none
  | circular
      {table : Text}
      {known : List Text}
      {inner : List Step}
      {circle : List Text} :
      nameOf? block = some table →
      table ∉ known →
      Resolves index [table] table (references block.text) known inner (some circle) →
      Creation index block known inner (some circle)

/-- The table of a block with a name has a derivation. -/
theorem exists_creation
    (index : Index)
    {block : Block}
    {table : Text}
    (named : nameOf? block = some table)
    (known : List Text) :
    ∃ steps circle, Creation index block known steps circle := by
  by_cases present : table ∈ known
  · exact ⟨[], none, .present named present⟩
  · obtain ⟨inner, circle, resolves⟩ :=
      exists_resolves index [table] table (references block.text) known
    cases circle with
    | none =>
        exact ⟨_, none, .created named present resolves⟩
    | some circle =>
        exact ⟨inner, some circle, .circular named present resolves⟩

theorem ensureCreated_of_unnamed
    {Cause World : Type}
    {block : Block}
    (index : Index)
    (action : Action Cause World)
    (session : Session World)
    (unnamed : nameOf? block = none) :
    ensureCreated index action block session = .stopped (.malformed block) session := by
  simp only [ensureCreated, unnamed]

theorem ensureCreated_of_present
    {Cause World : Type}
    {block : Block}
    {table : Text}
    {session : Session World}
    (index : Index)
    (action : Action Cause World)
    (named : nameOf? block = some table)
    (present : table ∈ session.ledger.names) :
    ensureCreated index action block session = .done session := by
  simp only [ensureCreated, named, if_pos present]

namespace Creation

section

variable
  {blocks : List Block}
  {index : Index}
  {block : Block}
  {known : List Text}
  {steps : List Step}
  {circle : Option (List Text)}

/-- No table is created twice, and none that was known before. -/
theorem nodup
    (creation : Creation index block known steps circle)
    (distinctKnown : known.Nodup) :
    (known ++ createdNames steps).Nodup := by
  cases creation with
  | present =>
      simpa using distinctKnown
  | @created table _ inner named missing resolves =>
      have distinct := resolves.orderly.nodup distinctKnown
      have fresh : table ∉ known ++ createdNames inner := by
        rw [List.mem_append, not_or]
        refine ⟨missing, ?_⟩
        intro created
        exact resolves.not_mem_path created (by simp)
      rw [createdNames_append, createdNames_create, createdNames_nil, ← List.append_assoc]
      exact List.nodup_append_comm.mp (List.nodup_cons.mpr ⟨fresh, distinct⟩)
  | circular named missing resolves =>
      exact resolves.orderly.nodup distinctKnown

/-- A resolution hands over the first definitions of other tables, and creates these. -/
theorem step_of_resolves
    {table : Text}
    {step : Step}
    {definition : Block}
    (indexed : Index.ofBlocks blocks = .ok index)
    (resolves : Resolves index [table] table (references block.text) known steps circle)
    (member : step ∈ steps)
    (isBlock : step.block? = some definition) :
    ∃ name,
      step = .create name definition ∧
        name ≠ table ∧
        firstDefinition? blocks name = some definition := by
  cases step with
  | say entry =>
      cases isBlock
  | run other =>
      have ran : other ∈ ranBlocks steps :=
        List.mem_filterMap.mpr ⟨.run other, member, rfl⟩
      rw [resolves.ranBlocks_eq_nil] at ran
      cases ran
  | create name other =>
      cases isBlock
      have created : name ∈ createdNames steps :=
        List.mem_filterMap.mpr ⟨.create name definition, member, rfl⟩
      have outsidePath := resolves.not_mem_path created
      have found := resolves.orderly.find?_of_mem member
      rw [Index.find?_of_ofBlocks indexed] at found
      exact ⟨name, rfl, by simpa using outsidePath, found⟩

/-- What is handed over is the definition that counts for the table that it creates. -/
theorem step_cases
    {step : Step}
    {definition : Block}
    (creation : Creation index block known steps circle)
    (indexed : Index.ofBlocks blocks = .ok index)
    (member : step ∈ steps)
    (isBlock : step.block? = some definition) :
    ∃ name,
      step = .create name definition ∧
        definitionFor? blocks block name = some definition := by
  have ofResolves
      {table : Text}
      {inner : List Step}
      (named : nameOf? block = some table)
      (resolves : Resolves index [table] table (references block.text) known inner circle)
      (inInner : step ∈ inner) :
      ∃ name,
        step = .create name definition ∧
          definitionFor? blocks block name = some definition := by
    obtain ⟨name, rfl, other, first⟩ := step_of_resolves indexed resolves inInner isBlock
    exact ⟨name, rfl, (definitionFor?_of_ne blocks named other).trans first⟩
  cases creation with
  | present =>
      cases member
  | created named _ resolves =>
      rcases List.mem_append.mp member with inInner | isLast
      · exact ofResolves named resolves inInner
      · cases List.mem_singleton.mp isLast
        cases isBlock
        exact ⟨_, rfl, definitionFor?_of_named blocks named⟩
  | circular named _ resolves =>
      exact ofResolves named resolves member

/-- A table is created by the definition that counts for it. -/
theorem definitionFor?_of_create
    {name : Text}
    {definition : Block}
    (creation : Creation index block known steps circle)
    (indexed : Index.ofBlocks blocks = .ok index)
    (member : .create name definition ∈ steps) :
    definitionFor? blocks block name = some definition := by
  obtain ⟨_, same, counts⟩ := creation.step_cases indexed member rfl
  cases same
  exact counts

/-- A block that is handed over creates its own table. -/
theorem create_of_handedOver
    {name : Text}
    {definition : Block}
    (creation : Creation index block known steps circle)
    (indexed : Index.ofBlocks blocks = .ok index)
    (handed : definition ∈ handedOver steps)
    (named : nameOf? definition = some name) :
    .create name definition ∈ steps := by
  obtain ⟨step, member, isBlock⟩ := List.mem_filterMap.mp handed
  obtain ⟨itself, rfl, counts⟩ := creation.step_cases indexed member isBlock
  cases named.symm.trans (nameOf?_of_definitionFor? counts)
  exact member

/-- The definitions that are handed over bear the names of the tables that are created. -/
theorem map_nameOf?_handedOver
    {steps leading trailing : List Step}
    (creation : Creation index block known steps circle)
    (indexed : Index.ofBlocks blocks = .ok index)
    (split : steps = leading ++ trailing) :
    (handedOver leading).map nameOf? = (createdNames leading).map some := by
  have handsOver (step : Step) (member : step ∈ leading) :
      step.block?.map nameOf? = step.created?.map some := by
    cases isBlock : step.block? with
    | none =>
        cases step with
        | say entry =>
            rfl
        | run other | create name other =>
            cases isBlock
    | some definition =>
        have inSteps : step ∈ steps := by
          rw [split]
          exact List.mem_append_left _ member
        obtain ⟨name, rfl, counts⟩ := creation.step_cases indexed inSteps isBlock
        exact congrArg some (nameOf?_of_definitionFor? counts)
  rw [handedOver, createdNames, List.map_filterMap, List.map_filterMap]
  exact List.filterMap_congr handsOver

end

variable
  {Cause World : Type}
  {index : Index}
  {action : Action Cause World}
  {block : Block}
  {steps : List Step}
  {circle : Option (List Text)}

/-- An action that leaves the ledger alone takes the steps of the derivation. -/
theorem ensureCreated_eq
    (keepsLedger : KeepsLedger action)
    {session : Session World}
    (creation : Creation index block session.ledger.names steps circle) :
    ensureCreated index action block session =
      (perform action steps session).andThen (conclude circle) := by
  cases creation with
  | present named present =>
      exact ensureCreated_of_present index action named present
  | created named missing resolves =>
      rw [ensureCreated_of_resolves keepsLedger named missing resolves]
      cases perform action _ session <;> rfl
  | circular named missing resolves =>
      exact ensureCreated_of_circle keepsLedger named missing resolves

end Creation

section

variable {Cause World : Type}

/-- The attempts that are made to create the table of a block, in order. -/
def attemptsToCreate
    (index : Index)
    (action : Action Cause World)
    (block : Block)
    (session : Session World) :
    List Attempt :=
  (ensureCreated index (watched action) block
    (withAttempts session [])).session.world.2

/-- The blocks that the action accepted when the table of a block was created, in order. -/
def acceptedBlocks
    (index : Index)
    (action : Action Cause World)
    (block : Block)
    (session : Session World) :
    List Block :=
  ((attemptsToCreate index action block session).filter Attempt.succeeded).map
    Attempt.block

theorem map_block_filter_attemptsOf
    (known : List Text)
    (steps : List Step) :
    ((attemptsOf known steps).filter Attempt.succeeded).map Attempt.block =
      handedOver steps := by
  have allSucceeded :
      (attemptsOf known steps).filter Attempt.succeeded = attemptsOf known steps :=
    List.filter_eq_self.mpr
      (fun attempt member => succeeded_of_mem_attemptsOf member)
  rw [allSucceeded, map_block_attemptsOf]

/-- Watching the action changes nothing in how a table is created. -/
theorem ensureCreated_watched
    {index : Index}
    {action : Action Cause World}
    {block : Block}
    {steps : List Step}
    {circle : Option (List Text)}
    (keepsLedger : KeepsLedger action)
    (session : Session (World × List Attempt))
    (creation : Creation index block session.ledger.names steps circle) :
    outcomeWithoutAttempts (ensureCreated index (watched action) block session) =
      ensureCreated index action block (withoutAttempts session) := by
  have plain :
      Creation index block (withoutAttempts session).ledger.names steps circle :=
    creation
  rw [creation.ensureCreated_eq (keepsLedger_watched keepsLedger),
    plain.ensureCreated_eq keepsLedger, ← perform_watched]
  cases perform (watched action) steps session with
  | stopped obstacle later =>
      rfl
  | done later =>
      cases circle <;> rfl

/--
Creating a table comes to the end of its derivation, or is interrupted where the action stops
on the block of one of the steps, after those before it were taken.
-/
theorem Creation.cases_of_action
    {index : Index}
    {action : Action Cause World}
    {block : Block}
    {steps : List Step}
    {circle : Option (List Text)}
    {session : Session World}
    (keepsLedger : KeepsLedger action)
    (creation : Creation index block session.ledger.names steps circle) :
    (∃ later,
      ensureCreated index action block session = conclude circle later ∧
        later.ledger.names = session.ledger.names ++ createdNames steps ∧
        attemptsToCreate index action block session =
          attemptsOf session.ledger.names steps) ∨
      ∃ before step after failing middle cause later,
        steps = before ++ step :: after ∧
          step.block? = some failing ∧
          action failing middle = .stopped cause later ∧
          ensureCreated index action block session = .stopped (.action cause) later ∧
          later.ledger.names = session.ledger.names ++ createdNames before ∧
          attemptsToCreate index action block session =
            attemptsOf session.ledger.names before ++
              [⟨failing, session.ledger.names ++ createdNames before, false⟩] := by
  have keepsWatched := keepsLedger_watched keepsLedger
  have plain := ensureCreated_watched keepsLedger (withAttempts session []) creation
  have watching :
      ensureCreated index (watched action) block (withAttempts session []) =
        (perform (watched action) steps (withAttempts session [])).andThen
          (conclude circle) :=
    creation.ensureCreated_eq keepsWatched
  have distinct :
      ((withAttempts session []).ledger.names ++ createdNames steps).Nodup :=
    creation.nodup session.ledger.namesDistinct
  unfold attemptsToCreate
  rw [watching] at plain ⊢
  rcases perform_cases keepsWatched distinct with
    ⟨later, performed⟩ |
    ⟨before, step, failing, after, middle, cause, later,
      shape, isBlock, leading, stopped, performed⟩
  · have names := ledger_of_perform keepsWatched performed
    have made := attempts_of_perform keepsLedger performed
    rw [performed, Outcome.done_andThen] at plain ⊢
    refine .inl ⟨withoutAttempts later, plain.symm.trans ?_, names, ?_⟩
    · cases circle <;> rfl
    · cases circle <;> exact made
  · have names := ledger_of_perform keepsWatched leading
    have made := attempts_of_perform keepsLedger leading
    rw [performed] at plain ⊢
    refine .inr ⟨before, step, after, failing, _, cause, withoutAttempts later,
      shape, isBlock, of_watched_stopped stopped, plain.symm, ?_, ?_⟩
    · exact (congrArg Ledger.names (keepsWatched.of_stopped stopped)).trans names
    · have failed := attempts_of_watched_stopped stopped
      rw [made, names] at failed
      exact failed

end

end TenantSchema.Table

namespace TenantSchema.Applier.Sample

open Table

/-- An action that creates every table and does nothing else. -/
def creating : Table.Action Empty Unit :=
  fun _ session => .done session

theorem keepsLedger_creating : KeepsLedger creating :=
  fun _ _ => rfl

end TenantSchema.Applier.Sample
