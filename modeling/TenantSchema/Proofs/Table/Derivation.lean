import TenantSchema.Table.Resolution

namespace TenantSchema.Table

/-!
# Derivations of a resolution

What a resolution does is decided by the index and the names in the ledger alone.  This
module separates the two halves: a derivation tells which steps a resolution takes and
whether a circle ends it, and performing the steps one by one is all that an action adds.
Every resolution has a derivation, and every action that leaves the ledger alone performs it.
-/

/-- A member of a list with one more at its end is the last or one of those before. -/
theorem of_concat_eq_append_cons
    {Item : Type}
    {items before after : List Item}
    {last item : Item}
    (shape : items ++ [last] = before ++ item :: after) :
    (before = items ∧ item = last ∧ after = []) ∨
      ∃ others,
        after = others ++ [last] ∧ items = before ++ item :: others := by
  rcases List.eq_nil_or_concat after with rfl | ⟨others, final, rfl⟩
  · obtain ⟨rfl, same⟩ := List.append_inj' shape rfl
    cases same
    exact .inl ⟨rfl, rfl, rfl⟩
  · rw [List.concat_eq_append] at shape ⊢
    have regrouped :
        items ++ [last] = (before ++ item :: others) ++ [final] := by
      simpa using shape
    obtain ⟨rfl, same⟩ := List.append_inj' regrouped rfl
    cases same
    exact .inr ⟨others, rfl, rfl⟩

theorem Index.mem_names_of_find?
    {index : Index}
    {name : Text}
    {definition : Block}
    (found : index.find? name = some definition) :
    name ∈ index.names :=
  find?_isSome_iff.mp (Option.isSome_of_eq_some found)

/-- One thing that a resolution, or the applier above it, does. -/
inductive Step where
  /-- Note something. -/
  | say (entry : Note)
  /-- Run the statement of a block. -/
  | run (block : Block)
  /-- Run a table definition and record its table. -/
  | create (table : Text) (block : Block)
  deriving Repr, DecidableEq

namespace Step

/-- The table that a step records. -/
def created? : Step → Option Text
  | .create table _ =>
      some table
  | .say _ | .run _ =>
      none

/-- The block that a step hands over. -/
def block? : Step → Option Block
  | .run block | .create _ block =>
      some block
  | .say _ =>
      none

/-- The block that a step runs as it is. -/
def ran? : Step → Option Block
  | .run block =>
      some block
  | .say _ | .create _ _ =>
      none

end Step

/-- The tables that steps record, in order. -/
def createdNames (steps : List Step) : List Text :=
  steps.filterMap Step.created?

/-- The blocks that steps hand over, in order. -/
def handedOver (steps : List Step) : List Block :=
  steps.filterMap Step.block?

/-- The blocks that steps run as they are, in order. -/
def ranBlocks (steps : List Step) : List Block :=
  steps.filterMap Step.ran?

@[simp] theorem createdNames_nil :
    createdNames [] = [] :=
  rfl

@[simp] theorem createdNames_append
    (first second : List Step) :
    createdNames (first ++ second) =
      createdNames first ++ createdNames second :=
  List.filterMap_append

@[simp] theorem createdNames_say
    (entry : Note)
    (steps : List Step) :
    createdNames (.say entry :: steps) = createdNames steps :=
  rfl

@[simp] theorem createdNames_run
    (block : Block)
    (steps : List Step) :
    createdNames (.run block :: steps) = createdNames steps :=
  rfl

@[simp] theorem createdNames_create
    (table : Text)
    (block : Block)
    (steps : List Step) :
    createdNames (.create table block :: steps) =
      table :: createdNames steps :=
  rfl

@[simp] theorem handedOver_nil :
    handedOver [] = [] :=
  rfl

@[simp] theorem handedOver_append
    (first second : List Step) :
    handedOver (first ++ second) =
      handedOver first ++ handedOver second :=
  List.filterMap_append

@[simp] theorem handedOver_say
    (entry : Note)
    (steps : List Step) :
    handedOver (.say entry :: steps) = handedOver steps :=
  rfl

@[simp] theorem handedOver_run
    (block : Block)
    (steps : List Step) :
    handedOver (.run block :: steps) = block :: handedOver steps :=
  rfl

@[simp] theorem handedOver_create
    (table : Text)
    (block : Block)
    (steps : List Step) :
    handedOver (.create table block :: steps) =
      block :: handedOver steps :=
  rfl

@[simp] theorem ranBlocks_nil :
    ranBlocks [] = [] :=
  rfl

@[simp] theorem ranBlocks_append
    (first second : List Step) :
    ranBlocks (first ++ second) = ranBlocks first ++ ranBlocks second :=
  List.filterMap_append

@[simp] theorem ranBlocks_say
    (entry : Note)
    (steps : List Step) :
    ranBlocks (.say entry :: steps) = ranBlocks steps :=
  rfl

@[simp] theorem ranBlocks_run
    (block : Block)
    (steps : List Step) :
    ranBlocks (.run block :: steps) = block :: ranBlocks steps :=
  rfl

@[simp] theorem ranBlocks_create
    (table : Text)
    (block : Block)
    (steps : List Step) :
    ranBlocks (.create table block :: steps) = ranBlocks steps :=
  rfl

theorem exists_create_of_mem_createdNames
    {steps : List Step}
    {table : Text}
    (created : table ∈ createdNames steps) :
    ∃ block, .create table block ∈ steps := by
  obtain ⟨step, member, records⟩ := List.mem_filterMap.mp created
  cases step with
  | say entry =>
      cases records
  | run block =>
      cases records
  | create name block =>
      cases records
      exact ⟨block, member⟩

/-- A block that is handed over has a step of its own, and steps that hand over those before. -/
theorem exists_step_of_handedOver
    {steps : List Step}
    {before after : List Block}
    {block : Block}
    (shape : handedOver steps = before ++ block :: after) :
    ∃ leading step trailing,
      steps = leading ++ step :: trailing ∧
        step.block? = some block ∧
        handedOver leading = before := by
  obtain ⟨first, second, rfl, rfl, remaining⟩ :=
    List.filterMap_eq_append_iff.mp shape
  obtain ⟨silent, step, trailing, rfl, noBlock, isBlock, _⟩ :=
    List.filterMap_eq_cons_iff.mp remaining
  refine ⟨first ++ silent, step, trailing, by simp, isBlock, ?_⟩
  rw [handedOver_append, handedOver, handedOver,
    List.filterMap_eq_nil_iff.mpr noBlock, List.append_nil]

/--
The derivations of going through the references `names` of `table` when the ledger lists
`known` and the tables of `path` are under way.  The steps are taken in order; a circle, if
there is one, ends the resolution after them.
-/
inductive Resolves (index : Index) :
    List Text → Text → List Text → List Text →
      List Step → Option (List Text) → Prop where
  | nothing
      {path known : List Text}
      {table : Text} :
      Resolves index path table [] known [] none
  | present
      {path known rest : List Text}
      {table reference : Text}
      {steps : List Step}
      {circle : Option (List Text)} :
      reference = table ∨ reference ∈ known →
      Resolves index path table rest known steps circle →
      Resolves index path table (reference :: rest) known steps circle
  | outside
      {path known rest : List Text}
      {table reference : Text}
      {steps : List Step}
      {circle : Option (List Text)} :
      reference ≠ table →
      reference ∉ known →
      index.find? reference = none →
      Resolves index path table rest known steps circle →
      Resolves index path table (reference :: rest) known
        (.say (.outsideReference table reference) :: steps) circle
  | closed
      {path known rest : List Text}
      {table reference : Text}
      {definition : Block} :
      reference ≠ table →
      reference ∉ known →
      index.find? reference = some definition →
      reference ∈ path →
      Resolves index path table (reference :: rest) known []
        (some (cycleFrom path reference))
  | descended
      {path known rest : List Text}
      {table reference : Text}
      {definition : Block}
      {inner outer : List Step}
      {circle : Option (List Text)} :
      reference ≠ table →
      reference ∉ known →
      index.find? reference = some definition →
      reference ∉ path →
      Resolves index (path ++ [reference]) reference
        (references definition.text) known inner none →
      Resolves index path table rest
        (known ++ createdNames inner ++ [reference]) outer circle →
      Resolves index path table (reference :: rest) known
        (inner ++ .create reference definition :: outer) circle
  | broken
      {path known rest : List Text}
      {table reference : Text}
      {definition : Block}
      {inner : List Step}
      {circle : List Text} :
      reference ≠ table →
      reference ∉ known →
      index.find? reference = some definition →
      reference ∉ path →
      Resolves index (path ++ [reference]) reference
        (references definition.text) known inner (some circle) →
      Resolves index path table (reference :: rest) known
        inner (some circle)

/--
Every resolution has a derivation.  The references are gone through one by one, and a
definition is entered only if that leaves fewer tables that the path has not met.
-/
theorem exists_resolves
    (index : Index)
    (path : List Text)
    (table : Text)
    (names known : List Text) :
    ∃ steps circle,
      Resolves index path table names known steps circle := by
  induction measure : unmet index path using Nat.strongRecOn
    generalizing path table names known with
  | ind bound descend =>
      induction names generalizing known with
      | nil =>
          exact ⟨[], none, .nothing⟩
      | cons reference rest inductionHypothesis =>
          by_cases settled : reference = table ∨ reference ∈ known
          · obtain ⟨steps, circle, resolves⟩ := inductionHypothesis known
            exact ⟨steps, circle, .present settled resolves⟩
          · obtain ⟨other, fresh⟩ := not_or.mp settled
            cases found : index.find? reference with
            | none =>
                obtain ⟨steps, circle, resolves⟩ := inductionHypothesis known
                exact ⟨_, circle, .outside other fresh found resolves⟩
            | some definition =>
                by_cases met : reference ∈ path
                · exact ⟨[], _, .closed other fresh found met⟩
                · have fewer :=
                    unmet_append_lt (Index.mem_names_of_find? found) met
                  obtain ⟨inner, ending, entered⟩ :=
                    descend _ (measure ▸ fewer) (path ++ [reference])
                      reference (references definition.text) known rfl
                  cases ending with
                  | some circle =>
                      exact ⟨inner, some circle,
                        .broken other fresh found met entered⟩
                  | none =>
                      obtain ⟨outer, circle, resolves⟩ :=
                        inductionHypothesis
                          (known ++ createdNames inner ++ [reference])
                      exact ⟨_, circle,
                        .descended other fresh found met entered resolves⟩

end TenantSchema.Table
