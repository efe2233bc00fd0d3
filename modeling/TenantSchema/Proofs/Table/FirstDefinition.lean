import TenantSchema.Table.Ledger

namespace TenantSchema.Table

/-!
# First definitions

A script may define a table several times; the first definition counts.  This module states
that rule on the blocks themselves and shows that the index follows it: looking a name up in
the index of some blocks gives the first of the blocks that defines the name, and there is an
index exactly when every definition has a name.
-/

/-- The first of the blocks that defines a table of the given name. -/
def firstDefinition? (blocks : List Block) (name : Text) : Option Block :=
  blocks.find? fun block =>
    Index.isDefinition block && nameOf? block == some name

/-- Whether some block defines a table of the given name. -/
def Defines (blocks : List Block) (name : Text) : Prop :=
  ∃ block ∈ blocks,
    Index.isDefinition block = true ∧ nameOf? block = some name

/-- Every definition among the blocks has a name. -/
def AllNamed (blocks : List Block) : Prop :=
  ∀ block ∈ blocks,
    Index.isDefinition block = true →
    ∃ name, nameOf? block = some name

instance (blocks : List Block) : Decidable (AllNamed blocks) :=
  decidable_of_iff
    (∀ block ∈ blocks,
      Index.isDefinition block = true →
      (nameOf? block).isSome = true)
    (by simp [AllNamed, Option.isSome_iff_exists])

/-- The names of the definitions among the blocks, in order. -/
def definedNames (blocks : List Block) : List Text :=
  (blocks.filter Index.isDefinition).filterMap nameOf?

/--
The first definition of a table refers to another table that the blocks define.
-/
def Refers (blocks : List Block) (table reference : Text) : Prop :=
  ∃ definition,
    firstDefinition? blocks table = some definition ∧
      reference ∈ references definition.text ∧
      reference ≠ table ∧
      Defines blocks reference

theorem mem_definedNames_iff
    {blocks : List Block}
    {name : Text} :
    name ∈ definedNames blocks ↔ Defines blocks name := by
  simp [definedNames, Defines, and_assoc]

theorem Defines.mono
    {blocks other : List Block}
    {name : Text}
    (defines : Defines blocks name)
    (contained : blocks ⊆ other) :
    Defines other name := by
  obtain ⟨block, member, definition, named⟩ := defines
  exact ⟨block, contained member, definition, named⟩

theorem firstDefinition?_isSome_iff
    {blocks : List Block}
    {name : Text} :
    (firstDefinition? blocks name).isSome = true ↔ Defines blocks name := by
  simp [firstDefinition?, Defines]

theorem of_firstDefinition?
    {blocks : List Block}
    {name : Text}
    {definition : Block}
    (first : firstDefinition? blocks name = some definition) :
    definition ∈ blocks ∧
      Index.isDefinition definition = true ∧
      nameOf? definition = some name := by
  have member := List.mem_of_find?_eq_some first
  have accepted := List.find?_some first
  simp only [Bool.and_eq_true, beq_iff_eq] at accepted
  exact ⟨member, accepted⟩

theorem firstDefinition?_cons_of_defines
    {block : Block}
    {rest : List Block}
    {name : Text}
    (definition : Index.isDefinition block = true)
    (named : nameOf? block = some name) :
    firstDefinition? (block :: rest) name = some block := by
  simp [firstDefinition?, definition, named]

theorem firstDefinition?_cons_of_not
    {block : Block}
    {rest : List Block}
    {name : Text}
    (unrelated :
      Index.isDefinition block = true →
      nameOf? block ≠ some name) :
    firstDefinition? (block :: rest) name =
      firstDefinition? rest name := by
  unfold firstDefinition?
  rw [List.find?_cons_of_neg]
  intro accepted
  simp only [Bool.and_eq_true, beq_iff_eq] at accepted
  exact unrelated accepted.1 accepted.2

/-- Leaving out blocks that are no definitions changes no first definition. -/
theorem firstDefinition?_filter
    {keeps : Block → Bool}
    (keepsDefinitions :
      ∀ block, Index.isDefinition block = true → keeps block = true)
    (blocks : List Block)
    (name : Text) :
    firstDefinition? (blocks.filter keeps) name = firstDefinition? blocks name := by
  unfold firstDefinition?
  rw [List.find?_filter]
  congr 1
  funext block
  rw [Bool.eq_iff_iff]
  simp only [Bool.and_eq_true, beq_iff_eq, decide_eq_true_eq]
  constructor
  · exact fun accepted => accepted.2
  · exact fun accepted => ⟨keepsDefinitions block accepted.1, accepted⟩

/-- Among definitions of distinct names, the only definition of a name is the first. -/
theorem firstDefinition?_eq_some_iff
    {blocks : List Block}
    {name : Text}
    {definition : Block}
    (distinctNames : (definedNames blocks).Nodup) :
    firstDefinition? blocks name = some definition ↔
      definition ∈ blocks ∧
        Index.isDefinition definition = true ∧
        nameOf? definition = some name := by
  constructor
  · exact of_firstDefinition?
  · rintro ⟨member, isDefinition, named⟩
    induction blocks with
    | nil =>
        cases member
    | cons block rest inductionHypothesis =>
        rcases List.mem_cons.mp member with rfl | later
        · exact firstDefinition?_cons_of_defines isDefinition named
        · have defined : name ∈ definedNames rest :=
            mem_definedNames_iff.mpr ⟨definition, later, isDefinition, named⟩
          by_cases first :
              Index.isDefinition block = true ∧ nameOf? block = some name
          · simp only [definedNames, List.filter_cons, if_pos first.1,
              List.filterMap_cons, first.2, List.nodup_cons] at distinctNames
            exact (distinctNames.1 defined).elim
          · rw [firstDefinition?_cons_of_not
              (fun isFirst isNamed => first ⟨isFirst, isNamed⟩)]
            refine inductionHypothesis ?_ later
            have shorter :
                (definedNames rest).Sublist (definedNames (block :: rest)) :=
              ((List.sublist_cons_self block rest).filter _).filterMap _
            exact distinctNames.sublist shorter

section

variable
  {blocks other : List Block}

theorem defines_perm
    (sameBlocks : blocks.Perm other)
    (name : Text) :
    Defines blocks name ↔ Defines other name := by
  simp only [Defines, sameBlocks.mem_iff]

/-- The order of definitions of distinct names does not matter to the first definitions. -/
theorem firstDefinition?_perm
    (sameBlocks : blocks.Perm other)
    (distinctNames : (definedNames blocks).Nodup)
    (name : Text) :
    firstDefinition? blocks name = firstDefinition? other name := by
  have sameNames : (definedNames blocks).Perm (definedNames other) :=
    (sameBlocks.filter _).filterMap _
  have otherDistinct : (definedNames other).Nodup :=
    sameNames.nodup_iff.mp distinctNames
  ext definition
  rw [firstDefinition?_eq_some_iff distinctNames,
    firstDefinition?_eq_some_iff otherDistinct, sameBlocks.mem_iff]

/-- The order of definitions of distinct names does not matter to their references. -/
theorem refers_perm
    (sameBlocks : blocks.Perm other)
    (distinctNames : (definedNames blocks).Nodup) :
    Refers blocks = Refers other := by
  funext table reference
  simp only [Refers, firstDefinition?_perm sameBlocks distinctNames,
    defines_perm sameBlocks]

end

namespace Index

theorem find?_add
    (index : Index)
    (table name : Text)
    (block : Block) :
    (index.add table block).find? name =
      (index.find? name).or (if table = name then some block else none) := by
  by_cases present : table ∈ index.names
  · rw [add, if_pos present]
    by_cases same : table = name
    · subst same
      have found := find?_isSome_iff.mpr present
      obtain ⟨definition, isFound⟩ := Option.isSome_iff_exists.mp found
      simp [isFound]
    · simp [same]
  · rw [add, if_neg present]
    unfold find?
    rw [List.find?_append]
    cases index.definitions.find? (fun entry => entry.1 == name) with
    | some entry =>
        rfl
    | none =>
        by_cases same : table = name <;> simp [same]

/-- Looking a name up after adding blocks falls back on their first definition. -/
theorem find?_of_addAll
    {index later : Index}
    {blocks : List Block}
    (added : index.addAll blocks = .ok later)
    (name : Text) :
    later.find? name =
      (index.find? name).or (firstDefinition? blocks name) := by
  induction blocks generalizing index with
  | nil =>
      cases added
      simp [firstDefinition?]
  | cons block rest inductionHypothesis =>
      rw [addAll] at added
      split at added
      · rename_i definition
        split at added
        · cases added
        · rename_i table named
          rw [inductionHypothesis added, find?_add, Option.or_assoc]
          by_cases same : table = name
          · subst same
            rw [firstDefinition?_cons_of_defines definition named]
            simp
          · rw [firstDefinition?_cons_of_not
              (fun _ => by simpa [named] using same)]
            simp [same]
      · rename_i noDefinition
        rw [inductionHypothesis added, firstDefinition?_cons_of_not
          (fun definition => (noDefinition definition).elim)]

/-- The index of some blocks gives the first definition of every name. -/
theorem find?_of_ofBlocks
    {index : Index}
    {blocks : List Block}
    (indexed : ofBlocks blocks = .ok index)
    (name : Text) :
    index.find? name = firstDefinition? blocks name := by
  simpa [find?] using find?_of_addAll indexed name

/-- The index of some blocks lists exactly the names that they define. -/
theorem mem_names_iff_defines
    {index : Index}
    {blocks : List Block}
    (indexed : ofBlocks blocks = .ok index)
    {name : Text} :
    name ∈ index.names ↔ Defines blocks name := by
  rw [← find?_isSome_iff, find?_of_ofBlocks indexed,
    firstDefinition?_isSome_iff]

/-- Blocks can be added to an index exactly when every definition has a name. -/
theorem exists_addAll_iff
    {index : Index}
    {blocks : List Block} :
    (∃ later, index.addAll blocks = .ok later) ↔ AllNamed blocks := by
  induction blocks generalizing index with
  | nil =>
      simp [addAll, AllNamed]
  | cons block rest inductionHypothesis =>
      rw [addAll]
      by_cases definition : isDefinition block = true
      · rw [if_pos definition]
        cases named : nameOf? block with
        | none =>
            simp [AllNamed, definition, named]
        | some table =>
            rw [inductionHypothesis]
            simp [AllNamed, named]
      · rw [if_neg definition, inductionHypothesis]
        simp [AllNamed, definition]

/-- There is an index of the blocks exactly when every definition has a name. -/
theorem exists_ofBlocks_iff
    {blocks : List Block} :
    (∃ index, ofBlocks blocks = .ok index) ↔ AllNamed blocks :=
  exists_addAll_iff

end Index

end TenantSchema.Table
