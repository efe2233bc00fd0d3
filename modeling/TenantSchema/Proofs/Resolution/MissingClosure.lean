import TenantSchema.Proofs.Applier.RunCases
import TenantSchema.Proofs.Resolution.Creation

namespace TenantSchema.Table

open Applier

/-!
# The missing closure

Creating a table creates what is missing for it: every table that its references lead to
through tables that the ledger does not list, each once and after those that it refers to,
and then the table itself.  The references of the block count from its own table on, so a
block that refers to itself brings in no other definition of its table.
-/

/-- References from table to table, as long as these are not listed. -/
def LeadsToMissing
    (blocks : List Block)
    (block : Block)
    (listed : List Text)
    (table reference : Text) : Prop :=
  LeadsTo blocks block table reference ∧ reference ∉ listed

theorem Orderly.mem_of_split
    {index : Index}
    {known : List Text}
    {leading trailing : List Step}
    {name reference : Text}
    {definition : Block}
    (orderly :
      Orderly index known (leading ++ .create name definition :: trailing))
    (referred : reference ∈ references definition.text)
    (other : reference ≠ name)
    (defined : reference ∈ index.names) :
    reference ∈ known ++ createdNames leading := by
  cases orderly.drop with
  | create _ _ earlier _ =>
      exact earlier reference referred other defined

section

variable
  {blocks : List Block}
  {index : Index}
  {block definition : Block}
  {table name reference : Text}
  {known : List Text}
  {steps : List Step}
  {circle : Option (List Text)}

namespace Creation

/-- What a definition refers to was known or created before it was handed over. -/
theorem mem_of_split
    {leading trailing : List Step}
    (creation : Creation index block known steps circle)
    (indexed : Index.ofBlocks blocks = .ok index)
    (split : steps = leading ++ .create name definition :: trailing)
    (referred : reference ∈ references definition.text)
    (other : reference ≠ name)
    (defined : Defines blocks reference) :
    reference ∈ known ++ createdNames leading := by
  have inIndex := (Index.mem_names_iff_defines indexed).mpr defined
  cases creation with
  | present =>
      simp at split
  | created _ _ resolves =>
      rcases of_concat_eq_append_cons split with ⟨rfl, itself, _⟩ | ⟨_, _, rfl⟩
      · cases itself
        exact resolves.complete referred other inIndex
      · exact resolves.orderly.mem_of_split referred other inIndex
  | circular _ _ resolves =>
      subst split
      exact resolves.orderly.mem_of_split referred other inIndex

/-- The blocks that are handed over are the definitions that count for the tables created. -/
theorem mem_handedOver_iff
    (creation : Creation index block known steps circle)
    (indexed : Index.ofBlocks blocks = .ok index) :
    definition ∈ handedOver steps ↔
      ∃ name ∈ createdNames steps,
        definitionFor? blocks block name = some definition := by
  constructor
  · intro handed
    obtain ⟨step, member, isBlock⟩ := List.mem_filterMap.mp handed
    obtain ⟨name, rfl, counts⟩ := creation.step_cases indexed member isBlock
    exact ⟨name, List.mem_filterMap.mpr ⟨_, member, rfl⟩, counts⟩
  · rintro ⟨name, created, counts⟩
    obtain ⟨other, member⟩ := exists_create_of_mem_createdNames created
    cases counts.symm.trans (creation.definitionFor?_of_create indexed member)
    exact List.mem_filterMap.mpr ⟨_, member, rfl⟩

theorem nodup_handedOver
    (creation : Creation index block known steps circle)
    (indexed : Index.ofBlocks blocks = .ok index)
    (distinctKnown : known.Nodup) :
    (handedOver steps).Nodup := by
  have distinct := (List.nodup_append.mp (creation.nodup distinctKnown)).2.1
  have names := creation.map_nameOf?_handedOver indexed (List.append_nil steps).symm
  apply List.Nodup.of_map nameOf?
  rw [names]
  exact distinct.map (fun _ _ same => Option.some.inj same)

/-- A definition is handed over after those that it refers to and that are handed over too. -/
theorem mem_before
    {before after : List Block}
    {other : Block}
    (creation : Creation index block known steps circle)
    (indexed : Index.ofBlocks blocks = .ok index)
    (distinctKnown : known.Nodup)
    (split : handedOver steps = before ++ definition :: after)
    (named : nameOf? definition = some name)
    (referred : reference ∈ references definition.text)
    (different : reference ≠ name)
    (defined : Defines blocks reference)
    (handed : other ∈ handedOver steps)
    (otherNamed : nameOf? other = some reference) :
    other ∈ before := by
  have created := creation.create_of_handedOver indexed handed otherNamed
  have isNew : reference ∉ known := by
    intro isKnown
    exact (List.nodup_append.mp (creation.nodup distinctKnown)).2.2 reference isKnown
      reference (List.mem_filterMap.mpr ⟨_, created, rfl⟩) rfl
  obtain ⟨leading, step, trailing, rfl, isBlock, rfl⟩ := exists_step_of_handedOver split
  obtain ⟨itself, rfl, counts⟩ := creation.step_cases indexed (by simp) isBlock
  cases named.symm.trans (nameOf?_of_definitionFor? counts)
  have earlier := creation.mem_of_split indexed rfl referred different defined
  obtain ⟨first, member⟩ := exists_create_of_mem_createdNames
    ((List.mem_append.mp earlier).resolve_left isNew)
  have inSteps := List.mem_append_left (.create name definition :: trailing) member
  cases (creation.definitionFor?_of_create indexed created).symm.trans
    (creation.definitionFor?_of_create indexed inSteps)
  exact List.mem_filterMap.mpr ⟨_, member, rfl⟩

/-- With a table, every missing table that it refers to is created. -/
theorem mem_createdNames_of_leadsToMissing
    (creation : Creation index block known steps circle)
    (indexed : Index.ofBlocks blocks = .ok index)
    (created : table ∈ createdNames steps)
    (leads : LeadsToMissing blocks block known table reference) :
    reference ∈ createdNames steps := by
  obtain ⟨⟨definition, counts, referred, different, defined⟩, isNew⟩ := leads
  obtain ⟨other, member⟩ := exists_create_of_mem_createdNames created
  cases counts.symm.trans (creation.definitionFor?_of_create indexed member)
  obtain ⟨leading, trailing, rfl⟩ := List.append_of_mem member
  have earlier := creation.mem_of_split indexed rfl referred different defined
  rw [createdNames_append]
  exact List.mem_append_left _ ((List.mem_append.mp earlier).resolve_left isNew)

theorem mem_createdNames_of_transGen
    (creation : Creation index block known steps circle)
    (indexed : Index.ofBlocks blocks = .ok index)
    (created : table ∈ createdNames steps)
    (leads : Relation.TransGen (LeadsToMissing blocks block known) table name) :
    name ∈ createdNames steps := by
  induction leads with
  | single step =>
      exact creation.mem_createdNames_of_leadsToMissing indexed created step
  | tail _ step inductionHypothesis =>
      exact creation.mem_createdNames_of_leadsToMissing indexed inductionHypothesis step

end Creation

/--
The definitions handed over for a missing table are its block and the first definitions of
the other missing tables that it leads to.
-/
theorem mem_handedOver_iff_leadsToMissing
    (creation : Creation index block known steps none)
    (indexed : Index.ofBlocks blocks = .ok index)
    (named : nameOf? block = some table) :
    definition ∈ handedOver steps ↔
      table ∉ known ∧
        (definition = block ∨
          ∃ name,
            name ≠ table ∧
              Relation.TransGen (LeadsToMissing blocks block known) table name ∧
              firstDefinition? blocks name = some definition) := by
  rw [creation.mem_handedOver_iff indexed]
  cases creation with
  | present itself present =>
      cases named.symm.trans itself
      simp [present]
  | @created _ _ inner itself missing resolves =>
      cases named.symm.trans itself
      have creation : Creation index block known (inner ++ [.create table block]) none :=
        .created named missing resolves
      constructor
      · rintro ⟨name, created, counts⟩
        refine ⟨missing, ?_⟩
        rw [createdNames_append, createdNames_create, createdNames_nil,
          List.mem_append, List.mem_singleton] at created
        rcases created with inInner | rfl
        · have outsidePath := resolves.not_mem_path inInner
          have other : name ≠ table := by simpa using outsidePath
          rw [definitionFor?_of_ne blocks named other] at counts
          refine .inr ⟨name, other, ?_, counts⟩
          exact resolves.transGen_unlisted_of_created (List.Subset.refl known)
            (related_leadsTo indexed named) (relatedOutside_leadsTo indexed named) inInner
        · rw [definitionFor?_of_named blocks named] at counts
          exact .inl (Option.some.inj counts).symm
      · rintro ⟨_, rfl | ⟨name, other, leads, first⟩⟩
        · exact ⟨table, by simp, definitionFor?_of_named blocks named⟩
        · exact ⟨name, creation.mem_createdNames_of_transGen indexed (by simp) leads,
            (definitionFor?_of_ne blocks named other).trans first⟩

/--
The definitions `made` in creating the table of a block are what was missing for it, each once
and after those that it refers to, and the ledger goes on with their tables.
-/
structure CompletesClosure
    (blocks : List Block)
    (block : Block)
    (table : Text)
    (listed later : List Text)
    (made : List Block) : Prop where
  once :
    made.Nodup
  missing :
    ∀ definition,
      definition ∈ made ↔
        table ∉ listed ∧
          (definition = block ∨
            ∃ name,
              name ≠ table ∧
                Relation.TransGen (LeadsToMissing blocks block listed) table name ∧
                firstDefinition? blocks name = some definition)
  referencesFirst :
    ∀ before definition after name reference other,
      made = before ++ definition :: after →
      nameOf? definition = some name →
      reference ∈ references definition.text →
      reference ≠ name →
      Defines blocks reference →
      other ∈ made →
      nameOf? other = some reference →
      other ∈ before
  recorded :
    ∃ names,
      made.map nameOf? = names.map some ∧ later = listed ++ names

theorem Creation.completesClosure
    (creation : Creation index block known steps none)
    (indexed : Index.ofBlocks blocks = .ok index)
    (distinctKnown : known.Nodup)
    (named : nameOf? block = some table) :
    CompletesClosure blocks block table known (known ++ createdNames steps)
      (handedOver steps) where
  once := creation.nodup_handedOver indexed distinctKnown
  missing _ := mem_handedOver_iff_leadsToMissing creation indexed named
  referencesFirst := by
    intro before definition after name reference other
      split isNamed referred different defined handed otherNamed
    exact creation.mem_before indexed distinctKnown split isNamed referred different
      defined handed otherNamed
  recorded :=
    ⟨_, creation.map_nameOf?_handedOver indexed (List.append_nil steps).symm, rfl⟩

/--
Creating the table of a block completes its missing closure: what is handed over is the block,
if its table is missing, and the first definitions of the other missing tables that it leads
to.  If the ledger lists the table already, nothing happens.
-/
theorem creation_completes_missing_closure
    {Cause World : Type}
    {action : Action Cause World}
    {session later : Session World}
    (indexed : Index.ofBlocks blocks = .ok index)
    (keepsLedger : KeepsLedger action)
    (named : nameOf? block = some table)
    (returned : ensureCreated index action block session = .done later) :
    CompletesClosure blocks block table session.ledger.names later.ledger.names
        ((attemptsToCreate index action block session).map Attempt.block) ∧
      (table ∈ session.ledger.names →
        attemptsToCreate index action block session = [] ∧ later = session) := by
  obtain ⟨steps, circle, creation⟩ := exists_creation index named session.ledger.names
  rcases creation.cases_of_action keepsLedger with
    ⟨last, ended, names, made⟩ | ⟨_, _, _, _, _, _, _, _, _, _, failed, _⟩
  · rw [ended] at returned
    cases circle with
    | some circle =>
        cases returned
    | none =>
        cases returned
        rw [made, map_block_attemptsOf, names]
        refine ⟨creation.completesClosure indexed session.ledger.namesDistinct named, ?_⟩
        intro present
        cases creation with
        | present =>
            rw [ensureCreated_of_present index action named present] at ended
            exact ⟨rfl, (Outcome.done.inj ended).symm⟩
        | created itself missing =>
            cases named.symm.trans itself
            exact (missing present).elim
  · rw [failed] at returned
    cases returned

end

end TenantSchema.Table

namespace TenantSchema.Applier

open Table

/-- Creating `posts` creates `users` first, of whose two definitions the first counts. -/
theorem posts_complete_their_closure :
    CompletesClosure Sample.document Sample.posts "posts".toList []
      ["users".toList, "posts".toList] [Sample.users, Sample.posts] := by
  obtain ⟨index, indexed⟩ : ∃ index, Index.ofBlocks Sample.document = .ok index :=
    Index.exists_ofBlocks_iff.mpr (by decide +kernel)
  have creation :
      (Index.ofBlocks Sample.document).toOption.map
          (fun index =>
            let created := ensureCreated index Sample.creating Sample.posts (.start ())
            let attempts := attemptsToCreate index Sample.creating Sample.posts (.start ())
            (created.cause?, created.session.ledger.names, attempts.map Attempt.block)) =
        some (none, ["users".toList, "posts".toList], [Sample.users, Sample.posts]) := by
    decide +kernel
  rw [indexed] at creation
  obtain ⟨ended, names, made⟩ : _ ∧ _ ∧ _ := by
    simpa only [Prod.mk.injEq] using Option.some.inj creation
  have complete :=
    (creation_completes_missing_closure indexed Sample.keepsLedger_creating
      (by decide +kernel : nameOf? Sample.posts = some "posts".toList)
      (Outcome.eq_done_of_cause? ended)).1
  rw [names, made] at complete
  exact complete

/-- A definition of a table. -/
def Sample.plain : Block :=
  block .createTable 0 "CREATE TABLE t (id INT)"

/-- A second definition of the same table, which refers to itself. -/
def Sample.selfReferring : Block :=
  block .createTable 1 "CREATE TABLE t (id INT REFERENCES t (id))"

/-- The two definitions of the table, of which the first counts in the index. -/
def Sample.selfReferringDocument : List Block :=
  [plain, selfReferring]

/--
A block that refers to its own table leads by that reference to the first definition of the
table, which the ledger does not list.  Yet the block alone is handed over.
-/
theorem self_reference_brings_in_no_first_definition :
    ∃ index later,
      Index.ofBlocks Sample.selfReferringDocument = .ok index ∧
        ensureCreated index Sample.creating Sample.selfReferring (.start ()) =
          .done later ∧
        nameOf? Sample.selfReferring = some "t".toList ∧
        Relation.TransGen
          (fun table reference =>
            ∃ definition,
              definitionFor? Sample.selfReferringDocument Sample.selfReferring table =
                  some definition ∧
                reference ∈ references definition.text ∧
                Defines Sample.selfReferringDocument reference ∧
                reference ∉ (Session.start ()).ledger.names)
          "t".toList "t".toList ∧
        firstDefinition? Sample.selfReferringDocument "t".toList = some Sample.plain ∧
        Sample.plain ∉
          (attemptsToCreate index Sample.creating Sample.selfReferring (.start ())).map
            Attempt.block := by
  obtain ⟨index, indexed⟩ :
      ∃ index, Index.ofBlocks Sample.selfReferringDocument = .ok index :=
    Index.exists_ofBlocks_iff.mpr (by decide +kernel)
  have creation :
      (Index.ofBlocks Sample.selfReferringDocument).toOption.map
          (fun index =>
            ((ensureCreated index Sample.creating Sample.selfReferring (.start ())).cause?,
              (attemptsToCreate index Sample.creating Sample.selfReferring (.start ())).map
                Attempt.block)) =
        some (none, [Sample.selfReferring]) := by
    decide +kernel
  rw [indexed] at creation
  obtain ⟨ended, made⟩ : _ ∧ _ := by
    simpa only [Prod.mk.injEq] using Option.some.inj creation
  have first :
      firstDefinition? Sample.selfReferringDocument "t".toList = some Sample.plain := by
    decide +kernel
  have named : nameOf? Sample.selfReferring = some "t".toList := by
    decide +kernel
  refine ⟨index, _, indexed, Outcome.eq_done_of_cause? ended, named, .single ?_, first, ?_⟩
  · exact ⟨Sample.selfReferring, definitionFor?_of_named _ named, by decide +kernel,
      firstDefinition?_isSome_iff.mp (Option.isSome_of_eq_some first), List.not_mem_nil⟩
  · rw [made]
    decide

end TenantSchema.Applier
