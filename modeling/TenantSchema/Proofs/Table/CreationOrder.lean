import TenantSchema.Proofs.Table.Derivation

namespace TenantSchema.Table

/-!
# The order in which tables are created

The steps of a resolution are orderly: each table is created once, from its definition in
the index, and after every defined table that it refers to.  A resolution never creates a
table that is under way, one that no circle ends leaves no reference missing, and where none
was missing it creates nothing.
-/

/--
Steps that, after the tables in `known`, create each table once, from its definition in the
index and after the defined tables it refers to.
-/
inductive Orderly (index : Index) : List Text → List Step → Prop where
  | nothing
      {known : List Text} :
      Orderly index known []
  | say
      {known : List Text}
      {entry : Note}
      {steps : List Step} :
      Orderly index known steps →
      Orderly index known (.say entry :: steps)
  | run
      {known : List Text}
      {block : Block}
      {steps : List Step} :
      Orderly index known steps →
      Orderly index known (.run block :: steps)
  | create
      {known : List Text}
      {table : Text}
      {block : Block}
      {steps : List Step} :
      table ∉ known →
      index.find? table = some block →
      (∀ reference ∈ references block.text,
        reference ≠ table →
        reference ∈ index.names →
        reference ∈ known) →
      Orderly index (known ++ [table]) steps →
      Orderly index known (.create table block :: steps)

namespace Orderly

theorem append
    {index : Index}
    {known : List Text}
    {first second : List Step}
    (leading : Orderly index known first)
    (trailing : Orderly index (known ++ createdNames first) second) :
    Orderly index known (first ++ second) := by
  induction leading with
  | nothing =>
      simpa using trailing
  | say _ inductionHypothesis =>
      exact .say (inductionHypothesis trailing)
  | run _ inductionHypothesis =>
      exact .run (inductionHypothesis trailing)
  | create fresh found earlier _ inductionHypothesis =>
      refine .create fresh found earlier (inductionHypothesis ?_)
      simpa using trailing

theorem drop
    {index : Index}
    {known : List Text}
    {first second : List Step}
    (orderly : Orderly index known (first ++ second)) :
    Orderly index (known ++ createdNames first) second := by
  induction first generalizing known with
  | nil =>
      simpa using orderly
  | cons step rest inductionHypothesis =>
      cases orderly with
      | say remaining =>
          exact inductionHypothesis remaining
      | run remaining =>
          exact inductionHypothesis remaining
      | create _ _ _ remaining =>
          simpa using inductionHypothesis remaining

theorem find?_of_mem
    {index : Index}
    {known : List Text}
    {steps : List Step}
    {table : Text}
    {block : Block}
    (orderly : Orderly index known steps)
    (member : .create table block ∈ steps) :
    index.find? table = some block := by
  obtain ⟨first, second, rfl⟩ := List.append_of_mem member
  cases orderly.drop with
  | create _ found _ _ =>
      exact found

/-- A table comes later than every other defined table that its definition refers to. -/
theorem idxOf_lt
    {index : Index}
    {steps : List Step}
    {table reference : Text}
    {definition : Block}
    (orderly : Orderly index [] steps)
    (created : table ∈ createdNames steps)
    (found : index.find? table = some definition)
    (referred : reference ∈ references definition.text)
    (other : reference ≠ table)
    (defined : reference ∈ index.names) :
    (createdNames steps).idxOf reference < (createdNames steps).idxOf table := by
  obtain ⟨block, member⟩ := exists_create_of_mem_createdNames created
  obtain ⟨first, second, rfl⟩ := List.append_of_mem member
  cases orderly.drop with
  | create fresh itself earlier _ =>
      rw [found] at itself
      cases itself
      have before : reference ∈ createdNames first :=
        earlier reference referred other defined
      have after : table ∉ createdNames first :=
        fresh
      rw [createdNames_append, createdNames_create,
        List.idxOf_append, if_pos before, List.idxOf_append, if_neg after]
      have bound := List.idxOf_lt_length_of_mem before
      simpa using bound

/-- No table is created twice, and none that was known before. -/
theorem nodup
    {index : Index}
    {known : List Text}
    {steps : List Step}
    (orderly : Orderly index known steps)
    (distinctKnown : known.Nodup) :
    (known ++ createdNames steps).Nodup := by
  induction orderly with
  | nothing =>
      simpa using distinctKnown
  | say _ inductionHypothesis =>
      exact inductionHypothesis distinctKnown
  | run _ inductionHypothesis =>
      exact inductionHypothesis distinctKnown
  | @create known table block steps fresh _ _ _ inductionHypothesis =>
      have extended : (known ++ [table]).Nodup := by
        rw [List.nodup_append]
        refine ⟨distinctKnown, by simp, ?_⟩
        intro member memberKnown other otherSame same
        rw [List.mem_singleton] at otherSame
        exact fresh (otherSame ▸ same ▸ memberKnown)
      simpa using inductionHypothesis extended

end Orderly

namespace Resolves

/-- A resolution creates no table that is under way. -/
theorem not_mem_path
    {index : Index}
    {path names known : List Text}
    {table : Text}
    {steps : List Step}
    {circle : Option (List Text)}
    (resolves : Resolves index path table names known steps circle)
    {name : Text}
    (created : name ∈ createdNames steps) :
    name ∉ path := by
  induction resolves with
  | nothing =>
      simp at created
  | present _ _ inductionHypothesis =>
      exact inductionHypothesis created
  | outside _ _ _ _ inductionHypothesis =>
      exact inductionHypothesis created
  | closed =>
      simp at created
  | descended _ _ _ unmet _ _ innerHypothesis outerHypothesis =>
      rw [createdNames_append, createdNames_create,
        List.mem_append, List.mem_cons] at created
      rcases created with inInner | isReference | inOuter
      · intro underWay
        exact innerHypothesis inInner (List.mem_append_left _ underWay)
      · exact isReference ▸ unmet
      · exact outerHypothesis inOuter
  | broken _ _ _ _ _ innerHypothesis =>
      intro underWay
      exact innerHypothesis created (List.mem_append_left _ underWay)

/--
A resolution without a circle leaves no reference missing: each is the table itself, known
before, created now or not defined at all.
-/
theorem complete
    {index : Index}
    {path names known : List Text}
    {table : Text}
    {steps : List Step}
    (resolves : Resolves index path table names known steps none)
    {reference : Text}
    (referred : reference ∈ names)
    (other : reference ≠ table)
    (defined : reference ∈ index.names) :
    reference ∈ known ++ createdNames steps := by
  generalize ending : (none : Option (List Text)) = circle at resolves
  induction resolves with
  | nothing =>
      simp at referred
  | present settled _ inductionHypothesis =>
      rcases List.mem_cons.mp referred with rfl | later
      · exact List.mem_append_left _ (settled.resolve_left other)
      · exact inductionHypothesis later other ending
  | outside _ _ missing _ inductionHypothesis =>
      rcases List.mem_cons.mp referred with rfl | later
      · have found := Index.find?_isSome_iff.mpr defined
        simp [missing] at found
      · exact inductionHypothesis later other ending
  | closed =>
      cases ending
  | descended _ _ _ _ _ _ _ outerHypothesis =>
      rcases List.mem_cons.mp referred with rfl | later
      · simp
      · simpa using outerHypothesis later other ending
  | broken =>
      cases ending

/-- A resolution has nothing to create if no reference is missing. -/
theorem of_settled
    {index : Index}
    {path names known : List Text}
    {table : Text}
    {steps : List Step}
    {circle : Option (List Text)}
    (resolves : Resolves index path table names known steps circle)
    (settled :
      ∀ reference ∈ names,
        reference ≠ table →
        reference ∈ index.names →
        reference ∈ known) :
    circle = none ∧ createdNames steps = [] ∧ handedOver steps = [] := by
  induction resolves with
  | nothing =>
      exact ⟨rfl, rfl, rfl⟩
  | present _ _ inductionHypothesis =>
      exact inductionHypothesis
        (fun reference member => settled reference (List.mem_cons_of_mem _ member))
  | outside _ _ _ _ inductionHypothesis =>
      exact inductionHypothesis
        (fun reference member => settled reference (List.mem_cons_of_mem _ member))
  | closed other fresh found =>
      have defined := Index.mem_names_of_find? found
      exact (fresh (settled _ (by simp) other defined)).elim
  | descended other fresh found =>
      have defined := Index.mem_names_of_find? found
      exact (fresh (settled _ (by simp) other defined)).elim
  | broken other fresh found =>
      have defined := Index.mem_names_of_find? found
      exact (fresh (settled _ (by simp) other defined)).elim

/-- A resolution runs nothing but table definitions. -/
theorem ranBlocks_eq_nil
    {index : Index}
    {path names known : List Text}
    {table : Text}
    {steps : List Step}
    {circle : Option (List Text)}
    (resolves : Resolves index path table names known steps circle) :
    ranBlocks steps = [] := by
  induction resolves with
  | nothing | closed =>
      rfl
  | present _ _ inductionHypothesis =>
      exact inductionHypothesis
  | outside _ _ _ _ inductionHypothesis =>
      exact inductionHypothesis
  | descended _ _ _ _ _ _ innerHypothesis outerHypothesis =>
      rw [ranBlocks_append, innerHypothesis, List.nil_append]
      exact outerHypothesis
  | broken _ _ _ _ _ innerHypothesis =>
      exact innerHypothesis

/-- The steps of a resolution are orderly. -/
theorem orderly
    {index : Index}
    {path names known : List Text}
    {table : Text}
    {steps : List Step}
    {circle : Option (List Text)}
    (resolves : Resolves index path table names known steps circle) :
    Orderly index known steps := by
  induction resolves with
  | nothing =>
      exact .nothing
  | present _ _ inductionHypothesis =>
      exact inductionHypothesis
  | outside _ _ _ _ inductionHypothesis =>
      exact .say inductionHypothesis
  | closed =>
      exact .nothing
  | descended _ fresh found _ entered _ innerHypothesis outerHypothesis =>
      refine innerHypothesis.append (.create ?_ found ?_ outerHypothesis)
      · rw [List.mem_append, not_or]
        refine ⟨fresh, ?_⟩
        intro created
        exact entered.not_mem_path created (by simp)
      · intro name referred other defined
        exact entered.complete referred other defined
  | broken _ _ _ _ _ innerHypothesis =>
      exact innerHypothesis

end Resolves

end TenantSchema.Table
