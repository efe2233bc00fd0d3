import Mathlib.Data.List.Chain
import TenantSchema.Proofs.Table.Derivation

namespace TenantSchema.Table

/-!
# Circles of references

A resolution that a circle ends has walked the circle.  The path of tables under way goes
from table to table along references and meets none twice, so meeting a table of the path
again closes a walk of at least two tables.  Nor does a resolution create anything that the
references do not lead to.  What counts as a reference is a parameter: the definition that a
resolution starts from need not be the one in the index.
-/

/-- A path that meets one of its tables again is closed from there on. -/
theorem cycleFrom_append_cons
    {before : List Text}
    {reference : Text}
    (after : List Text)
    (fresh : reference ∉ before) :
    cycleFrom (before ++ reference :: after) reference =
      reference :: after ++ [reference] := by
  have skipped : ∀ name ∈ before, (name != reference) = true := by
    intro name member
    have different : name ≠ reference :=
      fun same => fresh (same ▸ member)
    simpa using different
  rw [cycleFrom, List.dropWhile_append_of_pos skipped]
  simp

section

variable {edge : Text → Text → Prop}

/-- A walk along the edges that comes back to its first table and meets no other twice. -/
structure Circular (edge : Text → Text → Prop) (circle : List Text) : Prop where
  walk :
    circle.IsChain edge
  closes :
    ∃ first others,
      circle = first :: others ++ [first] ∧
        others ≠ [] ∧
        (first :: others).Nodup

/-- A circle leads from a table to itself. -/
theorem Circular.exists_transGen
    {circle : List Text}
    (circular : Circular edge circle) :
    ∃ table, Relation.TransGen edge table table := by
  obtain ⟨first, others, rfl, _, _⟩ := circular.closes
  have steps :
      (first :: others ++ [first]).IsChain (Relation.TransGen edge) :=
    circular.walk.imp fun _ _ related => .single related
  have reached := steps.pairwise
  rw [List.cons_append, List.pairwise_cons] at reached
  exact ⟨first, reached.1 first (by simp)⟩

/-- The tables under way: a walk along the edges that ends at `table`. -/
structure UnderWay
    (edge : Text → Text → Prop)
    (path : List Text)
    (table : Text) : Prop where
  last :
    ∃ earlier, path = earlier ++ [table]
  walk :
    path.IsChain edge
  distinct :
    path.Nodup

namespace UnderWay

theorem start (edge : Text → Text → Prop) (table : Text) :
    UnderWay edge [table] table where
  last := ⟨[], rfl⟩
  walk := .singleton table
  distinct := by simp

theorem walk_concat
    {path : List Text}
    {table reference : Text}
    (underWay : UnderWay edge path table)
    (related : edge table reference) :
    (path ++ [reference]).IsChain edge := by
  apply underWay.walk.append (.singleton reference)
  obtain ⟨earlier, rfl⟩ := underWay.last
  simpa using related

theorem enter
    {path : List Text}
    {table reference : Text}
    (underWay : UnderWay edge path table)
    (related : edge table reference)
    (unmet : reference ∉ path) :
    UnderWay edge (path ++ [reference]) reference where
  last := ⟨path, rfl⟩
  walk := underWay.walk_concat related
  distinct := by
    rw [List.nodup_append]
    refine ⟨underWay.distinct, by simp, ?_⟩
    intro name member other isReference same
    rw [List.mem_singleton] at isReference
    exact unmet (isReference ▸ same ▸ member)

/-- An edge to another table of the path closes a circle. -/
theorem circular_cycleFrom
    {path : List Text}
    {table reference : Text}
    (underWay : UnderWay edge path table)
    (related : edge table reference)
    (other : reference ≠ table)
    (met : reference ∈ path) :
    Circular edge (cycleFrom path reference) := by
  have onward := underWay.walk_concat related
  obtain ⟨earlier, isPath⟩ := underWay.last
  obtain ⟨before, after, rfl, fresh⟩ := List.eq_append_cons_of_mem met
  rw [cycleFrom_append_cons after fresh]
  constructor
  · rw [List.append_assoc] at onward
    exact onward.right_of_append
  · refine ⟨reference, after, rfl, ?_, ?_⟩
    · rcases of_concat_eq_append_cons isPath.symm with
        ⟨_, same, _⟩ | ⟨others, rfl, _⟩
      · exact (other same).elim
      · simp
    · exact (List.nodup_append.mp underWay.distinct).2.1

end UnderWay

/-- The edges lead from `table` to the defined tables among `names`, itself apart. -/
def Related
    (edge : Text → Text → Prop)
    (index : Index)
    (table : Text)
    (names : List Text) : Prop :=
  ∀ reference ∈ names,
    reference ≠ table →
    reference ∈ index.names →
    edge table reference

theorem Related.tail
    {index : Index}
    {table reference : Text}
    {rest : List Text}
    (related : Related edge index table (reference :: rest)) :
    Related edge index table rest :=
  fun name member => related name (List.mem_cons_of_mem _ member)

theorem Related.edge_of_found
    {index : Index}
    {table reference : Text}
    {rest : List Text}
    {definition : Block}
    (related : Related edge index table (reference :: rest))
    (other : reference ≠ table)
    (found : index.find? reference = some definition) :
    edge table reference :=
  related reference (by simp) other (Index.mem_names_of_find? found)

/-- The edges lead from every table not under way to what its definition refers to. -/
def RelatedOutside
    (edge : Text → Text → Prop)
    (index : Index)
    (path : List Text) : Prop :=
  ∀ name definition,
    name ∉ path →
    index.find? name = some definition →
    Related edge index name (references definition.text)

theorem RelatedOutside.enter
    {index : Index}
    {path : List Text}
    (related : RelatedOutside edge index path)
    (reference : Text) :
    RelatedOutside edge index (path ++ [reference]) :=
  fun name definition outside =>
    related name definition
      (fun member => outside (List.mem_append_left _ member))

/--
The circle that ends a resolution is a circle of the edges, if these lead from `table` to the
names gone through and from every table not under way to what its definition refers to.
-/
theorem Resolves.circular
    {index : Index}
    {path names known : List Text}
    {table : Text}
    {steps : List Step}
    {circle : List Text}
    (resolves : Resolves index path table names known steps (some circle))
    (underWay : UnderWay edge path table)
    (refers : Related edge index table names)
    (entered : RelatedOutside edge index path) :
    Circular edge circle := by
  generalize isEnding : some circle = ending at resolves
  induction resolves with
  | nothing =>
      cases isEnding
  | present _ _ inductionHypothesis =>
      exact inductionHypothesis underWay refers.tail entered isEnding
  | outside _ _ _ _ inductionHypothesis =>
      exact inductionHypothesis underWay refers.tail entered isEnding
  | closed other _ found met =>
      cases isEnding
      exact underWay.circular_cycleFrom
        (refers.edge_of_found other found) other met
  | descended _ _ _ _ _ _ _ outerHypothesis =>
      exact outerHypothesis underWay refers.tail entered isEnding
  | broken other _ found unmet _ innerHypothesis =>
      exact innerHypothesis
        (underWay.enter (refers.edge_of_found other found) unmet)
        (entered _ _ unmet found) (entered.enter _) isEnding

/--
A resolution creates only tables that the edges lead to from its own, if these lead from there
to the names gone through and from every table not under way to what its definition refers to.
The way there meets no table that was listed before.
-/
theorem Resolves.transGen_unlisted_of_created
    {index : Index}
    {path names known listed : List Text}
    {table created : Text}
    {steps : List Step}
    {circle : Option (List Text)}
    (resolves : Resolves index path table names known steps circle)
    (isListed : listed ⊆ known)
    (refers : Related edge index table names)
    (entered : RelatedOutside edge index path)
    (isCreated : created ∈ createdNames steps) :
    Relation.TransGen (fun name reference => edge name reference ∧ reference ∉ listed)
      table created := by
  induction resolves with
  | nothing | closed =>
      cases isCreated
  | present _ _ inductionHypothesis =>
      exact inductionHypothesis isListed refers.tail entered isCreated
  | outside _ _ _ _ inductionHypothesis =>
      exact inductionHypothesis isListed refers.tail entered isCreated
  | @descended path known _ table reference _ inner _ _
      other fresh found unmet _ _ innerHypothesis outerHypothesis =>
      have related : edge table reference ∧ reference ∉ listed :=
        ⟨refers.edge_of_found other found, fun member => fresh (isListed member)⟩
      have stillListed : listed ⊆ known ++ createdNames inner ++ [reference] := by
        intro name member
        simp [isListed member]
      rw [createdNames_append, createdNames_create,
        List.mem_append, List.mem_cons] at isCreated
      rcases isCreated with inInner | rfl | inOuter
      · exact .head related
          (innerHypothesis isListed (entered _ _ unmet found) (entered.enter _) inInner)
      · exact .single related
      · exact outerHypothesis stillListed refers.tail entered inOuter
  | broken other fresh found unmet _ innerHypothesis =>
      exact .head
        ⟨refers.edge_of_found other found, fun member => fresh (isListed member)⟩
        (innerHypothesis isListed (entered _ _ unmet found) (entered.enter _) isCreated)

theorem Resolves.transGen_of_created
    {index : Index}
    {path names known : List Text}
    {table created : Text}
    {steps : List Step}
    {circle : Option (List Text)}
    (resolves : Resolves index path table names known steps circle)
    (refers : Related edge index table names)
    (entered : RelatedOutside edge index path)
    (isCreated : created ∈ createdNames steps) :
    Relation.TransGen edge table created := by
  have unlisted :=
    resolves.transGen_unlisted_of_created (List.nil_subset known) refers entered isCreated
  refine Relation.TransGen.mono ?_ _ _ unlisted
  intro name reference related
  exact related.1

end

end TenantSchema.Table
