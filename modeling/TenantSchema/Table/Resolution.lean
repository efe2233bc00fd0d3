import TenantSchema.Note
import TenantSchema.Table.Ledger

/-!
# Resolving foreign keys

A table is created after the tables that it refers to.  Resolution is lazy: creating one
table first creates, depth first, the definitions that it refers to and that the ledger does
not list yet.  Tables that the script does not define are taken to exist.

What creating a table means is a parameter, an action on a session.  The session, with the
ledger and the notes, outlives a resolution that stops early.
-/

namespace TenantSchema.Table

universe u v

/-- What a resolution works on: the tables created so far, the notes, and the world outside. -/
structure Session (World : Type u) where
  ledger : Ledger
  notes : List Note
  world : World

/-- A session after an activity that came to its end or was stopped by a cause. -/
inductive Outcome (Cause : Type v) (World : Type u) where
  | done (session : Session World)
  | stopped (cause : Cause) (session : Session World)

/-- What creating a table does to a session. -/
abbrev Action (Cause : Type v) (World : Type u) :=
  Block → Session World → Outcome Cause World

/-- Why a table cannot be created. -/
inductive Obstacle (Cause : Type v) where
  /-- The block names no table. -/
  | malformed (block : Block)
  /-- The references run in a circle; its first table is repeated at the end. -/
  | cyclic (cycle : List Text)
  /-- The action recorded the table on its own. -/
  | alreadyRecorded (name : Text)
  /-- The action stopped. -/
  | action (cause : Cause)

/-- The wording of an obstacle for a definition without a name. -/
def malformedMessage (block : Block) : String :=
  s!"Table name not found in statement starting on line {block.lineNumber}: " ++
    Text.toOutput (block.preview Block.defaultPreviewLimit)

/-- The wording of an obstacle for a circle of references. -/
def cyclicMessage (cycle : List Text) : String :=
  "Cyclic foreign-key dependency: " ++
    Text.toOutput (Text.joinWith " -> ".toList cycle)

/-- The wording of an obstacle for a table that is in the ledger. -/
def alreadyRecordedMessage (name : Text) : String :=
  "Table already recorded in ledger: " ++ Text.toOutput name

namespace Session

variable {World : Type u}

/-- Add a note. -/
def note (session : Session World) (entry : Note) : Session World :=
  { session with notes := session.notes ++ [entry] }

/-- A session before anything happened. -/
def start (world : World) : Session World :=
  { ledger := .empty, notes := [], world := world }

end Session

/-- The circle that the path closes when it meets one of its own tables again. -/
def cycleFrom (path : List Text) (reference : Text) : List Text :=
  path.dropWhile (· != reference) ++ [reference]

/-- The defined tables that a path has not met. -/
def unmet (index : Index) (path : List Text) : Nat :=
  index.names.countP (· ∉ path)

/-- A path that goes on to a defined table it has not met leaves fewer unmet. -/
theorem unmet_append_lt
    {index : Index}
    {path : List Text}
    {reference : Text}
    (defined : reference ∈ index.names)
    (fresh : reference ∉ path) :
    unmet index (path ++ [reference]) < unmet index path := by
  unfold unmet
  generalize index.names = names at defined
  induction names with
  | nil =>
      simp at defined
  | cons name rest inductionHypothesis =>
      have weaker :
          rest.countP (· ∉ path ++ [reference]) ≤ rest.countP (· ∉ path) := by
        apply List.countP_mono_left
        intro member _ outside
        simp_all
      by_cases same : name = reference
      · subst same
        simp only [List.countP_cons, List.mem_append, List.mem_singleton, or_true,
          not_true_eq_false, decide_false, Bool.false_eq_true, if_false, fresh,
          not_false_eq_true, decide_true, if_true]
        simp only [List.mem_append, List.mem_singleton] at weaker
        omega
      · have later : reference ∈ rest := by
          simpa [Ne.symm same] using defined
        have smaller := inductionHypothesis later
        by_cases met : name ∈ path <;>
          simp [met, same] at smaller ⊢ <;> omega

section

variable {Cause : Type v} {World : Type u}

/--
Go through the references of a table.  A reference to the table itself or to a table of the
ledger asks for nothing; one that the script does not define is noted; one on the path closes
a circle; any other is created by `create`, which is given that it is defined and not met.
-/
def createReferences
    (index : Index)
    (path : List Text)
    (table : Text)
    (create :
      (reference : Text) →
      Block →
      reference ∈ index.names →
      reference ∉ path →
      Session World →
      Outcome (Obstacle Cause) World) :
    List Text → Session World → Outcome (Obstacle Cause) World
  | [], session =>
      .done session
  | reference :: rest, session =>
      if reference = table ∨ reference ∈ session.ledger.names then
        createReferences index path table create rest session
      else
        match found : index.find? reference with
        | none =>
            createReferences index path table create rest
              (session.note (.outsideReference table reference))
        | some definition =>
            if met : reference ∈ path then
              .stopped (.cyclic (cycleFrom path reference)) session
            else
              have defined : reference ∈ index.names :=
                Index.find?_isSome_iff.1 (by simp [found])
              match create reference definition defined met session with
              | .done later =>
                  createReferences index path table create rest later
              | .stopped obstacle later =>
                  .stopped obstacle later

/-- Create one table whose references are there, and record it. -/
def createAndRecord
    (action : Action Cause World)
    (table : Text)
    (block : Block)
    (session : Session World) :
    Outcome (Obstacle Cause) World :=
  match action block session with
  | .stopped cause later =>
      .stopped (.action cause) later
  | .done later =>
      match later.ledger.record? table with
      | none =>
          .stopped (.alreadyRecorded table) later
      | some ledger =>
          .done { later with ledger := ledger }

/--
Create a table after everything that it refers to.  The path lists the tables under way, this
one last; it grows by defined tables that it has not met, so it cannot grow forever.
-/
def createTable
    (index : Index)
    (action : Action Cause World)
    (path : List Text)
    (table : Text)
    (block : Block)
    (session : Session World) :
    Outcome (Obstacle Cause) World :=
  let outcome :=
    createReferences index path table
      (fun reference definition _defined _fresh =>
        createTable index action (path ++ [reference]) reference definition)
      (references block.text)
      session
  match outcome with
  | .done later =>
      createAndRecord action table block later
  | .stopped obstacle later =>
      .stopped obstacle later
termination_by unmet index path
decreasing_by
  exact unmet_append_lt _defined _fresh

/-- Create the table of a block, unless the ledger lists it already. -/
def ensureCreated
    (index : Index)
    (action : Action Cause World)
    (block : Block)
    (session : Session World) :
    Outcome (Obstacle Cause) World :=
  match nameOf? block with
  | none =>
      .stopped (.malformed block) session
  | some table =>
      if table ∈ session.ledger.names then
        .done session
      else
        createTable index action [table] table block session

end

end TenantSchema.Table
