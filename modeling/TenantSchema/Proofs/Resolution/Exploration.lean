import Mathlib.Data.List.Nodup
import TenantSchema.Proofs.Table.FirstDefinition
import TenantSchema.Proofs.Table.Performance

namespace TenantSchema.Table

/-!
# The calls of a resolution

A resolution calls itself for each reference that it follows.  An exploration is a resolution
that keeps a list of these calls and gives up when they nest deeper than it is allowed to.
Each call looks for its table on the path and in the ledger before it goes through its
references, as if it did not know who made it.

With two levels more than there are tables to meet, an exploration comes to what the
resolution comes to, and its paths never repeat a table.
-/

universe u v

/-- One call of a resolution. -/
structure ResolverCall where
  /-- The tables under way when the call is made. -/
  path : List Text
  /-- The definition that the call is about. -/
  block : Block
  /-- The table whose references the call goes through, if it comes to that. -/
  walked : Option Text
  deriving Repr, DecidableEq

namespace ResolverCall

/-- The tables under way while a call goes through its references. -/
def underWay (call : ResolverCall) : List Text :=
  call.path ++ call.walked.toList

/-- The references that a call goes through. -/
def followed (call : ResolverCall) : List Text :=
  match call.walked with
  | none =>
      []
  | some _ =>
      references call.block.text

end ResolverCall

/-- The tables whose references calls go through, in order. -/
def walkedTables (calls : List ResolverCall) : List Text :=
  calls.filterMap ResolverCall.walked

/-- The references that calls go through, in order. -/
def followedReferences (calls : List ResolverCall) : List Text :=
  calls.flatMap ResolverCall.followed

@[simp] theorem walkedTables_nil :
    walkedTables [] = [] :=
  rfl

@[simp] theorem followedReferences_nil :
    followedReferences [] = [] :=
  rfl

@[simp] theorem walkedTables_append
    (first second : List ResolverCall) :
    walkedTables (first ++ second) = walkedTables first ++ walkedTables second :=
  List.filterMap_append

@[simp] theorem walkedTables_cons
    (call : ResolverCall)
    (calls : List ResolverCall) :
    walkedTables (call :: calls) = call.walked.toList ++ walkedTables calls := by
  cases walked : call.walked <;> simp [walkedTables, walked]

@[simp] theorem followedReferences_append
    (first second : List ResolverCall) :
    followedReferences (first ++ second) =
      followedReferences first ++ followedReferences second :=
  List.flatMap_append

@[simp] theorem followedReferences_cons
    (call : ResolverCall)
    (calls : List ResolverCall) :
    followedReferences (call :: calls) = call.followed ++ followedReferences calls :=
  List.flatMap_cons

theorem mem_walkedTables_iff
    {calls : List ResolverCall}
    {table : Text} :
    table ∈ walkedTables calls ↔ ∃ call ∈ calls, call.walked = some table :=
  List.mem_filterMap

/-- The calls that were made, in order, and what they came to. -/
structure Exploration (Cause : Type v) (World : Type u) where
  calls : List ResolverCall
  outcome : Outcome Cause World

/-- Go on with the session that an exploration leaves, unless it was stopped. -/
def Exploration.goOn
    {Cause : Type v}
    {World : Type u}
    (first : Exploration Cause World)
    (next : Session World → Option (Exploration Cause World)) :
    Option (Exploration Cause World) :=
  match first.outcome with
  | .stopped _ _ =>
      some first
  | .done later =>
      (next later).map fun second =>
        { second with calls := first.calls ++ second.calls }

section

variable {Cause : Type v} {World : Type u}

/--
Go through the references of a table, exploring by `explore` the definitions that the ledger
does not list.
-/
def exploreReferences
    (index : Index)
    (table : Text)
    (explore : Block → Session World → Option (Exploration (Obstacle Cause) World)) :
    List Text → Session World → Option (Exploration (Obstacle Cause) World)
  | [], session =>
      some { calls := [], outcome := .done session }
  | reference :: rest, session =>
      if reference = table ∨ reference ∈ session.ledger.names then
        exploreReferences index table explore rest session
      else
        match index.find? reference with
        | none =>
            exploreReferences index table explore rest
              (session.note (.outsideReference table reference))
        | some definition =>
            (explore definition session).bind fun first =>
              first.goOn (exploreReferences index table explore rest)

/-- Create the table of a block with calls that nest at most `depth` deep. -/
def exploreWithin
    (index : Index)
    (action : Action Cause World) :
    (depth : Nat) → (path : List Text) → Block → Session World →
      Option (Exploration (Obstacle Cause) World)
  | 0, _, _, _ =>
      none
  | depth + 1, path, block, session =>
      match nameOf? block with
      | none =>
          some {
            calls := [⟨path, block, none⟩]
            outcome := .stopped (.malformed block) session
          }
      | some table =>
          if table ∈ path then
            some {
              calls := [⟨path, block, none⟩]
              outcome := .stopped (.cyclic (cycleFrom path table)) session
            }
          else if table ∈ session.ledger.names then
            some {
              calls := [⟨path, block, none⟩]
              outcome := .done session
            }
          else
            (exploreReferences index table
                (exploreWithin index action depth (path ++ [table]))
                (references block.text) session).map fun walk =>
              {
                calls := ⟨path, block, some table⟩ :: walk.calls
                outcome := walk.outcome.andThen (createAndRecord action table block)
              }

variable
  {index : Index}
  {action : Action Cause World}
  {depth : Nat}
  {path : List Text}
  {table : Text}
  {block : Block}
  {session : Session World}

/-! ## What a call can do -/

theorem Exploration.eq_of_goOn
    {Cause : Type v}
    {first exploration : Exploration Cause World}
    {next : Session World → Option (Exploration Cause World)}
    (finished : first.goOn next = some exploration) :
    (∃ cause later,
      first.outcome = .stopped cause later ∧ exploration = first) ∨
      ∃ later second,
        first.outcome = .done later ∧
          next later = some second ∧
          exploration = {
            calls := first.calls ++ second.calls
            outcome := second.outcome
          } := by
  unfold goOn at finished
  cases outcome : first.outcome with
  | stopped cause later =>
      rw [outcome] at finished
      exact .inl ⟨cause, later, rfl, (Option.some.inj finished).symm⟩
  | done later =>
      rw [outcome] at finished
      obtain ⟨second, continued, rfl⟩ := Option.map_eq_some_iff.mp finished
      exact .inr ⟨later, second, rfl, continued, rfl⟩

/--
Going through a reference either leaves the ledger as it is, or explores the definition of
the reference and goes on unless that was stopped.
-/
theorem exploreReferences_cons_cases
    {explore : Block → Session World → Option (Exploration (Obstacle Cause) World)}
    {reference : Text}
    {rest : List Text}
    {exploration : Exploration (Obstacle Cause) World}
    (finished :
      exploreReferences index table explore (reference :: rest) session =
        some exploration) :
    (∃ later : Session World,
      later.ledger = session.ledger ∧
        exploreReferences index table explore rest later = some exploration) ∨
      ∃ definition first,
        index.find? reference = some definition ∧
          explore definition session = some first ∧
          first.goOn (exploreReferences index table explore rest) =
            some exploration := by
  rw [exploreReferences] at finished
  by_cases settled : reference = table ∨ reference ∈ session.ledger.names
  · rw [if_pos settled] at finished
    exact .inl ⟨session, rfl, finished⟩
  · rw [if_neg settled] at finished
    cases found : index.find? reference with
    | none =>
        rw [found] at finished
        exact .inl
          ⟨session.note (.outsideReference table reference), rfl, finished⟩
    | some definition =>
        rw [found] at finished
        obtain ⟨first, explored, continued⟩ := Option.bind_eq_some_iff.mp finished
        exact .inr ⟨definition, first, rfl, explored, continued⟩

/--
A call goes through no references and leaves the session alone, and it is only done if the
ledger lists its table; or it goes through the references of a table that is neither on the
path nor in the ledger, and then creates the table.
-/
theorem exploreWithin_cases
    {exploration : Exploration (Obstacle Cause) World}
    (finished :
      exploreWithin index action (depth + 1) path block session = some exploration) :
    (exploration.calls = [⟨path, block, none⟩] ∧
      exploration.outcome.session = session ∧
      ∀ later,
        exploration.outcome = .done later →
        ∃ table, nameOf? block = some table ∧ table ∈ session.ledger.names) ∨
      ∃ table walk,
        nameOf? block = some table ∧
          table ∉ path ∧
          table ∉ session.ledger.names ∧
          exploreReferences index table
              (exploreWithin index action depth (path ++ [table]))
              (references block.text) session = some walk ∧
          exploration = {
            calls := ⟨path, block, some table⟩ :: walk.calls
            outcome := walk.outcome.andThen (createAndRecord action table block)
          } := by
  rw [exploreWithin] at finished
  cases named : nameOf? block with
  | none =>
      rw [named] at finished
      cases finished
      exact .inl ⟨rfl, rfl, by rintro _ ⟨⟩⟩
  | some table =>
      simp only [named] at finished
      split at finished
      · cases finished
        exact .inl ⟨rfl, rfl, by rintro _ ⟨⟩⟩
      · rename_i unmet
        split at finished
        · rename_i listed
          cases finished
          exact .inl ⟨rfl, rfl, fun _ _ => ⟨table, rfl, listed⟩⟩
        · rename_i missing
          obtain ⟨walk, walked, rfl⟩ := Option.map_eq_some_iff.mp finished
          exact .inr ⟨table, walk, rfl, unmet, missing, walked, rfl⟩

/-- Every call made on the way through a reference list was made to explore a definition. -/
theorem mem_calls_of_exploreReferences
    {explore : Block → Session World → Option (Exploration (Obstacle Cause) World)}
    {names : List Text}
    {exploration : Exploration (Obstacle Cause) World}
    (finished :
      exploreReferences index table explore names session = some exploration)
    {call : ResolverCall}
    (member : call ∈ exploration.calls) :
    ∃ reference definition current inner,
      index.find? reference = some definition ∧
        explore definition current = some inner ∧
        call ∈ inner.calls := by
  induction names generalizing session exploration with
  | nil =>
      cases finished
      cases member
  | cons reference rest inductionHypothesis =>
      rcases exploreReferences_cons_cases finished with
        ⟨later, _, continued⟩ | ⟨definition, first, found, explored, continued⟩
      · exact inductionHypothesis continued member
      · rcases Exploration.eq_of_goOn continued with
          ⟨_, _, _, rfl⟩ | ⟨later, second, _, further, rfl⟩
        · exact ⟨reference, definition, session, exploration,
            found, explored, member⟩
        · rcases List.mem_append.mp member with made | made
          · exact ⟨reference, definition, session, first, found, explored, made⟩
          · exact inductionHypothesis further made

/-! ## Depth and paths -/

/-- What is true of every call under a call for `block` at `path`. -/
structure ResolverCall.IsUnder
    (index : Index)
    (depth : Nat)
    (path : List Text)
    (block : Block)
    (call : ResolverCall) : Prop where
  deepens : path <+: call.path
  shallow : call.path.length < path.length + depth
  distinct : path.Nodup → call.underWay.Nodup
  named : ∀ table, call.walked = some table → nameOf? call.block = some table
  origin : call.block = block ∨ ∃ name, index.find? name = some call.block

/-- The path grows by one table with each level, and never by a table that it lists. -/
theorem isUnder_of_exploreWithin
    {exploration : Exploration (Obstacle Cause) World}
    (finished :
      exploreWithin index action depth path block session = some exploration)
    {call : ResolverCall}
    (member : call ∈ exploration.calls) :
    call.IsUnder index depth path block := by
  induction depth generalizing path block session exploration with
  | zero =>
      cases finished
  | succ depth inductionHypothesis =>
      rcases exploreWithin_cases finished with
        ⟨single, _⟩ | ⟨table, walk, named, unmet, _, walked, rfl⟩
      · rw [single, List.mem_singleton] at member
        subst member
        exact {
          deepens := List.prefix_rfl
          shallow := by simp
          distinct := by simp [ResolverCall.underWay]
          named := by simp
          origin := .inl rfl
        }
      · have extended (distinct : path.Nodup) : (path ++ [table]).Nodup := by
          simpa using distinct.concat unmet
        rcases List.mem_cons.mp member with rfl | nested
        · exact {
            deepens := List.prefix_rfl
            shallow := by simp
            distinct := extended
            named := by rintro _ ⟨⟩; exact named
            origin := .inl rfl
          }
        · obtain ⟨reference, definition, current, inner, found, explored, made⟩ :=
            mem_calls_of_exploreReferences walked nested
          have under := inductionHypothesis explored made
          have grown : (path ++ [table]).length = path.length + 1 := by simp
          exact {
            deepens := (List.prefix_append path [table]).trans under.deepens
            shallow := by have := under.shallow; omega
            distinct := fun distinct => under.distinct (extended distinct)
            named := under.named
            origin := .inr (under.origin.elim
              (fun same => ⟨reference, same ▸ found⟩) id)
          }

/-! ## Enough depth -/

/-- A walk changes nothing when what it explores with is replaced by something that agrees. -/
theorem exploreReferences_of_agrees
    {explore other : Block → Session World → Option (Exploration (Obstacle Cause) World)}
    (agrees :
      ∀ definition current inner,
        explore definition current = some inner →
        other definition current = some inner)
    {names : List Text}
    {exploration : Exploration (Obstacle Cause) World}
    (finished :
      exploreReferences index table explore names session = some exploration) :
    exploreReferences index table other names session = some exploration := by
  induction names generalizing session exploration with
  | nil =>
      exact finished
  | cons reference rest inductionHypothesis =>
      rw [exploreReferences] at finished ⊢
      by_cases settled : reference = table ∨ reference ∈ session.ledger.names
      · rw [if_pos settled] at finished ⊢
        exact inductionHypothesis finished
      · rw [if_neg settled] at finished ⊢
        cases found : index.find? reference with
        | none =>
            rw [found] at finished
            exact inductionHypothesis finished
        | some definition =>
            rw [found] at finished
            obtain ⟨first, explored, continued⟩ :=
              Option.bind_eq_some_iff.mp finished
            simp only [agrees _ _ _ explored, Option.bind_some]
            unfold Exploration.goOn at continued ⊢
            split
            · rename_i stopped
              rw [stopped] at continued
              exact continued
            · rename_i later ended
              rw [ended] at continued
              obtain ⟨second, further, rfl⟩ := Option.map_eq_some_iff.mp continued
              rw [inductionHypothesis further]
              rfl

theorem exploreWithin_succ
    {exploration : Exploration (Obstacle Cause) World}
    (finished :
      exploreWithin index action depth path block session = some exploration) :
    exploreWithin index action (depth + 1) path block session =
      some exploration := by
  induction depth generalizing path block session exploration with
  | zero =>
      cases finished
  | succ depth inductionHypothesis =>
      rw [exploreWithin] at finished ⊢
      cases named : nameOf? block with
      | none =>
          simpa only [named] using finished
      | some table =>
          simp only [named] at finished ⊢
          split
          · rename_i met
            simpa only [if_pos met] using finished
          · rename_i unmet
            split
            · rename_i listed
              simpa only [if_neg unmet, if_pos listed] using finished
            · rename_i missing
              simp only [if_neg unmet, if_neg missing] at finished
              obtain ⟨walk, walked, rfl⟩ := Option.map_eq_some_iff.mp finished
              rw [exploreReferences_of_agrees
                (fun _ _ _ explored => inductionHypothesis explored) walked]
              rfl

/-- An exploration that is deep enough stays the same when it may go deeper. -/
theorem exploreWithin_of_le
    {exploration : Exploration (Obstacle Cause) World}
    (finished :
      exploreWithin index action depth path block session = some exploration)
    {deeper : Nat}
    (deepEnough : depth ≤ deeper) :
    exploreWithin index action deeper path block session = some exploration := by
  induction deepEnough with
  | refl =>
      exact finished
  | step _ inductionHypothesis =>
      exact exploreWithin_succ inductionHypothesis

/-- A reference list is explored to its end if each of its definitions is. -/
theorem exists_calls_of_references
    {explore : Block → Session World → Option (Exploration (Obstacle Cause) World)}
    (closes :
      ∀ reference definition current,
        index.find? reference = some definition →
        reference ∈ path →
        ∃ calls,
          explore definition current = some {
            calls := calls
            outcome := .stopped (.cyclic (cycleFrom path reference)) current
          })
    (descends :
      ∀ reference definition current,
        index.find? reference = some definition →
        reference ∉ path →
        reference ∉ current.ledger.names →
        ∃ calls,
          explore definition current = some {
            calls := calls
            outcome :=
              createTable index action (path ++ [reference]) reference
                definition current
          })
    (names : List Text)
    (session : Session World) :
    ∃ calls,
      exploreReferences index table explore names session = some {
        calls := calls
        outcome := resolveReferences index action path table names session
      } := by
  induction names generalizing session with
  | nil =>
      exact ⟨[], rfl⟩
  | cons reference rest inductionHypothesis =>
      rw [exploreReferences]
      by_cases settled : reference = table ∨ reference ∈ session.ledger.names
      · rw [if_pos settled, resolveReferences_cons_of_settled settled]
        exact inductionHypothesis session
      · rw [if_neg settled]
        cases found : index.find? reference with
        | none =>
            rw [resolveReferences_cons_of_missing settled found]
            exact inductionHypothesis _
        | some definition =>
            by_cases met : reference ∈ path
            · obtain ⟨calls, explored⟩ := closes _ _ session found met
              rw [resolveReferences_cons_of_met settled found met]
              exact ⟨calls, by simp only [explored]; rfl⟩
            · obtain ⟨calls, explored⟩ :=
                descends _ _ session found met (not_or.mp settled).2
              rw [resolveReferences_cons_of_found settled found met]
              simp only [explored, Option.bind_some, Exploration.goOn]
              cases createTable index action (path ++ [reference]) reference
                  definition session with
              | stopped obstacle later =>
                  exact ⟨calls, rfl⟩
              | done later =>
                  obtain ⟨further, continued⟩ := inductionHypothesis later
                  exact ⟨calls ++ further, by simp [continued]⟩

/-- Every definition of an index has the name that it is found by. -/
def Index.IsConsistent (index : Index) : Prop :=
  ∀ name definition,
    index.find? name = some definition → nameOf? definition = some name

theorem Index.isConsistent_of_ofBlocks
    {blocks : List Block}
    (indexed : Index.ofBlocks blocks = .ok index) :
    index.IsConsistent := by
  intro name definition found
  rw [find?_of_ofBlocks indexed] at found
  exact (of_firstDefinition? found).2.2

/--
An exploration with two levels more than there are tables to meet comes to what the
resolution comes to: each level meets one of them, and the last call but one may close a
circle.  The induction is on the depth.
-/
theorem exists_calls_of_createTable
    (consistent : index.IsConsistent)
    (named : nameOf? block = some table)
    (unmetTable : table ∉ path)
    (missing : table ∉ session.ledger.names)
    (deepEnough : unmet index (path ++ [table]) + 2 ≤ depth) :
    ∃ calls,
      exploreWithin index action depth path block session = some {
        calls := calls
        outcome := createTable index action (path ++ [table]) table block session
      } := by
  induction depth generalizing path table block session with
  | zero =>
      omega
  | succ depth inductionHypothesis =>
      let deeper := path ++ [table]
      have closes (reference definition current)
          (found : index.find? reference = some definition)
          (met : reference ∈ deeper) :
          exploreWithin index action depth deeper definition current = some {
            calls := [⟨deeper, definition, none⟩]
            outcome := .stopped (.cyclic (cycleFrom deeper reference)) current
          } := by
        cases depth with
        | zero =>
            omega
        | succ depth =>
            simp only [exploreWithin, consistent _ _ found, if_pos met]
      have descends (reference definition current)
          (found : index.find? reference = some definition)
          (fresh : reference ∉ deeper)
          (absent : reference ∉ current.ledger.names) :
          ∃ calls,
            exploreWithin index action depth deeper definition current = some {
              calls := calls
              outcome :=
                createTable index action (deeper ++ [reference]) reference
                  definition current
            } := by
        have fewer : unmet index (deeper ++ [reference]) < unmet index deeper :=
          unmet_append_lt (Index.mem_names_of_find? found) fresh
        exact inductionHypothesis (consistent _ _ found) fresh absent
          (by dsimp only [deeper] at fewer ⊢; omega)
      have explored :
          ∃ calls,
            exploreReferences index table (exploreWithin index action depth deeper)
                (references block.text) session =
              some {
                calls := calls
                outcome :=
                  resolveReferences index action deeper table
                    (references block.text) session
              } :=
        exists_calls_of_references
          (fun reference definition current found met =>
            ⟨_, closes reference definition current found met⟩)
          descends (references block.text) session
      obtain ⟨calls, walked⟩ := explored
      refine ⟨⟨path, block, some table⟩ :: calls, ?_⟩
      rw [exploreWithin, createTable_eq]
      simp only [named, if_neg unmetTable, if_neg missing]
      exact congrArg (Option.map _) walked

theorem unmet_le
    (index : Index)
    (path : List Text) :
    unmet index path ≤ index.names.length :=
  List.countP_le_length

/-- An exploration from the start needs two levels more than there are tables. -/
theorem exists_calls_of_ensureCreated
    (consistent : index.IsConsistent)
    (action : Action Cause World)
    (block : Block)
    (session : Session World) :
    ∃ calls,
      ∀ depth,
        index.names.length + 2 ≤ depth →
        exploreWithin index action depth [] block session = some {
          calls := calls
          outcome := ensureCreated index action block session
        } := by
  have atLimit :
      ∃ calls,
        exploreWithin index action (index.names.length + 2) [] block session =
          some {
            calls := calls
            outcome := ensureCreated index action block session
          } := by
    unfold ensureCreated
    cases named : nameOf? block with
    | none =>
        exact ⟨[⟨[], block, none⟩], by simp [exploreWithin, named]⟩
    | some table =>
        by_cases listed : table ∈ session.ledger.names
        · exact ⟨[⟨[], block, none⟩],
            by simp [exploreWithin, named, listed]⟩
        · simp only [if_neg listed]
          have fewTables := unmet_le index ([] ++ [table])
          exact exists_calls_of_createTable consistent named (by simp) listed
            (by omega)
  obtain ⟨calls, explored⟩ := atLimit
  exact ⟨calls, fun depth deepEnough => exploreWithin_of_le explored deepEnough⟩

end

end TenantSchema.Table
