import TenantSchema.Proofs.Resolution.Exploration

namespace TenantSchema.Table

/-!
# Going through references once

The references of a table are gone through before the table is recorded, so the ledger alone
does not say that they are under way; the path does.  Together they keep an exploration from
going through the references of a table twice, as long as running definitions only adds to
the ledger.  Since every call but the first follows a reference, this bounds the calls.
-/

universe u v

section

variable
  {Cause : Type v}
  {World : Type u}
  {index : Index}
  {action : Action Cause World}
  {depth : Nat}
  {path : List Text}
  {table : Text}
  {block : Block}
  {session : Session World}

/-- An action that takes nothing out of the ledger. -/
def AddsToLedger (action : Action Cause World) : Prop :=
  ∀ block session,
    session.ledger.names ⊆ (action block session).session.ledger.names

theorem KeepsLedger.addsToLedger
    (keepsLedger : KeepsLedger action) :
    AddsToLedger action := by
  intro block session
  rw [keepsLedger block session]
  exact List.Subset.refl _

/--
The calls of an exploration from `session` go through the references of a table at most
once, and of no table that the ledger lists.  If nothing stops the exploration, the ledger
lists these tables in the end, and lost none.
-/
structure Exploration.WalksOnce
    {Cause : Type v}
    (session : Session World)
    (exploration : Exploration Cause World) : Prop where
  distinct : (walkedTables exploration.calls).Nodup
  fresh : ∀ table ∈ walkedTables exploration.calls, table ∉ session.ledger.names
  recorded :
    ∀ later,
      exploration.outcome = .done later →
      session.ledger.names ++ walkedTables exploration.calls ⊆ later.ledger.names

namespace Exploration

variable {Halting : Type v}

/-- Without going through references only the ledger matters. -/
theorem walksOnce_of_nothing
    {exploration : Exploration Halting World}
    (nothing : walkedTables exploration.calls = [])
    (kept :
      session.ledger.names ⊆ exploration.outcome.session.ledger.names) :
    exploration.WalksOnce session where
  distinct := by rw [nothing]; exact List.nodup_nil
  fresh := by simp [nothing]
  recorded := by
    intro later ended
    rw [ended] at kept
    simpa [nothing] using kept

theorem WalksOnce.of_ledger
    {exploration : Exploration Halting World}
    {other : Session World}
    (once : exploration.WalksOnce other)
    (sameLedger : other.ledger = session.ledger) :
    exploration.WalksOnce session where
  distinct := once.distinct
  fresh := sameLedger ▸ once.fresh
  recorded := sameLedger ▸ once.recorded

/-- What is gone through first is in the ledger afterwards, so it is not gone through again. -/
theorem WalksOnce.append
    {first second : Exploration Halting World}
    {later : Session World}
    (once : first.WalksOnce session)
    (ended : first.outcome = .done later)
    (onceLater : second.WalksOnce later) :
    WalksOnce session {
      calls := first.calls ++ second.calls
      outcome := second.outcome
    } where
  distinct := by
    rw [walkedTables_append, List.nodup_append]
    refine ⟨once.distinct, onceLater.distinct, ?_⟩
    rintro table early _ late rfl
    exact onceLater.fresh table late
      (once.recorded later ended (List.mem_append_right _ early))
  fresh := by
    intro table walked
    rw [walkedTables_append, List.mem_append] at walked
    rcases walked with early | late
    · exact once.fresh table early
    · intro listed
      exact onceLater.fresh table late
        (once.recorded later ended (List.mem_append_left _ listed))
  recorded := by
    intro last finished
    have kept := onceLater.recorded last finished
    have before := once.recorded later ended
    rw [List.append_subset] at kept before ⊢
    refine ⟨List.Subset.trans before.1 kept.1, ?_⟩
    rw [walkedTables_append, List.append_subset]
    exact ⟨List.Subset.trans before.2 kept.1, kept.2⟩

end Exploration

theorem walksOnce_of_exploreReferences
    {explore : Block → Session World → Option (Exploration (Obstacle Cause) World)}
    (once :
      ∀ definition current inner,
        explore definition current = some inner → inner.WalksOnce current)
    {names : List Text}
    {exploration : Exploration (Obstacle Cause) World}
    (finished :
      exploreReferences index table explore names session = some exploration) :
    exploration.WalksOnce session := by
  induction names generalizing session exploration with
  | nil =>
      cases finished
      exact Exploration.walksOnce_of_nothing rfl (List.Subset.refl _)
  | cons reference rest inductionHypothesis =>
      rcases exploreReferences_cons_cases finished with
        ⟨later, sameLedger, continued⟩ | ⟨definition, first, _, explored, continued⟩
      · exact (inductionHypothesis continued).of_ledger sameLedger
      · have onceFirst := once definition session first explored
        rcases Exploration.eq_of_goOn continued with
          ⟨_, _, _, rfl⟩ | ⟨later, second, ended, further, rfl⟩
        · exact onceFirst
        · exact onceFirst.append ended (inductionHypothesis further)

/-- The calls under a walk go through no references of a table that was on the path before. -/
theorem not_mem_walkedTables_of_path
    (distinctPath : path.Nodup)
    {names : List Text}
    {walk : Exploration (Obstacle Cause) World}
    (walked :
      exploreReferences index table (exploreWithin index action depth path) names
        session = some walk)
    {earlier : Text}
    (underWay : earlier ∈ path) :
    earlier ∉ walkedTables walk.calls := by
  intro again
  obtain ⟨call, made, walkedEarlier⟩ := mem_walkedTables_iff.mp again
  obtain ⟨_, _, _, _, _, explored, member⟩ :=
    mem_calls_of_exploreReferences walked made
  have under := isUnder_of_exploreWithin explored member
  have distinct := under.distinct distinctPath
  rw [ResolverCall.underWay, walkedEarlier, List.nodup_append] at distinct
  exact distinct.2.2 earlier (under.deepens.subset underWay) earlier (by simp) rfl

/-- After its references were gone through, a table is created and recorded. -/
theorem Exploration.WalksOnce.create
    (adds : AddsToLedger action)
    {walk : Exploration (Obstacle Cause) World}
    (once : walk.WalksOnce session)
    (missing : table ∉ session.ledger.names)
    (notAgain : table ∉ walkedTables walk.calls) :
    WalksOnce session {
      calls := ⟨path, block, some table⟩ :: walk.calls
      outcome := walk.outcome.andThen (createAndRecord action table block)
    } where
  distinct := by
    simpa using List.nodup_cons.mpr ⟨notAgain, once.distinct⟩
  fresh := by
    intro other walkedOther
    rw [walkedTables_cons] at walkedOther
    rcases List.mem_cons.mp walkedOther with rfl | nested
    · exact missing
    · exact once.fresh other nested
  recorded := by
    intro later created
    dsimp only at created
    cases ended : walk.outcome with
    | stopped obstacle middle =>
        rw [ended] at created
        cases created
    | done middle =>
        rw [ended, Outcome.done_andThen] at created
        obtain ⟨ran, ledger, acted, listed, rfl⟩ := createAndRecord_eq_done created
        have kept := adds block middle
        rw [acted] at kept
        have before := List.Subset.trans (once.recorded middle ended) kept
        have names := Ledger.names_of_record? listed
        dsimp only at names ⊢
        rw [names, walkedTables_cons]
        intro other
        simp only [List.mem_append, Option.toList_some, List.mem_singleton]
        rintro (early | rfl | nested)
        · exact .inl (before (List.mem_append_left _ early))
        · exact .inr rfl
        · exact .inl (before (List.mem_append_right _ nested))

/--
A call goes through its references before it records its table, but the calls under it have
the table on their path and leave it alone.  The induction is on the depth.
-/
theorem walksOnce_of_exploreWithin
    (adds : AddsToLedger action)
    (distinctPath : path.Nodup)
    {exploration : Exploration (Obstacle Cause) World}
    (finished :
      exploreWithin index action depth path block session = some exploration) :
    exploration.WalksOnce session := by
  induction depth generalizing path block session exploration with
  | zero =>
      cases finished
  | succ depth inductionHypothesis =>
      rcases exploreWithin_cases finished with
        ⟨single, unchanged, _⟩ | ⟨table, walk, _, unmet, missing, walked, rfl⟩
      · refine Exploration.walksOnce_of_nothing (by simp [single]) ?_
        rw [unchanged]
        exact List.Subset.refl _
      · have extended : (path ++ [table]).Nodup := by
          simpa using distinctPath.concat unmet
        have once := walksOnce_of_exploreReferences
          (fun _ _ _ explored => inductionHypothesis extended explored) walked
        exact once.create adds missing
          (not_mem_walkedTables_of_path extended walked (by simp))

/-! ## Counting the calls -/

theorem length_calls_of_exploreReferences
    {explore : Block → Session World → Option (Exploration (Obstacle Cause) World)}
    (bounded :
      ∀ definition current inner,
        explore definition current = some inner →
        inner.calls.length ≤ 1 + (followedReferences inner.calls).length)
    {names : List Text}
    {exploration : Exploration (Obstacle Cause) World}
    (finished :
      exploreReferences index table explore names session = some exploration) :
    exploration.calls.length ≤
      names.length + (followedReferences exploration.calls).length := by
  induction names generalizing session exploration with
  | nil =>
      cases finished
      simp
  | cons reference rest inductionHypothesis =>
      rw [List.length_cons]
      rcases exploreReferences_cons_cases finished with
        ⟨later, _, continued⟩ | ⟨definition, first, _, explored, continued⟩
      · have others := inductionHypothesis continued
        omega
      · have one := bounded definition session first explored
        rcases Exploration.eq_of_goOn continued with
          ⟨_, _, _, rfl⟩ | ⟨later, second, _, further, rfl⟩
        · omega
        · have others := inductionHypothesis further
          simp only [List.length_append, followedReferences_append]
          omega

/-- Every call but the first was made for a reference that another call went through. -/
theorem length_calls_of_exploreWithin
    {exploration : Exploration (Obstacle Cause) World}
    (finished :
      exploreWithin index action depth path block session = some exploration) :
    exploration.calls.length ≤ 1 + (followedReferences exploration.calls).length := by
  induction depth generalizing path block session exploration with
  | zero =>
      cases finished
  | succ depth inductionHypothesis =>
      rcases exploreWithin_cases finished with
        ⟨single, _⟩ | ⟨table, walk, _, _, _, walked, rfl⟩
      · simp [single]
      · have nested := length_calls_of_exploreReferences
          (fun _ _ _ explored => inductionHypothesis explored) walked
        simp only [List.length_cons, followedReferences_cons, ResolverCall.followed,
          List.length_append]
        omega

end

end TenantSchema.Table
