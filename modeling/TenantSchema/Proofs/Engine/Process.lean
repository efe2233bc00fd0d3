import Mathlib.Data.List.Nodup
import TenantSchema.EngineCache

namespace TenantSchema.EngineCache

/-!
# A process and its engines

A process asks for engines and URLs, changes its environment, and forgets its settings or its
engines, in any order.  This module says what one step does: an engine is the one kept under its
key, or a new one for the URL that the key denotes at that moment.  After any steps the cache is
sound: its keys are distinct, so are its engines, and there are no more than it has room for.
-/

/-- What a process does with its environment and its cache. -/
inductive Step where
  /-- Ask for the engine of a key. -/
  | engine (key : EngineKey)
  /-- Ask for the URL of a catalog. -/
  | url (catalog : Option Text)
  /-- Go on in another environment. -/
  | environment (environment : Environment)
  | clearSettings
  | clearEngines
  deriving Repr, DecidableEq

/-- The cache of a process and its environment. -/
structure Process where
  cache : EngineCache
  environment : Environment
  deriving Repr, DecidableEq

namespace Process

/-- A process that has not asked for anything yet. -/
def start (environment : Environment) : Process :=
  { cache := .empty, environment := environment }

/-- The settings in force: those kept, or those of the environment. -/
def settingsOf (process : Process) : Except SettingsError Settings :=
  Settings.cached process.cache.settings process.environment

/-- The URL that a catalog denotes now. -/
def urlOf (process : Process) (catalog : Option Text) : Except EngineError ServerUrl :=
  (process.cache.catalogUrl process.environment catalog).1

/-- The engine that is answered for a key now. -/
def engineOf (process : Process) (key : EngineKey) : Except EngineError Engine :=
  (process.cache.engine process.environment key).1

/-- The process after one step. -/
def perform (process : Process) : Step → Process
  | .engine key =>
      { process with cache := (process.cache.engine process.environment key).2 }
  | .url catalog =>
      { process with cache := (process.cache.catalogUrl process.environment catalog).2 }
  | .environment environment =>
      { process with environment := environment }
  | .clearSettings =>
      { process with cache := process.cache.clearSettings }
  | .clearEngines =>
      { process with cache := process.cache.clear }

/-- The process after several steps. -/
def run (process : Process) (steps : List Step) : Process :=
  steps.foldl perform process

@[simp] theorem run_append
    (process : Process)
    (first second : List Step) :
    process.run (first ++ second) = (process.run first).run second :=
  List.foldl_append

@[simp] theorem run_single
    (process : Process)
    (step : Step) :
    process.run [step] = process.perform step :=
  rfl

/-- Whether an engine is kept under a key. -/
def Keeps (process : Process) (key : EngineKey) (engine : Engine) : Prop :=
  (key, engine) ∈ process.cache.entries

/-- Whether no engine is kept under a key. -/
def Lacks (process : Process) (key : EngineKey) : Prop :=
  ∀ engine, ¬ process.Keeps key engine

/-- The settings in force decide what a catalog denotes. -/
theorem urlOf_of_settings
    (process : Process)
    (catalog : Option Text) :
    process.urlOf catalog =
      (process.settingsOf.mapError .settings).bind fun settings =>
        (EngineCache.urlOf settings catalog).mapError .url := by
  unfold urlOf settingsOf catalogUrl loadSettings
  cases Settings.cached process.cache.settings process.environment with
  | error error =>
      rfl
  | ok settings =>
      simp only [Except.mapError, Except.bind]
      cases EngineCache.urlOf settings catalog <;> rfl

theorem urlOf_congr
    {first second : Process}
    (same : first.settingsOf = second.settingsOf)
    (catalog : Option Text) :
    first.urlOf catalog = second.urlOf catalog := by
  rw [urlOf_of_settings, urlOf_of_settings, same]

/-- A catalog denotes the URL of the server, which no catalog at all denotes, pointed at it. -/
theorem urlOf_eq_map
    (process : Process)
    (catalog : Option Text) :
    process.urlOf catalog =
      (process.urlOf none).map (·.withCatalog catalog) := by
  rw [urlOf_of_settings, urlOf_of_settings]
  cases process.settingsOf with
  | error error =>
      rfl
  | ok settings =>
      simp only [Except.mapError, Except.bind, EngineCache.urlOf]
      cases ServerUrl.parse settings.databaseUrl <;> rfl

end Process

/-- Whether keys and engines of a cache are distinct and no more than there is room for. -/
structure IsSound (cache : EngineCache) : Prop where
  keys : (cache.entries.map (·.1)).Nodup
  numbers : (cache.entries.map (·.2.number)).Nodup
  numbered : ∀ entry ∈ cache.entries, entry.2.number < cache.created
  bounded : cache.entries.length ≤ capacity

/-- What is kept beside a new entry was kept before, under other keys. -/
theorem exists_entries_keep
    (cache : EngineCache)
    (key : EngineKey)
    (engine : Engine) :
    ∃ others,
      (cache.keep key engine).entries = others ++ [(key, engine)] ∧
        others.Sublist cache.entries ∧
        (∀ entry ∈ others, entry.1 ≠ key) ∧
        others.length + 1 ≤ capacity := by
  have dropped :
      ((cache.entries.filter (·.1 != key)).drop
        ((cache.entries.filter (·.1 != key)).length + 1 - capacity)).Sublist
        (cache.entries.filter (·.1 != key)) :=
    List.drop_sublist _ _
  refine ⟨_, rfl, dropped.trans List.filter_sublist, ?_, ?_⟩
  · intro entry member
    simpa using (List.mem_filter.mp (dropped.subset member)).2
  · rw [List.length_drop, capacity]
    omega

/-- Keeping an engine that no other key has leaves a sound cache. -/
theorem IsSound.keep
    {cache later : EngineCache}
    {key : EngineKey}
    {engine : Engine}
    (sound : cache.IsSound)
    (unshared :
      ∀ entry ∈ cache.entries, entry.1 ≠ key → entry.2.number ≠ engine.number)
    (entries : later.entries = (cache.keep key engine).entries)
    (numbered : engine.number < later.created)
    (grown : cache.created ≤ later.created) :
    later.IsSound := by
  obtain ⟨others, shape, sublist, otherKeys, room⟩ := cache.exists_entries_keep key engine
  rw [shape] at entries
  refine ⟨?_, ?_, ?_, ?_⟩ <;> rw [entries]
  · rw [List.map_append, List.nodup_append]
    refine ⟨sound.keys.sublist (sublist.map _), List.nodup_singleton _, ?_⟩
    intro otherKey member last isLast
    obtain ⟨entry, among, rfl⟩ := List.mem_map.mp member
    rw [List.mem_singleton.mp isLast]
    exact otherKeys entry among
  · rw [List.map_append, List.nodup_append]
    refine ⟨sound.numbers.sublist (sublist.map _), List.nodup_singleton _, ?_⟩
    intro number member other isLast
    obtain ⟨entry, among, rfl⟩ := List.mem_map.mp member
    rw [List.mem_singleton.mp isLast]
    exact unshared entry (sublist.subset among) (otherKeys entry among)
  · intro entry member
    rcases List.mem_append.mp member with before | last
    · exact Nat.lt_of_lt_of_le (sound.numbered entry (sublist.subset before)) grown
    · rw [List.mem_singleton.mp last]
      exact numbered
  · rw [List.length_append]
    exact room

namespace Process

/-- What asking for the engine of a key comes to. -/
inductive Answers (process : Process) (key : EngineKey) : Prop
  /-- The engine that is kept is answered, and stands at the end now. -/
  | kept
      (engine : Engine) :
      process.Keeps key engine →
      process.engineOf key = .ok engine →
      (process.perform (.engine key)).cache = process.cache.keep key engine →
      Answers process key
  /-- A new engine for the URL of the key is answered and kept, and so are the settings. -/
  | created
      (settings : Settings)
      (engine : Engine) :
      process.Lacks key →
      process.settingsOf = .ok settings →
      process.urlOf key.toCatalog = .ok engine.url →
      engine.number = process.cache.created →
      process.engineOf key = .ok engine →
      (process.perform (.engine key)).cache =
        { process.cache.keep key engine with
          settings := some settings
          created := process.cache.created + 1 } →
      Answers process key
  /-- The error of the URL of the key is answered, and no engine is created. -/
  | refused
      (error : EngineError) :
      process.Lacks key →
      process.urlOf key.toCatalog = .error error →
      process.engineOf key = .error error →
      (process.perform (.engine key)).cache =
        { process.cache with settings := process.settingsOf.toOption } →
      Answers process key

theorem lacks_of_find?
    {process : Process}
    {key : EngineKey}
    (unfound : process.cache.entries.find? (·.1 == key) = none) :
    process.Lacks key := by
  intro engine kept
  exact List.find?_eq_none.mp unfound _ kept (beq_self_eq_true key)

/-- Settings that cannot be loaded are not kept. -/
theorem settings_of_error
    {process : Process}
    {error : SettingsError}
    (failed : process.settingsOf = .error error) :
    process.cache.settings = process.settingsOf.toOption := by
  rw [failed]
  unfold settingsOf at failed
  cases known : process.cache.settings with
  | none =>
      rfl
  | some settings =>
      rw [known] at failed
      cases failed

/-- Asking for a URL loads the settings and does nothing else. -/
theorem cache_perform_url
    (process : Process)
    (catalog : Option Text) :
    (process.perform (.url catalog)).cache =
      { process.cache with settings := process.settingsOf.toOption } := by
  have left :
      (process.perform (.url catalog)).cache =
        (process.cache.catalogUrl process.environment catalog).2 := rfl
  unfold catalogUrl loadSettings at left
  cases loaded : process.settingsOf with
  | error error =>
      have unloaded := settings_of_error loaded
      rw [loaded] at unloaded
      unfold settingsOf at loaded
      rw [loaded] at left
      rw [left, ← unloaded]
  | ok settings =>
      unfold settingsOf at loaded
      rw [loaded] at left
      dsimp only at left
      rw [left]
      cases EngineCache.urlOf settings catalog <;> rfl

theorem answers
    (process : Process)
    (key : EngineKey) :
    process.Answers key := by
  have answered :
      process.engineOf key = (process.cache.engine process.environment key).1 := rfl
  have left :
      (process.perform (.engine key)).cache =
        (process.cache.engine process.environment key).2 := rfl
  have denoted := process.urlOf_of_settings key.toCatalog
  unfold engine at answered left
  cases found : process.cache.entries.find? (·.1 == key) with
  | some entry =>
      obtain ⟨other, engine⟩ := entry
      rw [found] at answered left
      have same : other = key := by
        simpa using List.find?_some found
      subst same
      exact .kept engine (List.mem_of_find?_eq_some found) answered left
  | none =>
      have lacks := lacks_of_find? found
      unfold loadSettings at answered left
      rw [found] at answered left
      cases loaded : process.settingsOf with
      | error error =>
          have unloaded := settings_of_error loaded
          rw [loaded] at denoted
          unfold settingsOf at loaded
          rw [loaded] at answered left
          refine .refused _ lacks denoted answered ?_
          rw [left, ← unloaded]
      | ok settings =>
          rw [loaded] at denoted
          have loadedAgain := loaded
          unfold settingsOf at loaded
          rw [loaded] at answered left
          simp only [Except.mapError, Except.bind] at denoted
          cases parsed : EngineCache.urlOf settings key.toCatalog with
          | error error =>
              simp only [parsed] at answered left denoted
              refine .refused _ lacks denoted answered ?_
              rw [left, loadedAgain]
              rfl
          | ok url =>
              simp only [parsed] at answered left denoted
              exact .created settings _ lacks loadedAgain denoted rfl answered left

/-- What is kept behind a step was kept before it, or is the engine that it created. -/
theorem keeps_perform
    {process : Process}
    {step : Step}
    {key : EngineKey}
    {engine : Engine}
    (keeps : (process.perform step).Keeps key engine) :
    step ≠ .clearEngines ∧
      (process.Keeps key engine ∨
        step = .engine key ∧ process.Lacks key ∧ process.engineOf key = .ok engine) := by
  cases step with
  | engine asked =>
      refine ⟨by simp, ?_⟩
      unfold Keeps at keeps
      cases process.answers asked with
      | kept known keepsKnown answered left =>
          obtain ⟨others, shape, sublist, _⟩ := process.cache.exists_entries_keep asked known
          rw [left, shape, List.mem_append, List.mem_singleton] at keeps
          rcases keeps with before | last
          · exact .inl (sublist.subset before)
          · obtain ⟨rfl, rfl⟩ := Prod.mk.inj last
            exact .inl keepsKnown
      | created settings known lacks _ _ _ answered left =>
          obtain ⟨others, shape, sublist, _⟩ := process.cache.exists_entries_keep asked known
          rw [left] at keeps
          dsimp only at keeps
          rw [shape, List.mem_append, List.mem_singleton] at keeps
          rcases keeps with before | last
          · exact .inl (sublist.subset before)
          · obtain ⟨rfl, rfl⟩ := Prod.mk.inj last
            exact .inr ⟨rfl, lacks, answered⟩
      | refused error lacks _ _ left =>
          rw [left] at keeps
          exact .inl keeps
  | url catalog =>
      unfold Keeps at keeps
      rw [cache_perform_url] at keeps
      exact ⟨by simp, .inl keeps⟩
  | environment environment =>
      exact ⟨by simp, .inl keeps⟩
  | clearSettings =>
      exact ⟨by simp, .inl keeps⟩
  | clearEngines =>
      exact (List.not_mem_nil keeps).elim

/-- Asking for an engine changes no settings in force. -/
theorem settingsOf_perform_engine
    (process : Process)
    (key : EngineKey) :
    (process.perform (.engine key)).settingsOf = process.settingsOf := by
  have environment : (process.perform (.engine key)).environment = process.environment := rfl
  cases process.answers key with
  | kept engine _ _ left =>
      rw [settingsOf, left]
      rfl
  | created settings engine _ loaded _ _ _ left =>
      rw [settingsOf, left, loaded]
      rfl
  | refused error _ _ _ left =>
      cases loaded : process.settingsOf with
      | error error =>
          have unloaded := settings_of_error loaded
          rw [← loaded, settingsOf, left, environment, ← unloaded]
          rfl
      | ok settings =>
          rw [settingsOf, left, loaded]
          rfl

/-- Settings that are kept stay in force until they are cleared. -/
theorem settings_perform
    {process : Process}
    {settings : Settings}
    {step : Step}
    (known : process.cache.settings = some settings)
    (uncleared : step ≠ .clearSettings) :
    (process.perform step).cache.settings = some settings := by
  have inForce : process.settingsOf = .ok settings := by
    rw [settingsOf, known]
    rfl
  cases step with
  | engine key =>
      cases process.answers key with
      | kept engine _ _ left =>
          rw [left]
          exact known
      | created loaded engine _ loadedNow _ _ _ left =>
          rw [inForce] at loadedNow
          rw [left, ← Except.ok.inj loadedNow]
      | refused error _ _ _ left =>
          rw [left, inForce]
          rfl
  | url catalog =>
      rw [cache_perform_url, inForce]
      rfl
  | environment environment =>
      exact known
  | clearSettings =>
      exact (uncleared rfl).elim
  | clearEngines =>
      exact known

theorem settings_run
    {process : Process}
    {settings : Settings}
    {steps : List Step}
    (known : process.cache.settings = some settings)
    (uncleared : Step.clearSettings ∉ steps) :
    (process.run steps).cache.settings = some settings := by
  induction steps generalizing process with
  | nil =>
      exact known
  | cons step rest inductionHypothesis =>
      rw [List.mem_cons, not_or] at uncleared
      exact inductionHypothesis (settings_perform known (Ne.symm uncleared.1)) uncleared.2

/-- A step leaves a sound cache. -/
theorem isSound_perform
    {process : Process}
    (sound : process.cache.IsSound)
    (step : Step) :
    (process.perform step).cache.IsSound := by
  cases step with
  | engine key =>
      cases process.answers key with
      | kept engine keeps _ left =>
          rw [left]
          refine sound.keep ?_ rfl (sound.numbered _ keeps) (Nat.le_refl _)
          intro entry member otherKey sameNumber
          have same : entry = (key, engine) :=
            List.inj_on_of_nodup_map sound.numbers member keeps sameNumber
          exact otherKey (congrArg Prod.fst same)
      | created settings engine _ _ _ number _ left =>
          rw [left]
          refine sound.keep ?_ rfl (by rw [number]; exact Nat.lt_succ_self _) (Nat.le_succ _)
          intro entry member _
          rw [number]
          exact Nat.ne_of_lt (sound.numbered entry member)
      | refused error _ _ _ left =>
          rw [left]
          exact ⟨sound.keys, sound.numbers, sound.numbered, sound.bounded⟩
  | url catalog =>
      rw [cache_perform_url]
      exact ⟨sound.keys, sound.numbers, sound.numbered, sound.bounded⟩
  | environment environment =>
      exact sound
  | clearSettings =>
      exact ⟨sound.keys, sound.numbers, sound.numbered, sound.bounded⟩
  | clearEngines =>
      exact ⟨.nil, .nil, by simp [perform, clear], Nat.zero_le _⟩

theorem isSound_run
    (environment : Environment)
    (steps : List Step) :
    ((start environment).run steps).cache.IsSound := by
  have sound : (start environment).cache.IsSound :=
    ⟨.nil, .nil, by simp [start, empty], Nat.zero_le _⟩
  generalize start environment = process at sound ⊢
  induction steps generalizing process with
  | nil =>
      exact sound
  | cons step rest inductionHypothesis =>
      exact inductionHypothesis (process.perform step) (isSound_perform sound step)

end Process

end TenantSchema.EngineCache
