import Mathlib.Data.List.Induction
import TenantSchema.Proofs.Engine.Process

namespace TenantSchema

/-!
# Where kept engines come from

Engines are kept under the keys that were asked for, not under their URLs.  Every engine that is
answered was created by an earlier call for its key, or by this one, for the URL that the key
denoted then.  So it is the right one exactly if the server of today and the server of then give
its catalog one URL; as long as the settings are not cleared they do.  Two engines that are kept
are for one URL exactly if their keys name one database on one server.
-/

namespace ServerUrl

/-- The URL without its database. -/
def server (url : ServerUrl) : ServerUrl :=
  { url with database := none }

/-- The database of a catalog: the one it names, or else that of the URL. -/
def databaseFor (url : ServerUrl) (catalog : Option Text) : Option Text :=
  (catalog.filter (!·.isEmpty)).or url.database

theorem withCatalog_eq
    (url : ServerUrl)
    (catalog : Option Text) :
    url.withCatalog catalog = { url.server with database := url.databaseFor catalog } := by
  rcases catalog with _ | (_ | ⟨first, others⟩) <;> rfl

/-- Two URLs pointed at catalogs are one exactly if the servers and the databases are. -/
theorem withCatalog_eq_iff
    {first second : ServerUrl}
    {firstCatalog secondCatalog : Option Text} :
    first.withCatalog firstCatalog = second.withCatalog secondCatalog ↔
      first.server = second.server ∧
        first.databaseFor firstCatalog = second.databaseFor secondCatalog := by
  rw [withCatalog_eq, withCatalog_eq]
  constructor
  · intro same
    have sameServer := congrArg ServerUrl.server same
    have sameDatabase := congrArg ServerUrl.database same
    exact ⟨sameServer, sameDatabase⟩
  · rintro ⟨sameServer, sameDatabase⟩
    rw [sameServer, sameDatabase]

end ServerUrl

namespace EngineCache

open Process

/--
Where the engine of an entry comes from: `before` of the steps, no engine was kept under its key,
and asking for it created the engine on the server of that moment.  Engines were not dropped
`since`.
-/
structure Origin
    (environment : Environment)
    (steps : List Step)
    (key : EngineKey)
    (engine : Engine)
    (before since : List Step)
    (server : ServerUrl) :
    Prop where
  split : steps = before ++ .engine key :: since
  lacked : ((start environment).run before).Lacks key
  answered : ((start environment).run before).engineOf key = .ok engine
  located : ((start environment).run before).urlOf none = .ok server
  denoted : engine.url = server.withCatalog key.toCatalog
  undropped : Step.clearEngines ∉ since

section

variable
  {environment : Environment}
  {steps before since : List Step}
  {key : EngineKey}
  {engine : Engine}
  {server : ServerUrl}

/-- An engine that a call creates has its origin in this call. -/
theorem exists_origin_of_lacks
    (lacks : ((start environment).run steps).Lacks key)
    (answered : ((start environment).run steps).engineOf key = .ok engine) :
    ∃ server,
      Origin environment (steps ++ [.engine key]) key engine steps [] server := by
  have denoted :
      ((start environment).run steps).urlOf key.toCatalog = .ok engine.url := by
    cases ((start environment).run steps).answers key with
    | kept known keeps =>
        exact (lacks known keeps).elim
    | created settings made _ _ denoted _ madeAnswered =>
        rw [answered] at madeAnswered
        rw [Except.ok.inj madeAnswered]
        exact denoted
    | refused error _ _ refused =>
        rw [answered] at refused
        cases refused
  rw [urlOf_eq_map] at denoted
  cases located : ((start environment).run steps).urlOf none with
  | error error =>
      rw [located] at denoted
      cases denoted
  | ok server =>
      rw [located] at denoted
      exact ⟨server, rfl, lacks, answered, located, (Except.ok.inj denoted).symm,
        List.not_mem_nil⟩

theorem Origin.concat
    (origin : Origin environment steps key engine before since server)
    {step : Step}
    (undropped : step ≠ .clearEngines) :
    Origin environment (steps ++ [step]) key engine before (since ++ [step]) server where
  split := by
    rw [origin.split, List.append_assoc, List.cons_append]
  lacked := origin.lacked
  answered := origin.answered
  located := origin.located
  denoted := origin.denoted
  undropped := by
    rw [List.mem_append, List.mem_singleton]
    exact not_or.mpr ⟨origin.undropped, Ne.symm undropped⟩

/-- Every engine that is kept has an origin.  The induction is on the steps from the last one. -/
theorem exists_origin_of_keeps
    (keeps : ((start environment).run steps).Keeps key engine) :
    ∃ before since server,
      Origin environment steps key engine before since server := by
  induction steps using List.reverseRecOn with
  | nil =>
      exact (List.not_mem_nil keeps).elim
  | append_singleton earlier step inductionHypothesis =>
      rw [run_append, run_single] at keeps
      obtain ⟨undropped, keepsBefore | ⟨rfl, lacks, answered⟩⟩ := keeps_perform keeps
      · obtain ⟨before, since, server, origin⟩ := inductionHypothesis keepsBefore
        exact ⟨before, _, server, origin.concat undropped⟩
      · obtain ⟨server, origin⟩ := exists_origin_of_lacks lacks answered
        exact ⟨earlier, [], server, origin⟩

/-- Every engine that is answered has an origin, this call included. -/
theorem exists_origin_of_answered
    (answered : ((start environment).run steps).engineOf key = .ok engine) :
    ∃ before since server,
      Origin environment (steps ++ [.engine key]) key engine before since server := by
  cases ((start environment).run steps).answers key with
  | kept known keeps knownAnswered =>
      rw [answered] at knownAnswered
      cases knownAnswered
      obtain ⟨before, since, server, origin⟩ := exists_origin_of_keeps keeps
      exact ⟨before, _, server, origin.concat (by simp)⟩
  | created settings made lacks =>
      obtain ⟨server, origin⟩ := exists_origin_of_lacks lacks answered
      exact ⟨steps, [], server, origin⟩
  | refused error _ _ refused =>
      rw [answered] at refused
      cases refused

/-- An engine is the right one exactly if its catalog is the same database of the same server. -/
theorem Origin.matches_iff
    (origin : Origin environment steps key engine before since server)
    (process : Process) :
    process.urlOf key.toCatalog = .ok engine.url ↔
      ∃ current,
        process.urlOf none = .ok current ∧
          current.server = server.server ∧
          current.databaseFor key.toCatalog = server.databaseFor key.toCatalog := by
  rw [urlOf_eq_map, origin.denoted]
  cases process.urlOf none with
  | error error =>
      constructor
      · intro same
        cases same
      · rintro ⟨current, located, _⟩
        cases located
  | ok current =>
      simp only [Except.map, Except.ok.injEq, exists_eq_left', ServerUrl.withCatalog_eq_iff]

/-- As long as the settings are not cleared, the server is that of the origin. -/
theorem Origin.urlOf_eq
    (origin : Origin environment steps key engine before since server)
    (uncleared : Step.clearSettings ∉ since)
    (catalog : Option Text) :
    ((start environment).run steps).urlOf catalog =
      ((start environment).run before).urlOf catalog := by
  have run_eq :
      (start environment).run steps =
        (((start environment).run before).perform (.engine key)).run since := by
    rw [origin.split, run_append]
    rfl
  rw [run_eq]
  cases ((start environment).run before).answers key with
  | kept known keeps =>
      exact (origin.lacked known keeps).elim
  | created settings made _ loaded _ _ _ left =>
      apply urlOf_congr
      have known :
          (((start environment).run before).perform (.engine key)).cache.settings =
            some settings := by
        rw [left]
      rw [settingsOf, settings_run known uncleared, loaded]
      rfl
  | refused error _ _ refused =>
      have answered := origin.answered
      rw [refused] at answered
      cases answered

/-- An engine that is answered serves its key unless the settings were cleared since. -/
theorem Origin.serves
    (origin : Origin environment (steps ++ [.engine key]) key engine before since server)
    (uncleared : Step.clearSettings ∉ since) :
    ((start environment).run steps).urlOf key.toCatalog = .ok engine.url := by
  have unchanged := urlOf_congr
    (settingsOf_perform_engine ((start environment).run steps) key) key.toCatalog
  have stays := origin.urlOf_eq uncleared key.toCatalog
  rw [run_append, run_single, unchanged] at stays
  rw [stays, urlOf_eq_map, origin.located, origin.denoted]
  rfl

end

/--
An engine that is answered comes from the last call that created one for its key.  It is for the
URL that its catalog denotes at the time of the call exactly if its catalog is still the same
database of the same server, and certainly if the settings were not cleared since.  Engines that
are kept under different keys are different; they are for one URL exactly if the catalogs are one
database of one server where they come from.
-/
theorem engines_are_kept_by_key
    (environment : Environment)
    (steps : List Step) :
    let process := (start environment).run steps
    (∀ key engine,
      process.engineOf key = .ok engine →
      ∃ before since server,
        Origin environment (steps ++ [.engine key]) key engine before since server ∧
          (process.urlOf key.toCatalog = .ok engine.url ↔
            ∃ current,
              process.urlOf none = .ok current ∧
                current.server = server.server ∧
                current.databaseFor key.toCatalog = server.databaseFor key.toCatalog) ∧
          (Step.clearSettings ∉ since →
            process.urlOf key.toCatalog = .ok engine.url)) ∧
      (∀ first ∈ process.cache.entries,
        ∀ second ∈ process.cache.entries,
          first ≠ second →
          first.1 ≠ second.1 ∧
            first.2.number ≠ second.2.number ∧
            ∃ firstBefore firstSince firstServer secondBefore secondSince secondServer,
              Origin environment steps first.1 first.2 firstBefore firstSince firstServer ∧
                Origin environment steps second.1 second.2
                  secondBefore secondSince secondServer ∧
                (first.2.url = second.2.url ↔
                  firstServer.server = secondServer.server ∧
                    firstServer.databaseFor first.1.toCatalog =
                      secondServer.databaseFor second.1.toCatalog)) ∧
      process.cache.entries.length ≤ capacity := by
  intro process
  have sound : process.cache.IsSound := isSound_run environment steps
  refine ⟨?_, ?_, sound.bounded⟩
  · intro key engine answered
    obtain ⟨before, since, server, origin⟩ := exists_origin_of_answered answered
    exact ⟨before, since, server, origin, origin.matches_iff process, origin.serves⟩
  · intro first firstKept second secondKept different
    obtain ⟨firstBefore, firstSince, firstServer, firstOrigin⟩ :=
      exists_origin_of_keeps firstKept
    obtain ⟨secondBefore, secondSince, secondServer, secondOrigin⟩ :=
      exists_origin_of_keeps secondKept
    refine ⟨?_, ?_, firstBefore, firstSince, firstServer, secondBefore, secondSince,
      secondServer, firstOrigin, secondOrigin, ?_⟩
    · exact fun same =>
        different (List.inj_on_of_nodup_map sound.keys firstKept secondKept same)
    · exact fun same =>
        different (List.inj_on_of_nodup_map sound.numbers firstKept secondKept same)
    · rw [firstOrigin.denoted, secondOrigin.denoted, ServerUrl.withCatalog_eq_iff]

namespace Sample

/-- An environment whose server is the given host. -/
def environmentOf (host : String) : Environment :=
  {
    bindings := [
      ("PROJECT_NAME", "p".toList),
      ("ENV", "test".toList),
      ("LOG_LEVEL", "INFO".toList),
      ("DATABASE_URL", ("mysql://" ++ host).toList)
    ]
  }

/-- The URL of that server. -/
def serverOf (host : String) : ServerUrl :=
  {
    dialect := "mysql".toList
    user := none
    password := none
    host := some host.toList
    port := none
    database := none
    query := []
  }

/-- Steps that ask for the engine of a server in two ways, and go on to another server. -/
def stepsToNewServer : List Step :=
  [.engine .unspecified, .engine (.catalog none), .environment (environmentOf "new"),
    .clearSettings]

end Sample

/-- Two engines for one URL are kept, and one is answered although its server is a former one. -/
theorem engine_of_former_server_is_answered :
    let process := (start (Sample.environmentOf "old")).run Sample.stepsToNewServer
    (∃ first ∈ process.cache.entries,
      ∃ second ∈ process.cache.entries,
        first ≠ second ∧ first.2.url = second.2.url) ∧
      ∃ engine,
        process.engineOf (.catalog none) = .ok engine ∧
          engine.url = Sample.serverOf "old" ∧
          process.urlOf none = .ok (Sample.serverOf "new") := by
  intro process
  have twice :
      ∃ first ∈ process.cache.entries,
        ∃ second ∈ process.cache.entries,
          first ≠ second ∧ first.2.url = second.2.url := by
    decide +kernel
  have answered :
      process.engineOf (.catalog none) =
        .ok { number := 1, url := Sample.serverOf "old", connectTimeout := some 30 } := by
    decide +kernel
  have denoted : process.urlOf none = .ok (Sample.serverOf "new") := by
    decide +kernel
  exact ⟨twice, _, answered, rfl, denoted⟩

end EngineCache

end TenantSchema
