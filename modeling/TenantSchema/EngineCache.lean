import TenantSchema.ServerUrl
import TenantSchema.Settings

/-!
# Engines of catalogs

An engine opens connections to one URL.  Engines are numbered in the order of their creation
and kept under the catalog that they were asked for; of more than thirty-two, the one asked
for least recently is dropped.  Settings are kept too, until they are cleared.
-/

namespace TenantSchema

/-- An engine: its number, its URL and the time limit of its connections, if it has one. -/
structure Engine where
  number : Nat
  url : ServerUrl
  connectTimeout : Option Int
  deriving Repr, DecidableEq

/-- What an engine is asked for: a catalog, or nothing at all. -/
inductive EngineKey where
  | unspecified
  | catalog (name : Option Text)
  deriving Repr, DecidableEq

/-- The catalog of a key. -/
def EngineKey.toCatalog : EngineKey → Option Text
  | .unspecified =>
      none
  | .catalog name =>
      name

/-- Why there is no engine, or no connection. -/
inductive EngineError where
  | settings (error : SettingsError)
  | url (error : UrlError)
  | connectFailed
  | executeFailed
  | bodyFailed
  deriving Repr, DecidableEq

/-- The wording of an error. -/
def EngineError.message : EngineError → String
  | .settings error =>
      error.message
  | .url error =>
      error.message
  | .connectFailed =>
      "connect failed"
  | .executeFailed =>
      "execute failed"
  | .bodyFailed =>
      "body failed"

/-- What an engine or one of its connections was made to do. -/
inductive EngineEvent where
  | opened (engine : Nat)
  | executed (engine : Nat) (statement : String)
  | closed (engine : Nat)
  deriving Repr, DecidableEq

/-- Which calls of every engine fail. -/
inductive EngineFault where
  | connect
  | execute
  deriving Repr, DecidableEq

/-- The settings and engines that are kept; the engine asked for last stands at the end. -/
structure EngineCache where
  settings : Option Settings
  entries : List (EngineKey × Engine)
  created : Nat
  deriving Repr, DecidableEq

namespace EngineCache

/-- Nothing is kept yet. -/
def empty : EngineCache :=
  { settings := none, entries := [], created := 0 }

/-- The most engines that are kept. -/
def capacity : Nat :=
  32

/-- The backend whose connections have a time limit. -/
def timedBackend : Text :=
  "mysql".toList

/-- The settings, which are kept once they were loaded. -/
def loadSettings (cache : EngineCache) (environment : Environment) :
    Except EngineError (Settings × EngineCache) :=
  match Settings.cached cache.settings environment with
  | .error error =>
      .error (.settings error)
  | .ok settings =>
      .ok (settings, { cache with settings := some settings })

/-- The URL of a catalog on the server of the settings. -/
def urlOf (settings : Settings) (catalog : Option Text) : Except UrlError ServerUrl :=
  (ServerUrl.parse settings.databaseUrl).map (·.withCatalog catalog)

/-- The URL of a catalog and the cache after the settings were needed. -/
def catalogUrl
    (cache : EngineCache)
    (environment : Environment)
    (catalog : Option Text) :
    Except EngineError ServerUrl × EngineCache :=
  match cache.loadSettings environment with
  | .error error =>
      (.error error, cache)
  | .ok (settings, cache) =>
      match urlOf settings catalog with
      | .error error =>
          (.error (.url error), cache)
      | .ok url =>
          (.ok url, cache)

/-- Create the engine of a URL. -/
def engineFor (number : Nat) (settings : Settings) (url : ServerUrl) : Engine :=
  {
    number := number
    url := url
    connectTimeout :=
      if url.backend = timedBackend then some settings.connectTimeout else none
  }

/-- Keep an engine as the one asked for last, and no more engines than there is room for. -/
def keep (cache : EngineCache) (key : EngineKey) (engine : Engine) : EngineCache :=
  let others := cache.entries.filter (·.1 != key)
  let kept := others.drop (others.length + 1 - capacity)
  { cache with entries := kept ++ [(key, engine)] }

/-- The engine of a key: the one that is kept, or a new one. -/
def engine
    (cache : EngineCache)
    (environment : Environment)
    (key : EngineKey) :
    Except EngineError Engine × EngineCache :=
  match cache.entries.find? (·.1 == key) with
  | some (_, known) =>
      (.ok known, cache.keep key known)
  | none =>
      match cache.loadSettings environment with
      | .error error =>
          (.error error, cache)
      | .ok (settings, cache) =>
          match urlOf settings key.toCatalog with
          | .error error =>
              (.error (.url error), cache)
          | .ok url =>
              let created := engineFor cache.created settings url
              (.ok created, { cache.keep key created with created := cache.created + 1 })

/-- Drop all engines. -/
def clear (cache : EngineCache) : EngineCache :=
  { cache with entries := [] }

/-- Forget the settings. -/
def clearSettings (cache : EngineCache) : EngineCache :=
  { cache with settings := none }

/-- What became of something done over a connection. -/
structure Visit where
  outcome : Except EngineError Engine
  events : List EngineEvent
  cache : EngineCache

/-- Open a connection to a catalog, do something over it, and close it. -/
def visit
    (cache : EngineCache)
    (environment : Environment)
    (fault : Option EngineFault)
    (catalog : Option Text)
    (body : Engine → Except EngineError Unit × List EngineEvent) :
    Visit :=
  match cache.engine environment (.catalog catalog) with
  | (.error error, cache) =>
      { outcome := .error error, events := [], cache := cache }
  | (.ok engine, cache) =>
      if fault = some .connect then
        { outcome := .error .connectFailed, events := [], cache := cache }
      else
        let (ending, events) := body engine
        {
          outcome := ending.map fun _ => engine
          events := [.opened engine.number] ++ events ++ [.closed engine.number]
          cache := cache
        }

/-- Open a connection to a catalog and close it again, perhaps because of an error. -/
def connection
    (cache : EngineCache)
    (environment : Environment)
    (fault : Option EngineFault)
    (catalog : Option Text)
    (bodyFails : Bool) :
    Visit :=
  cache.visit environment fault catalog fun _ =>
    (if bodyFails then .error .bodyFailed else .ok (), [])

/-- The statement that tells whether a database can be queried. -/
def probe : String :=
  "SELECT 1"

/-- Whether a catalog can be reached and queried. -/
def reachable
    (cache : EngineCache)
    (environment : Environment)
    (fault : Option EngineFault)
    (catalog : Option Text) :
    Bool × Visit :=
  let visit :=
    cache.visit environment fault catalog fun engine =>
      if fault = some .execute then
        (.error .executeFailed, [])
      else
        (.ok (), [.executed engine.number probe])
  (visit.outcome.isOk, visit)

end EngineCache

end TenantSchema
