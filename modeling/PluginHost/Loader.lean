import PluginHost.Plugin
import PluginHost.Descriptor.Validation

/-! # Loading plugins

    The loader holds the plugins that are available and turns a list of
    enabled names into a registry.  Loading is all or nothing: every enabled
    plugin is found and validated first, then each registers its
    contributions, and the first fault ends it.  Settings that were completed
    before a fault stay completed. -/

namespace PluginHost

open Toml (Settings)

/-! ## Faults -/

/-- Why a plugin could not be loaded. -/
inductive LoadFault where
  | configuration (error : ConfigurationError)
  | contract (violation : Violation)
  | notInstalled
  | duplicate
  | manifest (reason : String)
deriving DecidableEq, Repr

/-- The message for a fault. -/
def LoadFault.message : LoadFault → String
  | .configuration e => e.message
  | .contract v => "contract violation: " ++ v.message
  | .notInstalled => "plugin is enabled but not installed"
  | .duplicate => "a plugin with this name is already registered"
  | .manifest reason => "invalid manifest: " ++ reason

/-- A fault, and the plugin it is about. -/
structure LoadError where
  plugin : String
  fault  : LoadFault
deriving DecidableEq, Repr

/-- The message for a failed load. -/
def LoadError.message (e : LoadError) : String :=
  "failed to load plugin '" ++ e.plugin ++ "': " ++ e.fault.message

/-! ## Available plugins -/

/-- The host's version and the available plugins, in the order in which they
    became available. -/
structure Loader where
  hostVersion : String
  plugins     : List Plugin := []

namespace Loader

/-- The available plugin of a name. -/
def get? (l : Loader) (name : String) : Option Plugin := l.plugins.find? (·.name == name)

/-- The names of the available plugins. -/
def available (l : Loader) : List String := l.plugins.map (·.name)

/-- Make a plugin available; its name must be new. -/
def register (l : Loader) (p : Plugin) : Except LoadError Loader :=
  match l.get? p.name with
  | some _ => .error ⟨p.name, .duplicate⟩
  | none => .ok { l with plugins := l.plugins ++ [p] }

/-- A loader after a series of registrations, the log, and the error that
    ended the series. -/
structure Registration where
  loader : Loader
  log    : List Event
  error  : Option LoadError

/-- Make plugins available one after the other, up to the first error. -/
def registerAll (l : Loader) : List Plugin → Registration
  | [] => ⟨l, [], none⟩
  | p :: rest =>
    match l.register p with
    | .error e => ⟨l, [], some e⟩
    | .ok l =>
      let later := l.registerAll rest
      { later with log := .pluginAvailable p.name :: later.log }

/-! ## Selecting the enabled plugins -/

/-- The configured settings of all plugins after a selection, and the selected
    plugins or the error that ended it. -/
structure Selection where
  config  : Table Settings
  outcome : Except LoadError (List Plugin)

/-- The settings that are configured for a plugin, none by default. -/
def settingsFor (config : Table Settings) (name : String) : Settings :=
  (config.get? name).getD Table.empty

/-- Find and validate the plugins of the names, `before` being the names that
    were selected already. -/
def select (l : Loader) (before : List String) (config : Table Settings) :
    List String → Selection
  | [] => ⟨config, .ok []⟩
  | name :: rest =>
    if before.contains name then ⟨config, .error ⟨name, .duplicate⟩⟩
    else
      match l.get? name with
      | none => ⟨config, .error ⟨name, .notInstalled⟩⟩
      | some p =>
        let settings := settingsFor config name
        match p.descriptor.validate settings l.hostVersion with
        -- A refused plugin has an entry afterwards, if only an empty one.
        | .error e => ⟨config.insert name settings, .error ⟨name, .configuration e⟩⟩
        | .ok settings =>
          let later := l.select (before ++ [name]) (config.insert name settings) rest
          { later with outcome := later.outcome.map (p :: ·) }

/-! ## What has to be installed -/

/-- The texts without those that occur earlier or in `seen`. -/
def distinct (seen : List String) : List String → List String
  | [] => []
  | a :: rest => if seen.contains a then distinct seen rest else a :: distinct (a :: seen) rest

/-- The applications of the plugins: for each the ones it depends on, then
    itself, each only once. -/
def installedApps (plugins : List Plugin) : List String :=
  distinct [] (plugins.flatMap fun p => p.descriptor.dependentApps ++ [p.name])

/-- The middleware of the plugins. -/
def middleware (plugins : List Plugin) : List String :=
  plugins.flatMap (·.descriptor.middleware)

/-- The queues of the plugins, with the plugin's name in front. -/
def queues (plugins : List Plugin) : List String :=
  plugins.flatMap fun p => p.descriptor.queues.map (p.name ++ "." ++ ·)

/-! ## Initialising -/

/-- A registry after plugins registered their contributions, the log, the
    plugins that were asked to, and the error that ended it. -/
structure Initialisation where
  registry : Registry
  log      : List Event
  started  : List String
  error    : Option LoadError

/-- Let the plugins register their contributions one after the other. -/
def initialise (r : Registry) : List Plugin → Initialisation
  | [] => ⟨r, [], [], none⟩
  | p :: rest =>
    let readiness := p.ready r
    match readiness.violation with
    | some v => ⟨readiness.registry, readiness.log, [p.name], some ⟨p.name, .contract v⟩⟩
    | none =>
      let later := initialise readiness.registry rest
      { later with
        log := readiness.log ++ later.log
        started := p.name :: later.started }

/-! ## Loading -/

/-- A plugin that was loaded. -/
structure LoadedPlugin where
  name        : String
  displayName : String
  version     : String
  urlSegment  : String
  /-- Its settings with the defaults filled in. -/
  settings    : Settings

/-- The outcome of a successful load. -/
structure Loaded where
  registry      : Registry
  plugins       : List LoadedPlugin
  installedApps : List String
  middleware    : List String
  queues        : List String

/-- A load: its result, the configured settings afterwards, the plugins that
    were asked to register, and the log. -/
structure Load where
  outcome : Except LoadError Loaded
  config  : Table Settings
  started : List String
  log     : List Event

/-- What is kept of a plugin that was loaded. -/
def loadedPlugin (config : Table Settings) (p : Plugin) : LoadedPlugin :=
  { name := p.name
    displayName := p.descriptor.displayName
    version := p.descriptor.version
    urlSegment := p.descriptor.urlSegment
    settings := settingsFor config p.name }

/-- Load the enabled plugins in order. -/
def load (l : Loader) (enabled : List String) (config : Table Settings) : Load :=
  let selection := l.select [] config enabled
  match selection.outcome with
  | .error e => ⟨.error e, selection.config, [], []⟩
  | .ok plugins =>
    let initial := initialise Registry.empty plugins
    match initial.error with
    | some e => ⟨.error e, selection.config, initial.started, initial.log⟩
    | none =>
      { outcome := .ok
          { registry := initial.registry
            plugins := plugins.map (loadedPlugin selection.config)
            installedApps := installedApps plugins
            middleware := middleware plugins
            queues := queues plugins }
        config := selection.config
        started := initial.started
        log := initial.log
          ++ plugins.map fun p => .pluginLoaded p.name p.descriptor.version }

end Loader

end PluginHost
