import PluginHost.CommandLine
import PluginHost.Discovery
import PluginHost.HostConfig
import PluginHost.Report
import PluginHost.Descriptor.SettingsTemplate

/-! # The program

    What a run of the program prints and reports, as a function of its
    arguments and the files it finds.  The steps come in this order:
    arguments, configuration, log directory, discovery, command. -/

namespace PluginHost

/-- What a run leaves behind. -/
structure Outcome where
  exitCode : UInt32 := 0
  stdout   : String := ""
  /-- The message of a failure, without the log. -/
  stderr   : String := ""
  log      : List Event := []
  /-- Where the log goes, if not to the terminal. -/
  logDir   : Option String := none

namespace Program

/-! ## Failures -/

/-- The text of a failure and of what caused it. -/
def errorText (message : String) (cause : Option String) : String :=
  "Error: " ++ message
    ++ match cause with
      | none => ""
      | some c => "\n\nCaused by:\n    " ++ c

/-- Fail with a message. -/
def failed (message : String) (cause : Option String := none) : Outcome :=
  { exitCode := 1, stderr := errorText message cause }

/-- Lines, each with its end. -/
def printed (lines : List String) : String :=
  String.join (lines.map (· ++ "\n"))

/-- The message about a plugin that is not available. -/
def notFound (name : String) : String :=
  "Plugin '" ++ name ++ "' not found. Run 'nbplugins list' to see installed plugins."

/-! ## Commands -/

/-- Load the enabled plugins and print something about them. -/
def withLoaded (config : HostConfig) (loader : Loader) (print : Loader.Loaded → String) :
    Outcome :=
  let load := loader.load config.plugins config.pluginsConfig
  match load.outcome with
  | .error e => { failed e.message with log := load.log }
  | .ok loaded =>
    { stdout := print loaded, log := load.log ++ [.pluginsLoaded loaded.plugins.length] }

/-- The settings of a plugin with the defaults filled in. -/
def resolvedSettings (config : HostConfig) (p : Plugin) :
    Except ConfigurationError Toml.Settings :=
  p.descriptor.validate (Loader.settingsFor config.pluginsConfig p.name) config.hostVersion

/-- Carry out a command. -/
def execute (config : HostConfig) (loader : Loader) : Command → Outcome
  | .check => withLoaded config loader fun loaded => printed (Report.loaded loaded)
  | .list => { stdout := printed (Report.available loader config.plugins) }
  | .registry true =>
    withLoaded config loader fun loaded => loaded.registry.summary.pretty ++ "\n"
  | .registry false =>
    withLoaded config loader fun loaded => printed (Report.registry loaded.registry)
  | .settings name =>
    match loader.get? name with
    | none => failed (notFound name)
    | some p =>
      match resolvedSettings config p with
      | .error e => failed e.message
      | .ok settings => { stdout := Toml.documentText settings.entries }
  | .init name =>
    match loader.get? name with
    | none => failed (notFound name)
    | some p => { stdout := p.descriptor.settingsTemplate }

/-! ## Steps -/

/-- Discover the plugins, make them available, and carry out the command;
    `node` is what the path of the plugins' directory leads to. -/
def discoverAndExecute (config : HostConfig) (directory : String) (node : Option Node)
    (command : Command) : Outcome :=
  let started : Event := .started config.hostVersion contractVersion
  let found := Discovery.discover directory node
  match found.value with
  | .error e => { failed e.message with log := started :: found.log }
  | .ok plugins =>
    let registration :=
      Loader.registerAll ⟨config.hostVersion, []⟩ (plugins.map (·.manifest.toPlugin))
    let log := started :: found.log ++ registration.log
    match registration.error with
    | some e => { failed e.message with log }
    | none =>
      let outcome := execute config registration.loader command
      { outcome with
        log := log ++ [.pluginsAvailable registration.loader.plugins.length directory]
          ++ outcome.log }

/-- The directory of plugins that an invocation asks for. -/
def pluginsDirectory (invocation : Invocation) (config : HostConfig) (home : String) : String :=
  invocation.pluginsDir.getD (config.pluginsDirectory home)

/-- The configuration file that an invocation asks for. -/
def configPath (invocation : Invocation) (home : String) : String :=
  invocation.config.getD (defaultConfigPath home)

/-- The directories that are there once the log has its own. -/
def prepareLog (config : HostConfig) (tree : Node) (cwd : List String := []) :
    Except FileError Node :=
  match config.logDir with
  | none => .ok tree
  | some directory => tree.makeDirectories (Path.names directory) (Path.start cwd directory)

/-- The failure to make the log's directory. -/
def logFailure (config : HostConfig) (e : FileError) : Outcome :=
  failed ("Could not create logs directory " ++ config.logDir.getD "") (some e.message)

/-- Run an invocation on a tree of files, from a working directory. -/
def runInvocation (home : String) (tree : Node) (invocation : Invocation)
    (cwd : List String := []) : Outcome :=
  let path := configPath invocation home
  match HostConfig.load path (tree.find? path cwd) with
  | .error e => failed e.message (some e.cause)
  | .ok config =>
    match prepareLog config tree cwd with
    | .error e => logFailure config e
    | .ok tree =>
      let directory := pluginsDirectory invocation config home
      { discoverAndExecute config directory (tree.find? directory cwd) invocation.command with
        logDir := config.logDir }

/-- The outcome of arguments that make no sense. -/
def usageFailure (e : UsageError) : Outcome :=
  { exitCode := 2, stderr := "error: " ++ e.message ++ "\n\n" ++ usageText }

/-- Run the program with its arguments on a tree of files, from a working
    directory. -/
def run (home : String) (tree : Node) (arguments : List String) (cwd : List String := []) :
    Outcome :=
  match CommandLine.parse arguments with
  | .error e => usageFailure e
  | .ok .usage => { stdout := usageText }
  | .ok (.run invocation) => runInvocation home tree invocation cwd

end Program

end PluginHost
