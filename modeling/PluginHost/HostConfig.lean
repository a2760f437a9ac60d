import PluginHost.FileTree
import PluginHost.Toml.Sections
import PluginHost.Toml.Shape

/-! # The host's configuration

    The version of the host, the enabled plugins, where plugins are found and
    logs are written, and the settings of each plugin.  A configuration file
    that is missing means the default configuration. -/

namespace PluginHost

open Toml (Settings Shape Value)

/-! ## Places -/

/-- The directory of everything that belongs to the user of `home`. -/
def baseDirectory (home : String) : String := Path.join home ".netbox-plugins"

/-- The configuration file that is used by default. -/
def defaultConfigPath (home : String) : String := Path.join (baseDirectory home) "config.toml"

/-- The directory of plugins that is used by default. -/
def defaultPluginsDirectory (home : String) : String :=
  Path.join (baseDirectory home) "plugins"

/-! ## Configurations -/

/-- The version of the host unless the configuration names another. -/
def defaultHostVersion : String := "4.1.0"

/-- A configuration of the host. -/
structure HostConfig where
  /-- The version that plugins are checked against. -/
  hostVersion   : String := defaultHostVersion
  /-- The enabled plugins, in the order of loading. -/
  plugins       : List String := []
  pluginsDir    : Option String := none
  /-- Where the log goes, if not to the terminal. -/
  logDir        : Option String := none
  /-- Settings by plugin. -/
  pluginsConfig : Table Settings := Table.empty
deriving Inhabited

namespace HostConfig

/-- The directory that plugins are looked for in. -/
def pluginsDirectory (c : HostConfig) (home : String) : String :=
  c.pluginsDir.getD (defaultPluginsDirectory home)

/-- The written form of a configuration. -/
def shape : Shape HostConfig where
  name := "Config"
  fields :=
    [.optional "host_version" .string fun v c => { c with hostVersion := v },
     .optional "plugins" (.list .string) fun v c => { c with plugins := v },
     .optional "plugins_dir" .path fun v c => { c with pluginsDir := some v },
     .optional "log_dir" .path fun v c => { c with logDir := some v },
     .optional "plugins_config" (.table .settings) fun v c => { c with pluginsConfig := v }]
  blank := {}

/-- Read the text of a configuration. -/
def parse (text : String) : Except Toml.ReadError HostConfig := Toml.readAs shape.ofEntries text

/-- A text under a key, if there is one. -/
def optionalEntry (key : String) (value : Option String) : Entries Value :=
  (value.map fun v => (key, Value.string v)).toList

/-- The configuration as entries of a document. -/
def entries (c : HostConfig) : Entries Value :=
  [("host_version", .string c.hostVersion), ("plugins", .strings c.plugins)]
    ++ optionalEntry "plugins_dir" c.pluginsDir ++ optionalEntry "log_dir" c.logDir
    ++ [("plugins_config", .ofTable (c.pluginsConfig.map Value.ofTable))]

/-- The text of a configuration. -/
def text (c : HostConfig) : String := Toml.documentText c.entries

/-- Equality of content. -/
def same (a b : HostConfig) : Bool :=
  a.hostVersion == b.hostVersion && a.plugins == b.plugins && a.pluginsDir == b.pluginsDir
    && a.logDir == b.logDir
    && Value.same (.ofTable (a.pluginsConfig.map Value.ofTable))
      (.ofTable (b.pluginsConfig.map Value.ofTable))

/-! ## Files -/

/-- Why a configuration could not be loaded. -/
inductive LoadFailure where
  | unreadable (path : String) (error : FileError)
  | invalid (path : String) (error : Toml.ReadError)
deriving DecidableEq

/-- The message for a failed loading. -/
def LoadFailure.message : LoadFailure → String
  | .unreadable path _ => "Failed to read " ++ path
  | .invalid path _ => "Invalid TOML in " ++ path

/-- The message for what made the loading fail. -/
def LoadFailure.cause : LoadFailure → String
  | .unreadable _ e => e.message
  | .invalid _ e => e.message

/-- Load the configuration from what its path leads to. -/
def load (path : String) (node : Option Node) : Except LoadFailure HostConfig :=
  match node with
  | none => .ok {}
  | some file =>
    match file.readText with
    | .error e => .error (.unreadable path e)
    | .ok text =>
      match parse text with
      | .error e => .error (.invalid path e)
      | .ok c => .ok c

/-- Save the configuration to a file of a tree. -/
def save (c : HostConfig) (tree : Node) (path : String) (cwd : List String := []) :
    Except FileError Node :=
  tree.write path c.text.toUTF8 cwd

end HostConfig

end PluginHost
