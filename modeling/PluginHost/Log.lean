import PluginHost.Decimal.Natural
import PluginHost.Text.Terminal

/-! # The log

    Everything the host reports about its work, as events.  An event has a
    level and a message; operations return the events in the order in which
    they happen.  A program shows them with `Event.printedLine`, which leaves
    nothing to the terminal that steers it. -/

namespace PluginHost

/-! ## Levels -/

/-- How important an event is, the most important level first. -/
inductive Level where
  | error | warn | info | debug
deriving DecidableEq, Repr

namespace Level

/-- The name of a level in the log. -/
def name : Level → String
  | .error => "ERROR"
  | .warn => "WARN"
  | .info => "INFO"
  | .debug => "DEBUG"

/-- Levels by importance. -/
def rank : Level → Nat
  | .error => 1
  | .warn => 2
  | .info => 3
  | .debug => 4

end Level

/-- The least important level that is kept, none to keep nothing. -/
abbrev Threshold := Option Level

/-- The threshold that a name or a number stands for, in letters of either
    case.  An empty name keeps errors only. -/
def Threshold.ofName? (name : String) : Option Threshold :=
  let name := name.toLower
  if name = "off" ∨ name = "0" then some none
  else if name = "error" ∨ name = "1" ∨ name = "" then some (some .error)
  else if name = "warn" ∨ name = "2" then some (some .warn)
  else if name = "info" ∨ name = "3" then some (some .info)
  else if name = "debug" ∨ name = "4" then some (some .debug)
  -- Nothing is less important than what this level keeps.
  else if name = "trace" ∨ name = "5" then some (some .debug)
  else none

/-- The threshold of a setting; the default is to keep what informs. -/
def Threshold.ofSetting (setting : Option String) : Threshold :=
  (setting.bind Threshold.ofName?).getD (some .info)

/-! ## Events -/

/-- Something that happened. -/
inductive Event where
  | pluginAvailable (plugin : String)
  | searchIndexesRegistered (plugin : String) (count : Nat)
  | templatesRegistered (plugin : String) (names : List String)
  | menuRegistered (plugin label : String)
  | menuItemsRegistered (plugin : String) (count : Nat) (title : String)
  | schemaRegistered (plugin schema : String)
  | preferencesRegistered (plugin : String) (count : Nat)
  /-- The items of a navigation section gave way to later ones. -/
  | sectionReplaced (title : String)
  | pluginLoaded (plugin version : String)
  | directoryMissing (directory : String)
  | manifestMissing (directory : String)
  | pluginDiscovered (plugin directory : String)
  | started (host contract : String)
  | pluginsAvailable (count : Nat) (directory : String)
  | pluginsLoaded (count : Nat)
deriving DecidableEq, Repr

namespace Event

/-- The level of an event. -/
def level : Event → Level
  | .sectionReplaced _ => .warn
  | .manifestMissing _ => .warn
  | .pluginLoaded _ _ => .info
  | .pluginsLoaded _ => .info
  | _ => .debug

/-- The start of the messages about a registration. -/
def registered (plugin : String) : String := "Plugin '" ++ plugin ++ "' registered "

/-- The message of an event. -/
def message : Event → String
  | .pluginAvailable plugin => "Plugin '" ++ plugin ++ "' is available"
  | .searchIndexesRegistered plugin count =>
    registered plugin ++ Decimal.text count ++ " search index(es)"
  | .templatesRegistered plugin names =>
    registered plugin ++ "template extensions: " ++ Text.quotedList names
  | .menuRegistered plugin label => registered plugin ++ "menu '" ++ label ++ "'"
  | .menuItemsRegistered plugin count title =>
    registered plugin ++ Decimal.text count ++ " menu item(s) under '" ++ title ++ "'"
  | .schemaRegistered plugin schema => registered plugin ++ "GraphQL schema '" ++ schema ++ "'"
  | .preferencesRegistered plugin count =>
    registered plugin ++ Decimal.text count ++ " user preference(s)"
  | .sectionReplaced title => "Menu items for section '" ++ title ++ "' were replaced"
  | .pluginLoaded plugin version => "Loaded plugin: " ++ plugin ++ " v" ++ version
  | .directoryMissing directory =>
    "Plugins directory does not exist: " ++ Text.quoted directory
  | .manifestMissing directory =>
    "Skipping " ++ Text.quoted directory ++ ": missing plugin.toml"
  | .pluginDiscovered plugin directory =>
    "Discovered plugin '" ++ plugin ++ "' in " ++ Text.quoted directory
  | .started host contract =>
    "nbplugins starting, host version " ++ host ++ ", plugin interface " ++ contract
  | .pluginsAvailable count directory =>
    Decimal.text count ++ " plugin(s) available in " ++ Text.quoted directory
  | .pluginsLoaded count => "Loaded " ++ Decimal.text count ++ " plugin(s)"

/-- The line that an event is in the log. -/
def line (e : Event) : String := e.level.name ++ " " ++ e.message

/-- The line that the program writes for an event, on a terminal or to a file. -/
def printedLine (e : Event) : String := e.level.name ++ " " ++ Text.forTerminal e.message

/-- Is the event kept under a threshold? -/
def isKept (threshold : Threshold) (e : Event) : Bool :=
  match threshold with
  | none => false
  | some level => e.level.rank ≤ level.rank

end Event

/-! ## Results with a log -/

/-- A result, and what was reported on the way to it. -/
structure Logged (α : Type) where
  value : α
  log   : List Event

end PluginHost
