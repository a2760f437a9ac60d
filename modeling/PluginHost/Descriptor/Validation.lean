import PluginHost.Descriptor.Basic
import PluginHost.Version.Reader

/-! # Validating plugins

    Whether a plugin can work with this host and with the user's settings.
    Three steps, and the first fault wins: the host version lies within the
    plugin's bounds, every required setting is given, and then the defaults
    are filled in.  Settings change only when all is well. -/

namespace PluginHost

open Toml (Settings)

/-! ## Faults -/

/-- Why a plugin cannot work here. -/
inductive ConfigurationError where
  /-- The host version or a bound is no version. -/
  | invalidVersion (plugin value : String) (reason : Version.ParseError)
  | belowMinimum (plugin minimum : String)
  | aboveMaximum (plugin maximum : String)
  | missingSetting (plugin setting : String)
deriving DecidableEq, Repr

/-- The message for a fault. -/
def ConfigurationError.message : ConfigurationError → String
  | .invalidVersion plugin value reason =>
    "Plugin " ++ plugin ++ " declares an invalid version '" ++ value ++ "': " ++ reason.message
  | .belowMinimum plugin minimum =>
    "Plugin " ++ plugin ++ " requires host minimum version " ++ minimum ++ "."
  | .aboveMaximum plugin maximum =>
    "Plugin " ++ plugin ++ " requires host maximum version " ++ maximum ++ "."
  | .missingSetting plugin setting =>
    "Plugin " ++ plugin ++ " requires '" ++ setting
      ++ "' to be present in the plugins_config section of the configuration."

namespace Descriptor

/-! ## Versions -/

/-- Read a version on behalf of a plugin. -/
def parseVersion (d : Descriptor) (value : String) : Except ConfigurationError Version :=
  match Version.parse value with
  | .ok v => .ok v
  | .error reason => .error (.invalidVersion d.name value reason)

/-- The host is not below the plugin's least version. -/
def checkMinimum (d : Descriptor) (host : Version) : Except ConfigurationError Unit :=
  match d.minVersion with
  | none => .ok ()
  | some bound => do
    let least ← d.parseVersion bound
    if host.compare least = .lt then .error (.belowMinimum d.name bound) else pure ()

/-- The host is not above the plugin's greatest version. -/
def checkMaximum (d : Descriptor) (host : Version) : Except ConfigurationError Unit :=
  match d.maxVersion with
  | none => .ok ()
  | some bound => do
    let greatest ← d.parseVersion bound
    if host.compare greatest = .gt then .error (.aboveMaximum d.name bound) else pure ()

/-- The host version lies within the bounds.  The least version is compared
    before the greatest one is read. -/
def checkBounds (d : Descriptor) (hostVersion : String) : Except ConfigurationError Unit := do
  let host ← d.parseVersion hostVersion
  d.checkMinimum host
  d.checkMaximum host

/-! ## Settings -/

/-- Every required setting is given; the first one that is not is the fault. -/
def checkRequired (d : Descriptor) (settings : Settings) : Except ConfigurationError Unit :=
  match d.requiredSettings.find? fun setting => !settings.contains setting with
  | some setting => .error (.missingSetting d.name setting)
  | none => .ok ()

/-- Fill in a setting that is not there. -/
def addDefault (settings : Settings) (e : String × Toml.Value) : Settings :=
  if settings.contains e.1 then settings else settings.insert e.1 e.2

/-- The settings with the defaults for those that are not there. -/
def applyDefaults (d : Descriptor) (settings : Settings) : Settings :=
  d.defaultSettings.entries.foldl addDefault settings

/-! ## All steps -/

/-- The completed settings, if the plugin can work here. -/
def validate (d : Descriptor) (settings : Settings) (hostVersion : String) :
    Except ConfigurationError Settings := do
  d.checkBounds hostVersion
  d.checkRequired settings
  pure (d.applyDefaults settings)

end Descriptor

end PluginHost
