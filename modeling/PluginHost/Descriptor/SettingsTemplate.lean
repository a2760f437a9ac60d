import PluginHost.Descriptor.Basic
import PluginHost.Toml.Inline

/-! # Settings templates

    The piece of configuration that a user starts from: required settings with
    their default or an empty text, the other defaults commented out. -/

namespace PluginHost

open Toml (Value)

namespace SettingsTemplate

/-- A character of a quoted key. -/
def escapeKeyChar (c : Char) : List Char :=
  if c = '\\' || c = '"' then ['\\', c] else [c]

/-- A key without quotes if it may stand so, else in double quotes. -/
def key (name : String) : String :=
  if Toml.isBareKey name.toList then name
  else String.ofList (['"'] ++ name.toList.flatMap escapeKeyChar ++ ['"'])

/-- What a required setting is set to. -/
def placeholder (d : Descriptor) (setting : String) : String :=
  match d.defaultSettings.get? setting with
  | some v => v.text
  | none => "\"\""

/-- The lines of the comment on top. -/
def opening (d : Descriptor) : List String :=
  ["# Settings for plugin '" ++ d.name ++ "'"]
    ++ (d.minVersion.map ("# Requires host version >= " ++ ·)).toList
    ++ (d.maxVersion.map ("# Requires host version <= " ++ ·)).toList

/-- The lines of a required setting. -/
def requiredLines (d : Descriptor) (setting : String) : List String :=
  ["# Required", key setting ++ " = " ++ placeholder d setting]

/-- The lines of a setting that may be left out. -/
def optionalLines (e : String × Value) : List String :=
  ["# Optional, default: " ++ e.2.text, "# " ++ key e.1 ++ " = " ++ e.2.text]

/-- The defaults that are not required. -/
def optionalDefaults (d : Descriptor) : Entries Value :=
  d.defaultSettings.entries.filter fun e => !d.requiredSettings.contains e.1

/-- All lines; the last one is empty. -/
def lines (d : Descriptor) : List String :=
  opening d ++ ["", "[plugins_config." ++ key d.name ++ "]"]
    ++ d.requiredSettings.flatMap (requiredLines d)
    ++ (optionalDefaults d).flatMap optionalLines
    ++ [""]

end SettingsTemplate

/-- The settings template of a plugin. -/
def Descriptor.settingsTemplate (d : Descriptor) : String :=
  "\n".intercalate (SettingsTemplate.lines d)

end PluginHost
