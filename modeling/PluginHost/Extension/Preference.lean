import PluginHost.Json.Basic
import PluginHost.Toml.Shape

/-! # User preferences

    Preferences that plugins let every user choose for themselves. -/

namespace PluginHost

open Toml (Shape)

/-- One value that a user may choose. -/
structure PreferenceChoice where
  value : String
  label : String
deriving DecidableEq, Inhabited

/-- A preference: its choices, and the one that holds until the user chooses. -/
structure Preference where
  label       : String
  choices     : List PreferenceChoice := []
  default     : Option String := none
  description : String := ""
deriving DecidableEq, Inhabited

/-- Preferences by name. -/
abbrev PreferenceSet := Table Preference

/-! ## Data -/

/-- A choice as data. -/
def PreferenceChoice.json (c : PreferenceChoice) : Json :=
  .object [("value", .string c.value), ("label", .string c.label)]

/-- A preference as data. -/
def Preference.json (p : Preference) : Json :=
  .object
    [("label", .string p.label), ("choices", .array (p.choices.map (·.json))),
     ("default", .optional p.default), ("description", .string p.description)]

/-- Preferences as data. -/
def preferencesJson (s : PreferenceSet) : Json := .ofTable (·.json) s

/-! ## Shape -/

/-- The written form of a choice. -/
def PreferenceChoice.shape : Shape PreferenceChoice where
  name := "PreferenceChoice"
  fields :=
    [.needed "value" .string fun v c => { c with value := v },
     .needed "label" .string fun v c => { c with label := v }]
  blank := { value := "", label := "" }

/-- The written form of a preference. -/
def Preference.shape : Shape Preference where
  name := "UserPreference"
  fields :=
    [.needed "label" .string fun v p => { p with label := v },
     .optional "choices" (.list PreferenceChoice.shape.decode) fun v p => { p with choices := v },
     .optional "default" .string fun v p => { p with default := some v },
     .optional "description" .string fun v p => { p with description := v }]
  blank := { label := "" }

end PluginHost
