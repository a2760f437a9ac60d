import PluginHost.Decimal.Natural
import PluginHost.Json.Basic
import PluginHost.Text.Blank
import PluginHost.Text.Lowercase
import PluginHost.Toml.Shape

/-! # Search indexes

    How the objects of a model are indexed for the global search.  An index is
    known by its label: the name of its model, trimmed and in lower case. -/

namespace PluginHost

open Toml (Shape)

/-- An index of one model: weighted fields, and what is shown of a hit. -/
structure SearchIndex where
  model        : String
  fields       : List (String × Nat) := []
  displayAttrs : List String := []
deriving DecidableEq, Inhabited

namespace SearchIndex

/-- The label of a model. -/
def labelOf (model : String) : String := Text.lowercase (Text.trim model)

/-- The label that an index is known by. -/
def label (i : SearchIndex) : String := labelOf i.model

/-- The fields as messages show them. -/
def fieldsText (i : SearchIndex) : String :=
  Text.bracketed (i.fields.map fun f =>
    "(" ++ Text.quoted f.1 ++ ", " ++ Decimal.text f.2 ++ ")")

/-- An index as data. -/
def json (i : SearchIndex) : Json :=
  .object
    [("model", .string i.model),
     ("fields", .array (i.fields.map fun f => .array [.string f.1, .integer f.2])),
     ("display_attrs", .strings i.displayAttrs)]

/-- The written form of an index. -/
def shape : Shape SearchIndex where
  name := "SearchIndex"
  fields :=
    [.needed "model" .string fun v i => { i with model := v },
     .optional "fields" (.list (.pair .string .word32)) fun v i => { i with fields := v },
     .optional "display_attrs" (.list .string) fun v i => { i with displayAttrs := v }]
  blank := { model := "" }

end SearchIndex

end PluginHost
