import PluginHost.Text.Quoted

/-! # The contract between host and plugins

    The version of the contract, and the faults of extensions that do not keep
    it. -/

namespace PluginHost

/-- The version of the contract that this host speaks. -/
def contractVersion : String := "0.3.0"

/-- Why an extension is refused when it is built or registered. -/
inductive Violation where
  /-- A template extension has no model, or a blank one. -/
  | missingModel (extension : String)
  /-- A colour is not in the palette. -/
  | invalidButtonColor (color : String)
  /-- A field that has to be a list is something else. -/
  | notAList (field : String)
  /-- An element of a list of menu items is no menu item. -/
  | notAMenuItem (text : String)
  /-- An element of a list of buttons is no button. -/
  | notAMenuButton (text : String)
  /-- A search index has a blank model. -/
  | searchIndexWithoutModel (fields : String)
deriving DecidableEq, Repr

/-- The message for a violation. -/
def Violation.message : Violation → String
  | .missingModel extension =>
    "template extension '" ++ extension ++ "' does not define a valid model"
  | .invalidButtonColor color =>
    "button color '" ++ color ++ "' is not a choice within the button color palette"
  | .notAList field => field ++ " must be passed as a list"
  | .notAMenuItem text => text ++ " must be a plugin menu item"
  | .notAMenuButton text => text ++ " must be a plugin menu button"
  | .searchIndexWithoutModel fields =>
    "search index for '" ++ fields ++ "' does not define a model"

/-- A template that could not be rendered, and why. -/
structure RenderError where
  template : String
  reason   : String
deriving DecidableEq, Repr

/-- The message for a failed rendering. -/
def RenderError.message (e : RenderError) : String :=
  "failed to render template '" ++ e.template ++ "': " ++ e.reason

end PluginHost
