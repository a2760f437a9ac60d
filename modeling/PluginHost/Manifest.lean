import PluginHost.Extension.MenuDefinition
import PluginHost.Plugin
import PluginHost.Version.Reader

/-! # Manifests

    A manifest declares a plugin without any code: its descriptor, and a table
    for each kind of extension.  Only the descriptor is needed, and entries
    that mean nothing to this host are left out. -/

namespace PluginHost

open Toml (Value Shape Decoder Item)

/-- A plugin's manifest. -/
structure Manifest where
  plugin          : Descriptor
  menu            : Option MenuDefinition := none
  /-- Items for the section of the plugin, still a plain value. -/
  menuItems       : Option Value := none
  templates       : Option (List TemplateClass) := none
  graphqlSchema   : Option GraphQlSchema := none
  userPreferences : Option PreferenceSet := none
  searchIndexes   : Option (List SearchIndex) := none
deriving Inhabited

/-! ## Shape -/

/-- A slot is filled with a text, or with the template that a table names. -/
def SlotSource.decode : Decoder SlotSource := fun item => do
  item.check Toml.fitsWord "any value"
  match item with
  | .scalar (.string text) => .ok (.html text)
  | .table _ entries =>
    match Entries.get? "template" entries with
    | some (.scalar (.string name)) => .ok (.template name)
    | _ => .error (.noAlternative "SlotSource")
  | _ => .error (.noAlternative "SlotSource")

/-- The written form of a template extension. -/
def TemplateClass.shape : Shape TemplateClass where
  name := "TemplateExtensionDefinition"
  fields :=
    [.needed "name" .string fun v c => { c with name := v },
     .optional "model" .string fun v c => { c with model := some v },
     .optional "left_page" SlotSource.decode fun v c => { c with leftPage := some v },
     .optional "right_page" SlotSource.decode fun v c => { c with rightPage := some v },
     .optional "full_width_page" SlotSource.decode fun v c => { c with fullWidthPage := some v },
     .optional "buttons" SlotSource.decode fun v c => { c with buttons := some v }]
  blank := { name := "" }

namespace Manifest

/-- The written form of a manifest. -/
def shape : Shape Manifest where
  name := "PluginManifest"
  fields :=
    [.needed "plugin" Descriptor.shape.decode fun v m => { m with plugin := v },
     .optional "menu" MenuDefinition.shape.decode fun v m => { m with menu := some v },
     .optional "menu_items" .value fun v m => { m with menuItems := some v },
     .optional "template_extensions" (.list TemplateClass.shape.decode)
       fun v m => { m with templates := some v },
     .optional "graphql_schema" GraphQlSchema.shape.decode
       fun v m => { m with graphqlSchema := some v },
     .optional "user_preferences" (.table Preference.shape.decode)
       fun v m => { m with userPreferences := some v },
     .optional "search_indexes" (.list SearchIndex.shape.decode)
       fun v m => { m with searchIndexes := some v }]
  blank := { plugin := { name := "" } }

/-- Read the text of a manifest. -/
def parse (text : String) : Except Toml.ReadError Manifest := Toml.readAs shape.ofEntries text

end Manifest

/-! ## Validity -/

/-- Why a manifest is not acceptable, whatever the host. -/
inductive ManifestFault where
  | blankName
  | invalidVersion (version : String)
  | invalidBound (field value : String)
deriving DecidableEq, Repr

/-- The message for a fault. -/
def ManifestFault.message : ManifestFault → String
  | .blankName => "Plugin name cannot be empty"
  | .invalidVersion version =>
    "Invalid version '" ++ version ++ "': must be a version number"
  | .invalidBound field value => "Invalid " ++ field ++ " '" ++ value ++ "'"

namespace Manifest

/-- A bound is a version, if it is there. -/
def checkBound (field : String) : Option String → Except ManifestFault Unit
  | none => .ok ()
  | some value =>
    if (Version.parse value).isOk then .ok () else .error (.invalidBound field value)

/-- The name is not blank, and what should be a version is one. -/
def validate (m : Manifest) : Except ManifestFault Unit := do
  if Text.isBlank m.plugin.name then .error .blankName
  if !m.plugin.version.isEmpty && !(Version.parse m.plugin.version).isOk then
    .error (.invalidVersion m.plugin.version)
  checkBound "min_version" m.plugin.minVersion
  checkBound "max_version" m.plugin.maxVersion

/-! ## Contributions -/

/-- The contribution of the plugin's menu items; an empty list is none. -/
def itemsContribution (value : Value) : List (Except Violation Contribution) :=
  match PluginHost.menuItems "menu_items" value with
  | .error v => [.error v]
  | .ok [] => []
  | .ok items => [.ok (.menuItems items)]

/-- What the manifest contributes, in the order of registration. -/
def contributions (m : Manifest) : List (Except Violation Contribution) :=
  (m.searchIndexes.map fun indexes => .ok (.searchIndexes indexes)).toList
    ++ (m.templates.map fun classes => .ok (.templates classes)).toList
    ++ (m.menu.map fun definition => definition.menu.map .menu).toList
    ++ (m.menuItems.map itemsContribution).getD []
    ++ (m.graphqlSchema.map fun schema => .ok (.graphqlSchema schema)).toList
    ++ (m.userPreferences.map fun set => .ok (.preferences set)).toList

/-- The plugin that the manifest declares. -/
def toPlugin (m : Manifest) : Plugin := ⟨m.plugin, m.contributions⟩

end Manifest

end PluginHost
