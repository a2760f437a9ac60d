import PluginHost.Descriptor.Basic
import PluginHost.Registry

/-! # Plugins and their contributions

    A plugin is its descriptor and the list of what it contributes.  A
    contribution may turn out to be malformed; what follows it then no longer
    counts.  Contributions are registered in the plugin's scope: its menu
    items go under its display name, its preferences under its short name. -/

namespace PluginHost

/-- One thing that a plugin registers. -/
inductive Contribution where
  | searchIndexes (indexes : List SearchIndex)
  | templates (classes : List TemplateClass)
  | menu (menu : Menu)
  | menuItems (items : List MenuItem)
  | graphqlSchema (schema : GraphQlSchema)
  | preferences (preferences : PreferenceSet)
deriving Inhabited

/-- A plugin: who it is, and what it contributes in order. -/
structure Plugin where
  descriptor    : Descriptor
  contributions : List (Except Violation Contribution) := []

namespace Plugin

/-- The name that a plugin is enabled by. -/
def name (p : Plugin) : String := p.descriptor.name

end Plugin

/-! ## Registering in a scope -/

namespace Descriptor

/-- Register a contribution of the plugin. -/
def register (d : Descriptor) (r : Registry) : Contribution → Except Violation (Logged Registry)
  | .searchIndexes indexes => do
    let r ← r.addSearchIndexes indexes
    pure ⟨r, [.searchIndexesRegistered d.name indexes.length]⟩
  | .templates classes => do
    let r ← r.addTemplates classes
    pure ⟨r, [.templatesRegistered d.name (classes.map (·.name))]⟩
  | .menu menu => .ok ⟨r.addMenu menu, [.menuRegistered d.name menu.label]⟩
  | .menuItems items =>
    .ok ⟨r.addMenuItems d.displayName items,
      r.replacementEvents d.displayName
        ++ [.menuItemsRegistered d.name items.length d.displayName]⟩
  | .graphqlSchema schema => .ok ⟨r.addSchema schema, [.schemaRegistered d.name schema.name]⟩
  | .preferences preferences =>
    .ok ⟨r.addPreferences d.shortName preferences,
      [.preferencesRegistered d.name preferences.size]⟩

end Descriptor

/-- How far a plugin got with its contributions: the registry, the log, and
    the violation that stopped it. -/
structure Readiness where
  registry  : Registry
  log       : List Event
  violation : Option Violation

/-- Register contributions in order, up to the first violation. -/
def Descriptor.registerAll (d : Descriptor) (r : Registry) :
    List (Except Violation Contribution) → Readiness
  | [] => ⟨r, [], none⟩
  | .error v :: _ => ⟨r, [], some v⟩
  | .ok contribution :: rest =>
    match d.register r contribution with
    | .error v => ⟨r, [], some v⟩
    | .ok step =>
      let later := d.registerAll step.value rest
      { later with log := step.log ++ later.log }

/-- Let a plugin register everything it contributes. -/
def Plugin.ready (p : Plugin) (r : Registry) : Readiness :=
  p.descriptor.registerAll r p.contributions

end PluginHost
