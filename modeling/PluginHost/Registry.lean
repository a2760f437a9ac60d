import PluginHost.Extension.GraphQlSchema
import PluginHost.Log
import PluginHost.Extension.Menu
import PluginHost.Extension.Preference
import PluginHost.Extension.SearchIndex
import PluginHost.Extension.TemplateClass

/-! # The registry

    What the plugins contribute, in six stores.  Every registration checks all
    of its input before it stores anything, so a refused one changes nothing. -/

namespace PluginHost

/-- Everything that plugins registered. -/
structure Registry where
  graphqlSchemas : List GraphQlSchema := []
  menus          : List Menu := []
  /-- Menu items by the title of their section. -/
  menuItems      : Table (List MenuItem) := Table.empty
  /-- Preferences by plugin. -/
  preferences    : Table PreferenceSet := Table.empty
  /-- Template extensions by trimmed model, in the order of registration. -/
  templates      : Table (List TemplateClass) := Table.empty
  /-- Search indexes by label. -/
  search         : Table SearchIndex := Table.empty
deriving Inhabited

namespace Registry

/-- The registry that holds nothing. -/
def empty : Registry := {}

/-! ## Template extensions -/

/-- The model that a class is filed under, if it has one. -/
def targetOf (c : TemplateClass) : Except Violation String :=
  match c.model with
  | some model =>
    if Text.isBlank model then .error (.missingModel c.name) else .ok (Text.trim model)
  | none => .error (.missingModel c.name)

/-- File a class after those of its model. -/
def fileTemplate (templates : Table (List TemplateClass)) (e : String × TemplateClass) :
    Table (List TemplateClass) :=
  templates.insert e.1 ((templates.get? e.1).getD [] ++ [e.2])

/-- Register template extensions, each after the earlier ones of its model. -/
def addTemplates (r : Registry) (classes : List TemplateClass) : Except Violation Registry := do
  let targets ← classes.mapM targetOf
  pure { r with templates := (targets.zip classes).foldl fileTemplate r.templates }

/-! ## Search indexes -/

/-- Register search indexes; of two with one label the later stays. -/
def addSearchIndexes (r : Registry) (indexes : List SearchIndex) : Except Violation Registry :=
  match indexes.find? (·.label.isEmpty) with
  | some index => .error (.searchIndexWithoutModel index.fieldsText)
  | none => .ok { r with search := r.search.insertAll (indexes.map fun i => (i.label, i)) }

/-! ## Other extensions -/

/-- Register a menu. -/
def addMenu (r : Registry) (menu : Menu) : Registry := { r with menus := r.menus ++ [menu] }

/-- Register the items of a section, instead of those it has. -/
def addMenuItems (r : Registry) (title : String) (items : List MenuItem) : Registry :=
  { r with menuItems := r.menuItems.insert title items }

/-- What is reported when items are registered: that others gave way. -/
def replacementEvents (r : Registry) (title : String) : List Event :=
  if r.menuItems.contains title then [.sectionReplaced title] else []

/-- Register a schema. -/
def addSchema (r : Registry) (schema : GraphQlSchema) : Registry :=
  { r with graphqlSchemas := r.graphqlSchemas ++ [schema] }

/-- Register a plugin's preferences, instead of those it has. -/
def addPreferences (r : Registry) (plugin : String) (preferences : PreferenceSet) : Registry :=
  { r with preferences := r.preferences.insert plugin preferences }

/-! ## Queries -/

/-- The template extensions for a model, in the order of registration. -/
def templatesFor (r : Registry) (model : String) : List TemplateClass :=
  (r.templates.get? (Text.trim model)).getD []

/-- The search index for a model. -/
def searchIndex? (r : Registry) (model : String) : Option SearchIndex :=
  r.search.get? (SearchIndex.labelOf model)

/-- Does the registry hold nothing? -/
def isEmpty (r : Registry) : Bool :=
  r.graphqlSchemas.isEmpty && r.menus.isEmpty && r.menuItems.isEmpty && r.preferences.isEmpty
    && r.templates.isEmpty && r.search.isEmpty

/-- The content of the classes for a slot, one after the other.  The first
    failure is the answer. -/
def renderClasses (renderer : Renderer) (context : Context) (slot : Slot) :
    List TemplateClass → Except RenderError String
  | [] => .ok ""
  | c :: rest => do
    let content ← c.render renderer context slot
    let later ← renderClasses renderer context slot rest
    pure (content.getD "" ++ later)

/-- The content of a slot on a page of a model. -/
def renderSlot (r : Registry) (renderer : Renderer) (model : String) (slot : Slot)
    (context : Context) : Except RenderError String :=
  renderClasses renderer context slot (r.templatesFor model)

/-! ## Summary -/

/-- What the registry holds, as data. -/
def summary (r : Registry) : Json :=
  .object
    [("plugins", .object
      [("graphql_schemas", .strings (r.graphqlSchemas.map (·.name))),
       ("menus", .array (r.menus.map (·.json))),
       ("menu_items", .ofTable menuItemsJson r.menuItems),
       ("preferences", .ofTable preferencesJson r.preferences),
       ("template_extensions",
        .ofTable (fun classes => .strings (classes.map (·.name))) r.templates)]),
     ("search", .ofTable (·.json) r.search)]

end Registry

end PluginHost
