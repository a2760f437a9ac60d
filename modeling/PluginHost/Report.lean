import PluginHost.Json.Layout
import PluginHost.Loader

/-! # Reports

    What the commands print about plugins, line by line. -/

namespace PluginHost

namespace Report

/-! ## Pieces -/

/-- A text in a column of at least `width` characters. -/
def column (width : Nat) (s : String) : String :=
  s ++ String.ofList (List.replicate (width - s.length) ' ')

/-- Texts separated by commas. -/
def commaList (items : List String) : String := ", ".intercalate items

/-- Lines under a title, or nothing if there are none. -/
def titled (title : String) (lines : List String) : List String :=
  if lines.isEmpty then [] else title :: lines

/-- A label and texts, or nothing if there are none. -/
def labelled (label : String) (items : List String) : List String :=
  if items.isEmpty then [] else [label ++ commaList items]

/-! ## Loaded plugins -/

/-- A mark in green. -/
def okMark : String := "\x1b[32m[OK]\x1b[0m"

/-- The line of a loaded plugin. -/
def loadedLine (p : Loader.LoadedPlugin) : String :=
  okMark ++ " " ++ p.name ++ " (" ++ p.displayName ++ ") v" ++ p.version ++ " at /plugins/"
    ++ p.urlSegment ++ "/"

/-- The loaded plugins, and what has to be installed. -/
def loaded (l : Loader.Loaded) : List String :=
  if l.plugins.isEmpty then ["No plugins enabled."]
  else
    l.plugins.map loadedLine
      ++ ["", "Installed apps: " ++ commaList l.installedApps]
      ++ labelled "Middleware:     " l.middleware
      ++ labelled "Queues:         " l.queues

/-! ## Available plugins -/

/-- A row of the list up to its status. -/
def row (name version status : String) : String :=
  column 30 name ++ " " ++ column 12 version ++ " " ++ column 10 status

/-- The row of an available plugin. -/
def availableRow (enabled : List String) (p : Plugin) : String :=
  row p.name p.descriptor.version (if enabled.contains p.name then "enabled" else "disabled")
    ++ " " ++ p.descriptor.displayName

/-- The row of an enabled name without a plugin. -/
def missingRow (name : String) : String := row name "-" "missing"

/-- The available plugins, and the enabled names that have none. -/
def available (l : Loader) (enabled : List String) : List String :=
  if l.plugins.isEmpty then ["No plugins installed."]
  else
    [row "NAME" "VERSION" "STATUS" ++ " VERBOSE NAME", String.ofList (List.replicate 70 '-')]
      ++ l.plugins.map (availableRow enabled)
      ++ (enabled.filter fun name => (l.get? name).isNone).map missingRow

/-! ## The registry -/

/-- The line of a menu item at an indentation. -/
def itemLine (indentation : String) (i : MenuItem) : String :=
  indentation ++ i.linkText ++ " -> " ++ i.link

/-- The lines of a group. -/
def groupLines (g : MenuGroup) : List String :=
  ("    " ++ g.label) :: g.items.map (itemLine "      ")

/-- The lines of a menu. -/
def menuLines (m : Menu) : List String :=
  ("  " ++ m.label ++ " [" ++ m.iconClass ++ "]") :: m.groups.flatMap groupLines

/-- What the registry holds. -/
def registry (r : Registry) : List String :=
  if r.isEmpty then ["Registry is empty."]
  else
    titled "Menus:" (r.menus.flatMap menuLines)
      ++ titled "Menu items:"
        (r.menuItems.entries.flatMap fun e => ("  " ++ e.1) :: e.2.map (itemLine "    "))
      ++ titled "Template extensions:"
        (r.templates.entries.map fun e => "  " ++ e.1 ++ ": " ++ commaList (e.2.map (·.name)))
      ++ titled "GraphQL schemas:" (r.graphqlSchemas.map ("  " ++ ·.name))
      ++ titled "User preferences:"
        (r.preferences.entries.map fun e => "  " ++ e.1 ++ ": " ++ commaList e.2.keys)
      ++ titled "Search indexes:" (r.search.keys.map ("  " ++ ·))

end Report

end PluginHost
