import PluginHost.Extension.ButtonColor
import PluginHost.Json.Basic

/-! # Menus

    What plugins add to the host's navigation: whole menus of their own, or
    single items for a section that carries the plugin's name. -/

namespace PluginHost

/-! ## Parts of a menu -/

/-- A button at the right of a menu item. -/
structure MenuButton where
  link        : String
  title       : String
  iconClass   : String
  color       : ButtonColor := .default
  permissions : List String := []
deriving DecidableEq, Inhabited

/-- A link, who may see it, and its buttons. -/
structure MenuItem where
  link        : String
  linkText    : String
  permissions : List String := []
  buttons     : List MenuButton := []
deriving DecidableEq, Inhabited

/-- Items under a common label. -/
structure MenuGroup where
  label : String
  items : List MenuItem
deriving DecidableEq, Inhabited

/-- The icon of a menu that does not choose one. -/
def defaultIcon : String := "mdi mdi-puzzle"

/-- A menu of a plugin's own. -/
structure Menu where
  label     : String
  groups    : List MenuGroup
  iconClass : String := defaultIcon
deriving DecidableEq, Inhabited

/-! ## Data -/

/-- A button as data. -/
def MenuButton.json (b : MenuButton) : Json :=
  .object
    [("link", .string b.link), ("title", .string b.title), ("icon_class", .string b.iconClass),
     ("color", .string b.color.css), ("permissions", .strings b.permissions)]

/-- A menu item as data. -/
def MenuItem.json (i : MenuItem) : Json :=
  .object
    [("link", .string i.link), ("link_text", .string i.linkText),
     ("permissions", .strings i.permissions), ("buttons", .array (i.buttons.map (·.json)))]

/-- Menu items as data. -/
def menuItemsJson (items : List MenuItem) : Json := .array (items.map (·.json))

/-- A group as data. -/
def MenuGroup.json (g : MenuGroup) : Json :=
  .object [("label", .string g.label), ("items", menuItemsJson g.items)]

/-- A menu as data. -/
def Menu.json (m : Menu) : Json :=
  .object
    [("label", .string m.label), ("groups", .array (m.groups.map (·.json))),
     ("icon_class", .string m.iconClass)]

end PluginHost
