import PluginHost.Extension.Menu
import PluginHost.Toml.Inline
import PluginHost.Toml.Shape

/-! # Menus as a manifest defines them

    A manifest keeps its menu items as plain values; only when the plugin
    registers them are they taken for items (`menuItems`), and the first
    value that is none is the fault. -/

namespace PluginHost

open Toml (Value Shape Decoder)

/-! ## Items -/

/-- The string under a key. -/
def stringField? (entries : Entries Value) (key : String) : Option String :=
  (entries.get? key).bind Value.string?

/-- The permissions under their key: a list of strings, or nothing. -/
def permissionsOf (entries : Entries Value) : Except Violation (List String) :=
  match entries.get? "permissions" with
  | none => .ok []
  | some value =>
    match value.array? with
    | none => .error (.notAList "permissions")
    | some items =>
      match items.mapM Value.string? with
      | none => .error (.notAList "permissions")
      | some texts => .ok texts

/-- The text of a colour, if a colour is given; a colour must be a string. -/
def colorText? (entries : Entries Value) : Option (Option String) :=
  match entries.get? "color" with
  | none => some none
  | some value => (value.string?).map some

/-- The parts of a button that the palette has no say in. -/
def buttonParts? (value : Value) : Option (Entries Value × MenuButton × Option String) := do
  let entries ← value.table?
  let link ← stringField? entries "link"
  let title ← stringField? entries "title"
  let iconClass ← stringField? entries "icon_class"
  let color ← colorText? entries
  pure (entries, { link, title, iconClass }, color)

/-- The colour of a text, or the default without one. -/
def colorOf : Option String → Except Violation ButtonColor
  | none => .ok .default
  | some text => ButtonColor.ofCss text

/-- The button that a value is. -/
def menuButton (value : Value) : Except Violation MenuButton :=
  match buttonParts? value with
  | none => .error (.notAMenuButton value.text)
  | some (entries, button, colorText) => do
    let color ← colorOf colorText
    let permissions ← permissionsOf entries
    pure { button with color, permissions }

/-- The buttons under their key: a list of buttons, or nothing. -/
def buttonsOf (entries : Entries Value) : Except Violation (List MenuButton) :=
  match entries.get? "buttons" with
  | none => .ok []
  | some value =>
    match value.array? with
    | none => .error (.notAList "buttons")
    | some items => items.mapM menuButton

/-- The entries, link and text of an item. -/
def itemParts? (value : Value) : Option (Entries Value × String × String) := do
  let entries ← value.table?
  let link ← stringField? entries "link"
  let linkText ← stringField? entries "link_text"
  pure (entries, link, linkText)

/-- The menu item that a value is. -/
def menuItem (value : Value) : Except Violation MenuItem :=
  match itemParts? value with
  | none => .error (.notAMenuItem value.text)
  | some (entries, link, linkText) => do
    let permissions ← permissionsOf entries
    let buttons ← buttonsOf entries
    pure { link, linkText, permissions, buttons }

/-- The menu items that a value is, which stands in the named field. -/
def menuItems (field : String) (value : Value) : Except Violation (List MenuItem) :=
  match value.array? with
  | none => .error (.notAList field)
  | some items => items.mapM menuItem

/-! ## Menus -/

/-- A group whose items are still plain values. -/
structure GroupDefinition where
  label : String
  items : Value := .array []
deriving Inhabited

/-- A menu whose items are still plain values. -/
structure MenuDefinition where
  label     : String
  iconClass : Option String := none
  groups    : List GroupDefinition := []
deriving Inhabited

/-- The written form of a group. -/
def GroupDefinition.shape : Shape GroupDefinition where
  name := "MenuGroupDefinition"
  fields :=
    [.needed "label" .string fun v g => { g with label := v },
     .optional "items" .value fun v g => { g with items := v }]
  blank := { label := "" }

/-- The written form of a menu. -/
def MenuDefinition.shape : Shape MenuDefinition where
  name := "MenuDefinition"
  fields :=
    [.needed "label" .string fun v m => { m with label := v },
     .optional "icon_class" .string fun v m => { m with iconClass := some v },
     .optional "groups" (.list GroupDefinition.shape.decode) fun v m => { m with groups := v }]
  blank := { label := "" }

/-- The group that a definition describes. -/
def GroupDefinition.group (g : GroupDefinition) : Except Violation MenuGroup := do
  pure { label := g.label, items := ← menuItems "items" g.items }

/-- The menu that a definition describes. -/
def MenuDefinition.menu (m : MenuDefinition) : Except Violation Menu := do
  let groups ← m.groups.mapM GroupDefinition.group
  pure { label := m.label, groups, iconClass := m.iconClass.getD defaultIcon }

end PluginHost
