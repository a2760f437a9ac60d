import PluginHost.Proofs.MenuSchema
import PluginHost.Proofs.Toml.Trees

/-! # Menus are read back from their data

    The data that the registry is summarised in can stand in a document
    (`Item.ofJson?`).  The data of menu items and menus has the keys and texts
    that a manifest has, so each of them is read back from its data.

    Main theorem: `menus_read_back`. -/

namespace PluginHost

/-! ## Data in documents -/

namespace Toml

mutual

/-- Data as it stands in a document; null does not.  An object is a table,
    whose entries are in the order of their keys. -/
def Item.ofJson? : Json → Option Item
  | .null => none
  | .bool b => some (.scalar (.boolean b))
  | .integer n => some (.scalar (.integer (some n)))
  | .float x => some (.scalar (.float (some x)))
  | .string s => some (.scalar (.string s))
  | .array items => (itemsOfJson? items).map (.array false)
  | .object members =>
    (membersOfJson? members).map fun entries => .table .inline (Table.ofList entries).entries

/-- Data item by item. -/
def itemsOfJson? : List Json → Option (List Item)
  | [] => some []
  | json :: rest => do
    let item ← Item.ofJson? json
    pure (item :: (← itemsOfJson? rest))

/-- Data member by member. -/
def membersOfJson? : List (String × Json) → Option (List (String × Item))
  | [] => some []
  | (key, json) :: rest => do
    let item ← Item.ofJson? json
    pure ((key, item) :: (← membersOfJson? rest))

end

theorem itemsOfJson?_map {α : Type} {give : α → Json} {value : α → Value} {l : List α}
    (h : ∀ a ∈ l, Item.ofJson? (give a) = some (value a).item) :
    itemsOfJson? (l.map give) = some ((l.map value).map Value.item) := by
  induction l with
  | nil => rfl
  | cons a rest ih =>
    rw [List.map_cons, itemsOfJson?, h a List.mem_cons_self,
      ih fun b hb => h b (List.mem_cons_of_mem a hb)]
    rfl

theorem ofJson?_array {α : Type} {give : α → Json} {value : α → Value} {l : List α}
    (h : ∀ a ∈ l, Item.ofJson? (give a) = some (value a).item) :
    Item.ofJson? (.array (l.map give)) = some (Value.array (l.map value)).item := by
  rw [Item.ofJson?, itemsOfJson?_map h, Value.item]
  rfl

theorem ofJson?_string (text : String) :
    Item.ofJson? (.string text) = some (Value.string text).item := by
  rw [Item.ofJson?, Value.item]

theorem ofJson?_strings (texts : List String) :
    Item.ofJson? (.strings texts) = some (Value.strings texts).item :=
  ofJson?_array fun text _ => ofJson?_string text

theorem membersOfJson?_cons {key : String} {json : Json} {item : Item}
    {rest : List (String × Json)} (h : Item.ofJson? json = some item) :
    membersOfJson? ((key, json) :: rest) = (membersOfJson? rest).map ((key, item) :: ·) := by
  rw [membersOfJson?, h]
  cases membersOfJson? rest <;> rfl

/-- The members of an object are put into a table one after the other. -/
theorem ofJson?_object (members : List (String × Json)) :
    Item.ofJson? (.object members) = (membersOfJson? members).map fun entries =>
      .table .inline (entries.foldl (fun sorted e => Entries.insert e.1 e.2 sorted) []) := by
  -- By induction on the members, whatever the table that they are put into.
  have hsorted : ∀ (entries : Entries Item) (t : Table Item), (t.insertAll entries).entries =
      entries.foldl (fun sorted e => Entries.insert e.1 e.2 sorted) t.entries := by
    intro entries
    induction entries with
    | nil =>
      intro t
      rfl
    | cons e rest ih =>
      intro t
      exact ih (t.insert e.1 e.2)
  rw [Item.ofJson?]
  simp only [Table.ofList, hsorted]
  rfl

end Toml

open Toml

/-! ## Buttons and items -/

/-- A button as a value. -/
def MenuButton.value (b : MenuButton) : Value :=
  .table
    [("color", .string b.color.css), ("icon_class", .string b.iconClass),
     ("link", .string b.link), ("permissions", .strings b.permissions),
     ("title", .string b.title)]

theorem MenuButton.ofJson?_json (b : MenuButton) : Item.ofJson? b.json = some b.value.item := by
  rw [MenuButton.json, ofJson?_object, membersOfJson?_cons (ofJson?_string b.link),
    membersOfJson?_cons (ofJson?_string b.title), membersOfJson?_cons (ofJson?_string b.iconClass),
    membersOfJson?_cons (ofJson?_string b.color.css),
    membersOfJson?_cons (ofJson?_strings b.permissions), membersOfJson?, MenuButton.value,
    Value.item_table]
  -- What is left is to put the keys in order.
  simp only [Option.map_some, List.foldl, Entries.insert, String.reduceLT, String.reduceEq,
    reduceIte, List.map]

theorem MenuButton.isButton_value (b : MenuButton) : IsButton b.value b :=
  .table rfl rfl rfl (.written rfl) (.written rfl)

/-- An item as a value. -/
def MenuItem.value (i : MenuItem) : Value :=
  .table
    [("buttons", .array (i.buttons.map (·.value))), ("link", .string i.link),
     ("link_text", .string i.linkText), ("permissions", .strings i.permissions)]

theorem MenuItem.ofJson?_json (i : MenuItem) : Item.ofJson? i.json = some i.value.item := by
  have hbuttons := ofJson?_array fun b (_ : b ∈ i.buttons) => b.ofJson?_json
  rw [MenuItem.json, ofJson?_object, membersOfJson?_cons (ofJson?_string i.link),
    membersOfJson?_cons (ofJson?_string i.linkText),
    membersOfJson?_cons (ofJson?_strings i.permissions), membersOfJson?_cons hbuttons,
    membersOfJson?, MenuItem.value, Value.item_table]
  simp only [Option.map_some, List.foldl, Entries.insert, String.reduceLT, String.reduceEq,
    reduceIte, List.map]

theorem MenuItem.isItem_value (i : MenuItem) : IsItem i.value i := by
  refine .table rfl rfl (.written rfl) (.written rfl ?_)
  rw [List.forall₂_map_left_iff]
  exact List.forall₂_same.mpr fun b _ => b.isButton_value

theorem MenuItem.ofItem_value (i : MenuItem) : Value.ofItem i.value.item = .ok i.value := by
  -- Nothing but texts and arrays stands in the value, under keys of its own.
  apply Value.ofItem_item
  · simp [MenuItem.value, MenuButton.value, Value.strings, Value.Plain, Value.IsPlain]
  · simp [MenuItem.value, MenuButton.value, Value.strings, Value.Unreserved, Value.IsUnreserved,
      datetimeKey]

/-- Items as a value. -/
def menuItemsValue (items : List MenuItem) : Value := .array (items.map (·.value))

theorem ofJson?_menuItemsJson (items : List MenuItem) :
    Item.ofJson? (menuItemsJson items) = some (menuItemsValue items).item :=
  ofJson?_array fun i _ => i.ofJson?_json

theorem menuItems_value (field : String) (items : List MenuItem) :
    menuItems field (menuItemsValue items) = .ok items :=
  mapM_map_eq_ok fun i _ => menuItem_of_isItem i.isItem_value

theorem ofItem_menuItemsValue (items : List MenuItem) :
    Value.ofItem (menuItemsValue items).item = .ok (menuItemsValue items) := by
  rw [menuItemsValue, Value.item]
  refine Value.ofItem_array false ?_
  intro v hv
  obtain ⟨i, -, rfl⟩ := List.mem_map.mp hv
  exact i.ofItem_value

/-! ## Groups and menus -/

/-- A group as a value. -/
def MenuGroup.value (g : MenuGroup) : Value :=
  .table [("items", menuItemsValue g.items), ("label", .string g.label)]

/-- A group as a manifest defines it. -/
def MenuGroup.definition (g : MenuGroup) : GroupDefinition :=
  { label := g.label, items := menuItemsValue g.items }

/-- A menu as a value. -/
def Menu.value (m : Menu) : Value :=
  .table
    [("groups", .array (m.groups.map (·.value))), ("icon_class", .string m.iconClass),
     ("label", .string m.label)]

/-- A menu as a manifest defines it. -/
def Menu.definition (m : Menu) : MenuDefinition :=
  { label := m.label, iconClass := some m.iconClass, groups := m.groups.map (·.definition) }

theorem MenuGroup.ofJson?_json (g : MenuGroup) : Item.ofJson? g.json = some g.value.item := by
  rw [MenuGroup.json, ofJson?_object, membersOfJson?_cons (ofJson?_string g.label),
    membersOfJson?_cons (ofJson?_menuItemsJson g.items),
    membersOfJson?, MenuGroup.value, Value.item_table]
  simp only [Option.map_some, List.foldl, Entries.insert, String.reduceLT, String.reduceEq,
    reduceIte, List.map]

theorem Menu.ofJson?_json (m : Menu) : Item.ofJson? m.json = some m.value.item := by
  have hgroups := ofJson?_array fun g (_ : g ∈ m.groups) => g.ofJson?_json
  rw [Menu.json, ofJson?_object, membersOfJson?_cons (ofJson?_string m.label),
    membersOfJson?_cons hgroups, membersOfJson?_cons (ofJson?_string m.iconClass),
    membersOfJson?, Menu.value, Value.item_table]
  simp only [Option.map_some, List.foldl, Entries.insert, String.reduceLT, String.reduceEq,
    reduceIte, List.map]

theorem MenuGroup.decode_value (g : MenuGroup) :
    GroupDefinition.shape.decode g.value.item = .ok g.definition := by
  have hitems : GroupDefinition.shape.readEntry { label := "" }
      ("items", (menuItemsValue g.items).item) =
        .ok { label := "", items := menuItemsValue g.items } :=
    Field.read_optional (ofItem_menuItemsValue g.items) _
  have hlabel : GroupDefinition.shape.readEntry { label := "", items := menuItemsValue g.items }
      ("label", (Value.string g.label).item) = .ok g.definition :=
    Field.read_needed (decodeString g.label) _
  rw [MenuGroup.value, Value.item_table]
  refine Shape.ofEntries_eq_ok ?_ rfl
  exact (foldlM_cons_ok hitems).trans (foldlM_cons_ok hlabel)

theorem MenuGroup.group_definition (g : MenuGroup) : g.definition.group = .ok g := by
  show (menuItems "items" (menuItemsValue g.items) >>= fun items => pure _) = _
  rw [menuItems_value]
  rfl

theorem Menu.decode_value (m : Menu) :
    MenuDefinition.shape.decode m.value.item = .ok m.definition := by
  have hgroups : Decoder.list GroupDefinition.shape.decode
      (Value.array (m.groups.map (·.value))).item = .ok (m.groups.map (·.definition)) := by
    rw [Value.item]
    show List.mapM _ _ = _
    rw [mapM_eq_ok_iff, List.forall₂_map_left_iff, List.forall₂_map_left_iff,
      List.forall₂_map_right_iff]
    exact List.forall₂_same.mpr fun g _ => g.decode_value
  -- The definition as far as it is read after each entry.
  have hfirst : MenuDefinition.shape.readEntry { label := "" }
      ("groups", (Value.array (m.groups.map (·.value))).item) =
        .ok { label := "", groups := m.groups.map (·.definition) } :=
    Field.read_optional hgroups _
  have hsecond : MenuDefinition.shape.readEntry
      { label := "", groups := m.groups.map (·.definition) }
      ("icon_class", (Value.string m.iconClass).item) =
        .ok { m.definition with label := "" } :=
    Field.read_optional (decodeString m.iconClass) _
  have hthird : MenuDefinition.shape.readEntry { m.definition with label := "" }
      ("label", (Value.string m.label).item) = .ok m.definition :=
    Field.read_needed (decodeString m.label) _
  rw [Menu.value, Value.item_table]
  refine Shape.ofEntries_eq_ok ?_ rfl
  exact (foldlM_cons_ok hfirst).trans ((foldlM_cons_ok hsecond).trans (foldlM_cons_ok hthird))

theorem Menu.menu_definition (m : Menu) : m.definition.menu = .ok m := by
  have hgroups : (m.groups.map (·.definition)).mapM GroupDefinition.group = .ok m.groups :=
    mapM_map_eq_ok fun g _ => g.group_definition
  show ((m.groups.map (·.definition)).mapM GroupDefinition.group >>= fun groups => pure _) = _
  rw [hgroups]
  rfl

/-! ## Main theorem -/

/-- **Menus are read back from their data.**  Data of a menu item is a value that
    is taken for the same item; data of a menu is decoded as the definition of
    the same menu. -/
theorem menus_read_back :
    (∀ i : MenuItem, ∃ item v, Item.ofJson? i.json = some item ∧ Value.ofItem item = .ok v ∧
      menuItem v = .ok i) ∧
    (∀ m : Menu, ∃ item definition, Item.ofJson? m.json = some item ∧
      MenuDefinition.shape.decode item = .ok definition ∧ definition.menu = .ok m) := by
  refine ⟨?_, ?_⟩
  · intro i
    exact ⟨_, i.value, i.ofJson?_json, i.ofItem_value, menuItem_of_isItem i.isItem_value⟩
  · intro m
    exact ⟨_, m.definition, m.ofJson?_json, m.decode_value, m.menu_definition⟩

end PluginHost
