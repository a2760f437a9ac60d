import PluginHost.Extension.MenuDefinition
import PluginHost.Proofs.Steps

/-! # What a menu item is

    A menu item is a table with a link, a text, permissions and buttons
    (`IsItem`), a button is one with four texts and permissions (`IsButton`).
    What a manifest gives as menu items is taken for them exactly if it is an
    array of such tables, and otherwise the first fault in it is reported:
    items are judged one after the other, and of an item first the texts, then
    the permissions, then its buttons in the same way.

    Main theorem: `menuItems_by_schema`. -/

namespace PluginHost

open Toml (Value)

variable {entries : Entries Value} {value v : Value} {key field text link title iconClass : String}
  {texts : List String} {color : Option String} {e : Violation}

/-! ## Texts -/

theorem string?_eq_some_iff : value.string? = some text ↔ value = .string text := by
  cases value <;> simp [Value.string?]

theorem table?_eq_some_iff : value.table? = some entries ↔ value = .table entries := by
  cases value <;> simp [Value.table?]

theorem array?_eq_none (h : ∀ items, value ≠ .array items) : value.array? = none := by
  cases value with
  | array items => exact absurd rfl (h items)
  | _ => rfl

theorem mapM_string?_eq_some_iff {items : List Value} :
    items.mapM Value.string? = some texts ↔ items = texts.map .string := by
  induction items generalizing texts with
  | nil => cases texts <;> simp
  | cons value rest ih =>
    cases texts with
    | nil => simp [List.mapM_cons, Option.bind_eq_some_iff]
    | cons text texts =>
      simp [List.mapM_cons, Option.bind_eq_some_iff, string?_eq_some_iff, ih]

theorem stringField?_eq_some_iff :
    stringField? entries key = some text ↔ entries.get? key = some (.string text) := by
  unfold stringField?
  simp [Option.bind_eq_some_iff, string?_eq_some_iff]

/-- The value is a table with these entries, and each of the keys has a text. -/
structure HasTexts (keys : List String) (v : Value) (entries : Entries Value) : Prop where
  table : v = .table entries
  texts : ∀ key ∈ keys, ∃ text, entries.get? key = some (.string text)

/-! ## Permissions -/

/-- The permissions that entries ask for: none if none are mentioned. -/
inductive Permits (entries : Entries Value) : List String → Prop where
  | absent (h : entries.get? "permissions" = none) : Permits entries []
  | written {texts : List String} (h : entries.get? "permissions" = some (.strings texts)) :
    Permits entries texts

/-- Permissions that are not a list of texts. -/
inductive PermissionsFault (entries : Entries Value) : Violation → Prop where
  | notTexts {value : Value} (h : entries.get? "permissions" = some value)
      (hnot : ∀ texts, value ≠ .strings texts) : PermissionsFault entries (.notAList "permissions")

theorem permissionsOf_of_permits (h : Permits entries texts) :
    permissionsOf entries = .ok texts := by
  unfold permissionsOf
  cases h with
  | absent h => simp only [h]
  | written h =>
    have htexts := mapM_string?_eq_some_iff.mpr (Eq.refl (texts.map Value.string))
    simp only [h, Value.strings, Value.array?, htexts]

theorem permissionsOf_of_fault (h : PermissionsFault entries e) :
    permissionsOf entries = .error e := by
  cases h with
  | @notTexts value h hnot =>
    unfold permissionsOf
    simp only [h]
    cases harray : value.array? with
    | none => rfl
    | some items =>
      -- An array all of whose items are texts would be a list of texts.
      cases htexts : items.mapM Value.string? with
      | none => simp only [htexts]
      | some texts =>
        rw [mapM_string?_eq_some_iff] at htexts
        cases value with
        | array items' =>
          cases harray
          exact absurd (congrArg Value.array htexts) (hnot texts)
        | _ => cases harray

theorem permissionsOf_decided (entries : Entries Value) :
    Decided (permissionsOf entries) (Permits entries) (PermissionsFault entries) := by
  apply Decided.of_total
  · intro texts h
    exact permissionsOf_of_permits h
  · intro e h
    exact permissionsOf_of_fault h
  · cases h : entries.get? "permissions" with
    | none => exact .inl ⟨[], .absent h⟩
    | some value =>
      by_cases htexts : ∃ texts, value = .strings texts
      · obtain ⟨texts, rfl⟩ := htexts
        exact .inl ⟨texts, .written h⟩
      · exact .inr ⟨_, .notTexts h (not_exists.mp htexts)⟩

/-! ## Colours -/

/-- The colour that entries choose: the default if none is mentioned. -/
inductive Colored (entries : Entries Value) : ButtonColor → Prop where
  | absent (h : entries.get? "color" = none) : Colored entries .default
  | written {c : ButtonColor} (h : entries.get? "color" = some (.string c.css)) : Colored entries c

theorem ofCss_of_foreign (hnot : ∀ c : ButtonColor, c.css ≠ text) :
    ButtonColor.ofCss text = .error (.invalidButtonColor text) := by
  have hnone : ButtonColor.all.find? (·.css == text) = none := by
    rw [List.find?_eq_none]
    intro c _
    simpa using hnot c
  rw [ButtonColor.ofCss, hnone]

theorem colorText?_of_colored {c : ButtonColor} (h : Colored entries c) :
    ∃ color, colorText? entries = some color ∧ colorOf color = .ok c := by
  unfold colorText?
  cases h with
  | absent h => exact ⟨none, by rw [h], rfl⟩
  | written h => exact ⟨some c.css, by rw [h]; rfl, ButtonColor.ofCss_css c⟩

/-! ## Buttons -/

/-- The value is a table with the texts of a button, and its colour is a text if
    one is mentioned. -/
structure HasButtonTexts (v : Value) (entries : Entries Value) : Prop
    extends HasTexts ["link", "title", "icon_class"] v entries where
  color : ∀ value, entries.get? "color" = some value → ∃ text, value = .string text

/-- The value is written as the button. -/
inductive IsButton : Value → MenuButton → Prop where
  | table {entries : Entries Value} {b : MenuButton}
      (link : entries.get? "link" = some (.string b.link))
      (title : entries.get? "title" = some (.string b.title))
      (iconClass : entries.get? "icon_class" = some (.string b.iconClass))
      (color : Colored entries b.color) (permissions : Permits entries b.permissions) :
      IsButton (.table entries) b

/-- What is wrong with a value that is no button, by precedence: its texts, its
    colour, its permissions. -/
inductive ButtonFault (v : Value) : Violation → Prop where
  | malformed (h : ∀ entries, ¬HasButtonTexts v entries) : ButtonFault v (.notAMenuButton v.text)
  | color {entries : Entries Value} {text : String} (hv : HasButtonTexts v entries)
      (h : entries.get? "color" = some (.string text)) (hnot : ∀ c : ButtonColor, c.css ≠ text) :
      ButtonFault v (.invalidButtonColor text)
  | permissions {entries : Entries Value} {c : ButtonColor} {e : Violation}
      (hv : HasButtonTexts v entries) (hcolor : Colored entries c)
      (h : PermissionsFault entries e) : ButtonFault v e

theorem hasButtonTexts_of_parts {button : MenuButton}
    (h : buttonParts? v = some (entries, button, color)) : HasButtonTexts v entries := by
  unfold buttonParts? at h
  obtain ⟨entries', htable, h⟩ := Option.bind_eq_some_iff.mp h
  obtain ⟨link, hlink, h⟩ := Option.bind_eq_some_iff.mp h
  obtain ⟨title, htitle, h⟩ := Option.bind_eq_some_iff.mp h
  obtain ⟨iconClass, hicon, h⟩ := Option.bind_eq_some_iff.mp h
  obtain ⟨color', hcolor, h⟩ := Option.bind_eq_some_iff.mp h
  cases h
  rw [stringField?_eq_some_iff] at hlink htitle hicon
  refine ⟨⟨table?_eq_some_iff.mp htable, by simp [hlink, htitle, hicon]⟩, ?_⟩
  intro value hvalue
  rw [colorText?, hvalue] at hcolor
  obtain ⟨text, htext, -⟩ := Option.map_eq_some_iff.mp hcolor
  exact ⟨text, string?_eq_some_iff.mp htext⟩

/-- A table with the texts of a button is one if its colour and its permissions
    are in order. -/
theorem menuButton_table (hlink : entries.get? "link" = some (.string link))
    (htitle : entries.get? "title" = some (.string title))
    (hicon : entries.get? "icon_class" = some (.string iconClass))
    (hcolor : colorText? entries = some color) :
    menuButton (.table entries) =
      (colorOf color).bind fun c => (permissionsOf entries).map fun permissions =>
        { link, title, iconClass, color := c, permissions } := by
  rw [← stringField?_eq_some_iff] at hlink htitle hicon
  have hparts : buttonParts? (.table entries) =
      some (entries, { link, title, iconClass }, color) := by
    simp [buttonParts?, Value.table?, hlink, htitle, hicon, hcolor]
  unfold menuButton
  rw [hparts]
  show (colorOf color >>= fun c => permissionsOf entries >>= fun permissions => _) = _
  cases colorOf color with
  | error e => rfl
  | ok c => cases permissionsOf entries <;> rfl

theorem menuButton_of_isButton {b : MenuButton} (h : IsButton v b) : menuButton v = .ok b := by
  cases h with
  | table hlink htitle hicon hcolor hpermissions =>
    obtain ⟨color, htext, hc⟩ := colorText?_of_colored hcolor
    rw [menuButton_table hlink htitle hicon htext, hc, permissionsOf_of_permits hpermissions]
    rfl

theorem HasButtonTexts.menuButton (h : HasButtonTexts v entries)
    (hcolor : colorText? entries = some color) :
    ∃ link title iconClass, menuButton v =
      (colorOf color).bind fun c => (permissionsOf entries).map fun permissions =>
        { link, title, iconClass, color := c, permissions } := by
  obtain ⟨link, hlink⟩ := h.texts "link" (by simp)
  obtain ⟨title, htitle⟩ := h.texts "title" (by simp)
  obtain ⟨iconClass, hicon⟩ := h.texts "icon_class" (by simp)
  rw [h.table]
  exact ⟨link, title, iconClass, menuButton_table hlink htitle hicon hcolor⟩

theorem menuButton_of_fault (h : ButtonFault v e) : menuButton v = .error e := by
  cases h with
  | malformed hnot =>
    unfold menuButton
    cases hparts : buttonParts? v with
    | none => rfl
    | some parts => exact absurd (hasButtonTexts_of_parts hparts) (hnot _)
  | @color entries text hv hcolor hnot =>
    have htext : colorText? entries = some (some text) := by
      rw [colorText?, hcolor]
      rfl
    obtain ⟨link, title, iconClass, hbutton⟩ := hv.menuButton htext
    rw [hbutton, colorOf, ofCss_of_foreign hnot]
    rfl
  | permissions hv hcolor hpermissions =>
    obtain ⟨color, htext, hc⟩ := colorText?_of_colored hcolor
    obtain ⟨link, title, iconClass, hbutton⟩ := hv.menuButton htext
    rw [hbutton, hc, permissionsOf_of_fault hpermissions]
    rfl

theorem HasButtonTexts.total (h : HasButtonTexts v entries) :
    (∃ b, IsButton v b) ∨ ∃ e, ButtonFault v e := by
  -- A colour that is a text is one of the palette, or foreign to it.
  have hcolor : (∃ c, Colored entries c) ∨ ∃ text, entries.get? "color" = some (.string text) ∧
      ∀ c : ButtonColor, c.css ≠ text := by
    cases hget : entries.get? "color" with
    | none => exact .inl ⟨_, .absent hget⟩
    | some value =>
      obtain ⟨text, rfl⟩ := h.color value hget
      by_cases hcss : ∃ c : ButtonColor, c.css = text
      · obtain ⟨c, rfl⟩ := hcss
        exact .inl ⟨c, .written hget⟩
      · exact .inr ⟨text, rfl, not_exists.mp hcss⟩
  rcases hcolor with ⟨c, hc⟩ | ⟨text, htext, hforeign⟩
  · rcases (permissionsOf_decided entries).total with ⟨texts, htexts⟩ | ⟨e, he⟩
    · obtain ⟨link, hlink⟩ := h.texts "link" (by simp)
      obtain ⟨title, htitle⟩ := h.texts "title" (by simp)
      obtain ⟨iconClass, hicon⟩ := h.texts "icon_class" (by simp)
      have hbutton : IsButton (.table entries) ⟨link, title, iconClass, c, texts⟩ :=
        .table hlink htitle hicon hc htexts
      exact .inl ⟨_, h.table ▸ hbutton⟩
    · exact .inr ⟨e, .permissions h hc he⟩
  · exact .inr ⟨_, .color h htext hforeign⟩

theorem menuButton_decided (v : Value) : Decided (menuButton v) (IsButton v) (ButtonFault v) := by
  apply Decided.of_total
  · intro b h
    exact menuButton_of_isButton h
  · intro e h
    exact menuButton_of_fault h
  · by_cases h : ∃ entries, HasButtonTexts v entries
    · obtain ⟨entries, hv⟩ := h
      exact hv.total
    · exact .inr ⟨_, .malformed (not_exists.mp h)⟩

/-- The buttons that entries give: none if none are mentioned. -/
inductive AreButtons (entries : Entries Value) : List MenuButton → Prop where
  | absent (h : entries.get? "buttons" = none) : AreButtons entries []
  | written {values : List Value} {buttons : List MenuButton}
      (h : entries.get? "buttons" = some (.array values))
      (hall : List.Forall₂ IsButton values buttons) : AreButtons entries buttons

/-- Buttons that are not a list, or the first value in it that is no button. -/
inductive ButtonsFault (entries : Entries Value) : Violation → Prop where
  | notAnArray {value : Value} (h : entries.get? "buttons" = some value)
      (hnot : ∀ values, value ≠ .array values) : ButtonsFault entries (.notAList "buttons")
  | button {values : List Value} {e : Violation} (h : entries.get? "buttons" = some (.array values))
      (hfirst : FirstFails IsButton ButtonFault values e) : ButtonsFault entries e

theorem buttonsOf_decided (entries : Entries Value) :
    Decided (buttonsOf entries) (AreButtons entries) (ButtonsFault entries) := by
  -- What is known of one button, for a list of them.
  have hmapM := Decided.mapM menuButton_decided
  apply Decided.of_total
  · intro buttons h
    unfold buttonsOf
    cases h with
    | absent h => simp only [h]
    | @written values _ h hall =>
      simp only [h, Value.array?]
      exact ((hmapM values).ok_iff buttons).mpr hall
  · intro e h
    unfold buttonsOf
    cases h with
    | notAnArray h hnot => simp only [h, array?_eq_none hnot]
    | @button values _ h hfirst =>
      simp only [h, Value.array?]
      exact ((hmapM values).error_iff e).mpr hfirst
  · cases h : entries.get? "buttons" with
    | none => exact .inl ⟨[], .absent h⟩
    | some value =>
      by_cases harray : ∃ values, value = .array values
      · obtain ⟨values, rfl⟩ := harray
        rcases (hmapM values).total with ⟨buttons, hall⟩ | ⟨e, hfirst⟩
        · exact .inl ⟨buttons, .written h hall⟩
        · exact .inr ⟨e, .button h hfirst⟩
      · exact .inr ⟨_, .notAnArray h (not_exists.mp harray)⟩

/-! ## Items -/

/-- The value is a table with the texts of an item. -/
structure HasItemTexts (v : Value) (entries : Entries Value) : Prop
    extends HasTexts ["link", "link_text"] v entries

/-- The value is written as the item. -/
inductive IsItem : Value → MenuItem → Prop where
  | table {entries : Entries Value} {i : MenuItem}
      (link : entries.get? "link" = some (.string i.link))
      (linkText : entries.get? "link_text" = some (.string i.linkText))
      (permissions : Permits entries i.permissions) (buttons : AreButtons entries i.buttons) :
      IsItem (.table entries) i

/-- What is wrong with a value that is no item, by precedence: its texts, its
    permissions, its buttons. -/
inductive ItemFault (v : Value) : Violation → Prop where
  | malformed (h : ∀ entries, ¬HasItemTexts v entries) :
    ItemFault v (.notAMenuItem v.text)
  | permissions {entries : Entries Value} {e : Violation}
      (hv : HasItemTexts v entries) (h : PermissionsFault entries e) :
      ItemFault v e
  | buttons {entries : Entries Value} {texts : List String} {e : Violation}
      (hv : HasItemTexts v entries) (hpermissions : Permits entries texts)
      (h : ButtonsFault entries e) : ItemFault v e

theorem hasItemTexts_of_parts {linkText : String} (h : itemParts? v = some (entries, link, linkText)) :
    HasItemTexts v entries := by
  unfold itemParts? at h
  obtain ⟨entries', htable, h⟩ := Option.bind_eq_some_iff.mp h
  obtain ⟨link', hlink, h⟩ := Option.bind_eq_some_iff.mp h
  obtain ⟨linkText', htext, h⟩ := Option.bind_eq_some_iff.mp h
  cases h
  rw [stringField?_eq_some_iff] at hlink htext
  exact ⟨⟨table?_eq_some_iff.mp htable, by simp [hlink, htext]⟩⟩

theorem menuItem_table {linkText : String} (hlink : entries.get? "link" = some (.string link))
    (htext : entries.get? "link_text" = some (.string linkText)) :
    menuItem (.table entries) =
      (permissionsOf entries).bind fun permissions => (buttonsOf entries).map fun buttons =>
        { link, linkText, permissions, buttons } := by
  rw [← stringField?_eq_some_iff] at hlink htext
  have hparts : itemParts? (.table entries) = some (entries, link, linkText) := by
    simp [itemParts?, Value.table?, hlink, htext]
  unfold menuItem
  rw [hparts]
  show (permissionsOf entries >>= fun permissions => buttonsOf entries >>= fun buttons => _) = _
  cases permissionsOf entries with
  | error e => rfl
  | ok permissions => cases buttonsOf entries <;> rfl

theorem HasItemTexts.menuItem (h : HasItemTexts v entries) :
    ∃ link linkText, menuItem v =
      (permissionsOf entries).bind fun permissions => (buttonsOf entries).map fun buttons =>
        { link, linkText, permissions, buttons } := by
  obtain ⟨link, hlink⟩ := h.texts "link" (by simp)
  obtain ⟨linkText, htext⟩ := h.texts "link_text" (by simp)
  rw [h.table]
  exact ⟨link, linkText, menuItem_table hlink htext⟩

theorem menuItem_of_isItem {i : MenuItem} (h : IsItem v i) : menuItem v = .ok i := by
  cases h with
  | @table entries i hlink htext hpermissions hbuttons =>
    have hb := ((buttonsOf_decided entries).ok_iff i.buttons).mpr hbuttons
    rw [menuItem_table hlink htext, permissionsOf_of_permits hpermissions, hb]
    rfl

theorem menuItem_of_fault (h : ItemFault v e) : menuItem v = .error e := by
  cases h with
  | malformed hnot =>
    unfold menuItem
    cases hparts : itemParts? v with
    | none => rfl
    | some parts => exact absurd (hasItemTexts_of_parts hparts) (hnot _)
  | permissions hv hpermissions =>
    obtain ⟨link, linkText, hitem⟩ := hv.menuItem
    rw [hitem, permissionsOf_of_fault hpermissions]
    rfl
  | @buttons entries texts _ hv hpermissions hbuttons =>
    obtain ⟨link, linkText, hitem⟩ := hv.menuItem
    have hb := ((buttonsOf_decided entries).error_iff e).mpr hbuttons
    rw [hitem, permissionsOf_of_permits hpermissions, hb]
    rfl

theorem HasItemTexts.total (h : HasItemTexts v entries) :
    (∃ i, IsItem v i) ∨ ∃ e, ItemFault v e := by
  rcases (permissionsOf_decided entries).total with ⟨texts, htexts⟩ | ⟨e, he⟩
  · rcases (buttonsOf_decided entries).total with ⟨buttons, hbuttons⟩ | ⟨e, he⟩
    · obtain ⟨link, hlink⟩ := h.texts "link" (by simp)
      obtain ⟨linkText, htext⟩ := h.texts "link_text" (by simp)
      have hitem : IsItem (.table entries) ⟨link, linkText, texts, buttons⟩ :=
        .table hlink htext htexts hbuttons
      exact .inl ⟨_, h.table ▸ hitem⟩
    · exact .inr ⟨e, .buttons h htexts he⟩
  · exact .inr ⟨e, .permissions h he⟩

theorem menuItem_decided (v : Value) : Decided (menuItem v) (IsItem v) (ItemFault v) := by
  apply Decided.of_total
  · intro i h
    exact menuItem_of_isItem h
  · intro e h
    exact menuItem_of_fault h
  · by_cases h : ∃ entries, HasItemTexts v entries
    · obtain ⟨entries, hv⟩ := h
      exact hv.total
    · exact .inr ⟨_, .malformed (not_exists.mp h)⟩

/-! ## Main theorem -/

/-- The value is written as the items, in their order. -/
inductive AreItems : Value → List MenuItem → Prop where
  | array {values : List Value} {items : List MenuItem}
      (hall : List.Forall₂ IsItem values items) : AreItems (.array values) items

/-- The value is not a list, or the first value in it that is no item. -/
inductive ItemsFault (field : String) (v : Value) : Violation → Prop where
  | notAnArray (hnot : ∀ values, v ≠ .array values) : ItemsFault field v (.notAList field)
  | item {values : List Value} {e : Violation} (h : v = .array values)
      (hfirst : FirstFails IsItem ItemFault values e) : ItemsFault field v e

/-- **What menu items are.**  A value is taken for menu items exactly if it is
    written as them, one for each element of an array, and it fails exactly
    with the first fault: the value is not an array, or the first element that
    is no item is at fault by its texts, its permissions or its buttons. -/
theorem menuItems_by_schema (field : String) (v : Value) :
    (∀ items, menuItems field v = .ok items ↔ AreItems v items) ∧
    (∀ e, menuItems field v = .error e ↔ ItemsFault field v e) := by
  have hmapM := Decided.mapM menuItem_decided
  have hdecided : Decided (menuItems field v) (AreItems v) (ItemsFault field v) := by
    apply Decided.of_total
    · intro items h
      cases h with
      | @array values _ hall => exact ((hmapM values).ok_iff items).mpr hall
    · intro e h
      cases h with
      | notAnArray hnot => rw [menuItems, array?_eq_none hnot]
      | @item values _ h hfirst =>
        rw [h]
        exact ((hmapM values).error_iff e).mpr hfirst
    · by_cases harray : ∃ values, v = .array values
      · obtain ⟨values, rfl⟩ := harray
        rcases (hmapM values).total with ⟨items, hall⟩ | ⟨e, hfirst⟩
        · exact .inl ⟨items, .array hall⟩
        · exact .inr ⟨e, .item rfl hfirst⟩
      · exact .inr ⟨_, .notAnArray (not_exists.mp harray)⟩
  exact ⟨hdecided.ok_iff, hdecided.error_iff⟩

-- Of a button with a foreign colour and with bad permissions the colour is reported.
example :
    menuItems "menu_items" (.array [.table
      [("buttons", .array [.table
         [("color", .string "Red"), ("icon_class", .string "mdi"), ("link", .string "/add"),
          ("permissions", .boolean true), ("title", .string "Add")]]),
       ("link", .string "/"), ("link_text", .string "Home")]]) =
      .error (.invalidButtonColor "Red") := by
  decide

end PluginHost
