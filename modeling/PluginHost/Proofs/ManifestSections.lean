import PluginHost.Proofs.Contents
import PluginHost.Proofs.Steps
import PluginHost.Proofs.Text.Lowercase
import PluginHost.Proofs.Text.Trimming

/-! # The sections of a manifest

    A manifest is registered section by section, in one order for all of them
    (`Kind.all`), and up to the first section at fault.  Whether a section is
    at fault (`SectionFault`) can be told from the section alone, so the
    registry that is there has no say in it.

    A section that is registered changes the one store that is its own
    (`Contributed`).  So a manifest that stops at a section leaves what the
    manifest with the earlier sections only would leave.

    Main theorem: `ready_sections`. -/

namespace PluginHost

open Toml (Value)

universe u

/-! ## Blank models -/

/-- An index has an empty label exactly if its model is blank. -/
theorem SearchIndex.isEmpty_label (i : SearchIndex) :
    i.label.isEmpty = Text.isBlank i.model := by
  rw [Bool.eq_iff_iff, String.isEmpty_iff, label, labelOf, Text.lowercase_eq_empty_iff,
    Text.trim_eq_empty_iff]

namespace Manifest

/-! ## Sections -/

/-- What a section of a manifest is about. -/
inductive Kind where
  | searchIndexes | templates | menu | menuItems | graphqlSchema | preferences
deriving DecidableEq

namespace Kind

/-- The kinds of sections, in the order of registration. -/
def all : List Kind :=
  [.searchIndexes, .templates, .menu, .menuItems, .graphqlSchema, .preferences]

/-- The kinds that are registered before a kind. -/
def before (k : Kind) : List Kind := all.takeWhile (· ≠ k)

theorem nodup_all : all.Nodup := by decide

/-- Whatever stands in front of a kind is registered before it. -/
theorem before_eq {k : Kind} {front back : List Kind} (h : all = front ++ k :: back) :
    k.before = front := by
  have hnodup := nodup_all
  rw [h, List.nodup_append] at hnodup
  obtain ⟨-, -, hdisjoint⟩ := hnodup
  have hfront : ∀ j ∈ front, decide (j ≠ k) = true := by
    intro j hj
    exact decide_eq_true (hdisjoint j hj k List.mem_cons_self)
  rw [before, h, List.takeWhile_append_of_pos hfront, List.takeWhile_cons_of_neg (by simp),
    List.append_nil]

theorem all_split (k : Kind) : ∃ back, all = k.before ++ k :: back := by
  cases k with
  | searchIndexes => exact ⟨_, rfl⟩
  | templates => exact ⟨_, rfl⟩
  | menu => exact ⟨_, rfl⟩
  | menuItems => exact ⟨_, rfl⟩
  | graphqlSchema => exact ⟨_, rfl⟩
  | preferences => exact ⟨_, rfl⟩

end Kind

variable {m : Manifest} {k : Kind} {v : Violation} {r after : Registry}

/-- What the section of a kind contributes. -/
def ofKind (m : Manifest) : Kind → List (Except Violation Contribution)
  | .searchIndexes => (m.searchIndexes.map fun indexes => .ok (.searchIndexes indexes)).toList
  | .templates => (m.templates.map fun classes => .ok (.templates classes)).toList
  | .menu => (m.menu.map fun definition => definition.menu.map .menu).toList
  | .menuItems => (m.menuItems.map itemsContribution).getD []
  | .graphqlSchema => (m.graphqlSchema.map fun schema => .ok (.graphqlSchema schema)).toList
  | .preferences => (m.userPreferences.map fun set => .ok (.preferences set)).toList

theorem contributions_eq_flatMap (m : Manifest) : m.contributions = Kind.all.flatMap m.ofKind := by
  simp [contributions, Kind.all, ofKind]

/-- The manifest with the sections of some kinds only. -/
def only (m : Manifest) (kinds : List Kind) : Manifest where
  plugin := m.plugin
  searchIndexes := if .searchIndexes ∈ kinds then m.searchIndexes else none
  templates := if .templates ∈ kinds then m.templates else none
  menu := if .menu ∈ kinds then m.menu else none
  menuItems := if .menuItems ∈ kinds then m.menuItems else none
  graphqlSchema := if .graphqlSchema ∈ kinds then m.graphqlSchema else none
  userPreferences := if .preferences ∈ kinds then m.userPreferences else none

theorem ofKind_only (m : Manifest) (kinds : List Kind) (k : Kind) :
    (m.only kinds).ofKind k = if k ∈ kinds then m.ofKind k else [] := by
  cases k <;> simp only [ofKind, only] <;> split <;> rfl

/-- The sections before a kind contribute what they do in the whole manifest. -/
theorem contributions_only_before (m : Manifest) (k : Kind) :
    (m.only k.before).contributions = k.before.flatMap m.ofKind := by
  have hkinds : (m.only k.before).ofKind = fun j => if j ∈ k.before then m.ofKind j else [] :=
    funext (ofKind_only m k.before)
  rw [contributions_eq_flatMap, hkinds]
  -- From the kind on, every section is left out.
  cases k <;> rfl

/-! ## Sections at fault -/

/-- What is wrong with a section: its first index with a blank model, its first
    class with a blank model or without one, its first group whose items are no
    menu items, or items that are none. -/
inductive SectionFault (m : Manifest) : Kind → Violation → Prop where
  | searchIndexes {front back : List SearchIndex} {index : SearchIndex}
      (hsection : m.searchIndexes = some (front ++ index :: back))
      (hfront : ∀ i ∈ front, Text.isBlank i.model = false)
      (hindex : Text.isBlank index.model = true) :
      SectionFault m .searchIndexes (.searchIndexWithoutModel index.fieldsText)
  | templates {front back : List TemplateClass} {c : TemplateClass}
      (hsection : m.templates = some (front ++ c :: back))
      (hfront : ∀ c ∈ front, c.lacksModel = false)
      (hclass : c.lacksModel = true) :
      SectionFault m .templates (.missingModel c.name)
  | menu {definition : MenuDefinition} {front back : List GroupDefinition}
      {group : GroupDefinition} {v : Violation}
      (hsection : m.menu = some definition)
      (hgroups : definition.groups = front ++ group :: back)
      (hfront : ∀ g ∈ front, ∃ items, PluginHost.menuItems "items" g.items = .ok items)
      (hgroup : PluginHost.menuItems "items" group.items = .error v) :
      SectionFault m .menu v
  | menuItems {value : Value} {v : Violation} (hsection : m.menuItems = some value)
      (hitems : PluginHost.menuItems "menu_items" value = .error v) :
      SectionFault m .menuItems v

/-- No section is at fault. -/
structure Registrable (m : Manifest) : Prop where
  searchIndexes : ∀ indexes, m.searchIndexes = some indexes →
    ∀ i ∈ indexes, Text.isBlank i.model = false
  templates : ∀ classes, m.templates = some classes → ∀ c ∈ classes, c.lacksModel = false
  menu : ∀ definition, m.menu = some definition →
    ∀ g ∈ definition.groups, ∃ items, PluginHost.menuItems "items" g.items = .ok items
  menuItems : ∀ value, m.menuItems = some value →
    ∃ items, PluginHost.menuItems "menu_items" value = .ok items

/-- The section is the first one at fault. -/
def FirstFault (m : Manifest) (k : Kind) (v : Violation) : Prop :=
  m.SectionFault k v ∧ ∀ j ∈ k.before, ∀ v', ¬m.SectionFault j v'

theorem group_eq_ok_iff {g : GroupDefinition} :
    (∃ group, g.group = .ok group) ↔
      ∃ items, PluginHost.menuItems "items" g.items = .ok items := by
  unfold GroupDefinition.group
  cases PluginHost.menuItems "items" g.items with
  | error v => simp [bind, Except.bind]
  | ok items => simp [bind, Except.bind, pure, Except.pure]

theorem group_eq_error_iff {g : GroupDefinition} :
    g.group = .error v ↔ PluginHost.menuItems "items" g.items = .error v := by
  unfold GroupDefinition.group
  cases PluginHost.menuItems "items" g.items with
  | error v' => simp [bind, Except.bind]
  | ok items => simp [bind, Except.bind, pure, Except.pure]

theorem not_isOk_eq_false_iff {α : Type} {outcome : Except Violation α} :
    (!outcome.isOk) = false ↔ ∃ a, outcome = .ok a := by
  cases outcome <;> simp [Except.isOk, Except.toBool]

theorem not_isOk_eq_true_iff {α : Type} {outcome : Except Violation α} :
    (!outcome.isOk) = true ↔ ∃ v, outcome = .error v := by
  cases outcome <;> simp [Except.isOk, Except.toBool]

/-- A menu fails with the first group that does. -/
theorem menu_eq_error_iff {definition : MenuDefinition} :
    definition.menu = .error v ↔ ∃ front group back, definition.groups = front ++ group :: back ∧
      (∀ g ∈ front, ∃ items, PluginHost.menuItems "items" g.items = .ok items) ∧
        PluginHost.menuItems "items" group.items = .error v := by
  have hgroups : definition.menu = .error v ↔
      definition.groups.mapM GroupDefinition.group = .error v := by
    unfold MenuDefinition.menu
    cases definition.groups.mapM GroupDefinition.group with
    | error v' => simp [bind, Except.bind]
    | ok groups => simp [bind, Except.bind, pure, Except.pure]
  rw [hgroups, mapM_eq_error_iff]
  simp only [group_eq_ok_iff, group_eq_error_iff]

@[simp] theorem firstViolation_singleton (c : Contribution) :
    firstViolation [.ok c] = c.violation? := Option.or_none

/-- A section whose conversion is all that can fail. -/
theorem firstViolation_map_eq_some_iff {α : Type} {f : α → Contribution}
    (hf : ∀ a, (f a).violation? = none) {outcome : Except Violation α} :
    firstViolation [outcome.map f] = some v ↔ outcome = .error v := by
  cases outcome with
  | error v' => simp [Except.map, firstViolation]
  | ok a => simp [Except.map, hf]

/-- Only a section that is there has a violation. -/
theorem firstViolation_toList_eq_some_iff {α : Type} {content : Option α}
    {f : α → Except Violation Contribution} :
    firstViolation (content.map f).toList = some v ↔
      ∃ a, content = some a ∧ firstViolation [f a] = some v := by
  cases content with
  | none => simp [firstViolation]
  | some a => simp

theorem firstViolation_itemsContribution_eq_some_iff {value : Value} :
    firstViolation (itemsContribution value) = some v ↔
      PluginHost.menuItems "menu_items" value = .error v := by
  unfold itemsContribution
  cases PluginHost.menuItems "menu_items" value with
  | error v' => simp [firstViolation]
  | ok items => cases items <;> simp [firstViolation, Contribution.violation?]

/-- The violation of a section is what is wrong with it. -/
theorem firstViolation_ofKind_eq_some_iff :
    firstViolation (m.ofKind k) = some v ↔ m.SectionFault k v := by
  cases k with
  | searchIndexes =>
    simp only [ofKind, firstViolation_toList_eq_some_iff, firstViolation_singleton,
      Contribution.violation?, SearchIndex.isEmpty_label, find?_map_eq_some_iff]
    constructor
    · rintro ⟨indexes, hsection, front, index, back, rfl, hfront, hindex, rfl⟩
      exact .searchIndexes hsection hfront hindex
    · intro h
      cases h with
      | searchIndexes hsection hfront hindex =>
        exact ⟨_, hsection, _, _, _, rfl, hfront, hindex, rfl⟩
  | templates =>
    simp only [ofKind, firstViolation_toList_eq_some_iff, firstViolation_singleton,
      Contribution.violation?, find?_map_eq_some_iff]
    constructor
    · rintro ⟨classes, hsection, front, c, back, rfl, hfront, hclass, rfl⟩
      exact .templates hsection hfront hclass
    · intro h
      cases h with
      | templates hsection hfront hclass =>
        exact ⟨_, hsection, _, _, _, rfl, hfront, hclass, rfl⟩
  | menu =>
    simp only [ofKind, firstViolation_toList_eq_some_iff,
      firstViolation_map_eq_some_iff (f := Contribution.menu) fun _ => rfl, menu_eq_error_iff]
    constructor
    · rintro ⟨definition, hsection, front, group, back, hgroups, hfront, hgroup⟩
      exact .menu hsection hgroups hfront hgroup
    · intro h
      cases h with
      | menu hsection hgroups hfront hgroup =>
        exact ⟨_, hsection, _, _, _, hgroups, hfront, hgroup⟩
  | menuItems =>
    constructor
    · intro h
      cases hsection : m.menuItems with
      | none => simp [ofKind, hsection, firstViolation] at h
      | some value =>
        simp only [ofKind, hsection, Option.map_some, Option.getD_some] at h
        exact .menuItems hsection (firstViolation_itemsContribution_eq_some_iff.mp h)
    · intro h
      cases h with
      | menuItems hsection hitems =>
        simp only [ofKind, hsection, Option.map_some, Option.getD_some]
        exact firstViolation_itemsContribution_eq_some_iff.mpr hitems
  | graphqlSchema =>
    simp only [ofKind, firstViolation_toList_eq_some_iff, firstViolation_singleton,
      Contribution.violation?]
    constructor
    · rintro ⟨_, _, h⟩
      cases h
    · intro h
      cases h
  | preferences =>
    simp only [ofKind, firstViolation_toList_eq_some_iff, firstViolation_singleton,
      Contribution.violation?]
    constructor
    · rintro ⟨_, _, h⟩
      cases h
    · intro h
      cases h

theorem firstViolation_ofKind_eq_none_iff :
    firstViolation (m.ofKind k) = none ↔ ∀ v, ¬m.SectionFault k v := by
  rw [Option.eq_none_iff_forall_ne_some]
  simp only [ne_eq, firstViolation_ofKind_eq_some_iff]

theorem registrable_iff : m.Registrable ↔ ∀ k v, ¬m.SectionFault k v := by
  constructor
  · intro h k v hfault
    cases hfault with
    | searchIndexes hsection hfront hindex =>
      have hclean := h.searchIndexes _ hsection _ List.mem_append_cons_self
      rw [hindex] at hclean
      cases hclean
    | templates hsection hfront hclass =>
      have hclean := h.templates _ hsection _ List.mem_append_cons_self
      rw [hclass] at hclean
      cases hclean
    | menu hsection hgroups hfront hgroup =>
      obtain ⟨items, hitems⟩ := h.menu _ hsection _ (hgroups ▸ List.mem_append_cons_self)
      rw [hgroup] at hitems
      cases hitems
    | menuItems hsection hitems =>
      obtain ⟨items, hok⟩ := h.menuItems _ hsection
      rw [hitems] at hok
      cases hok
  · intro h
    constructor
    · intro indexes hsection
      rcases none_or_first (fun i => Text.isBlank i.model) indexes with
        hclean | ⟨front, index, back, rfl, hfront, hindex⟩
      · exact hclean
      · exact absurd (.searchIndexes hsection hfront hindex) (h _ _)
    · intro classes hsection
      rcases none_or_first (·.lacksModel) classes with
        hclean | ⟨front, c, back, rfl, hfront, hclass⟩
      · exact hclean
      · exact absurd (.templates hsection hfront hclass) (h _ _)
    · intro definition hsection
      rcases none_or_first (fun g => !(PluginHost.menuItems "items" g.items).isOk)
        definition.groups with hclean | ⟨front, group, back, hgroups, hfront, hgroup⟩
      · intro g hg
        exact not_isOk_eq_false_iff.mp (hclean g hg)
      · obtain ⟨v, hv⟩ := not_isOk_eq_true_iff.mp hgroup
        exact absurd
          (.menu hsection hgroups (fun g hg => not_isOk_eq_false_iff.mp (hfront g hg)) hv) (h _ _)
    · intro value hsection
      cases hitems : PluginHost.menuItems "menu_items" value with
      | ok items => exact ⟨items, rfl⟩
      | error v => exact absurd (.menuItems hsection hitems) (h _ _)

/-! ## Where a manifest stops -/

theorem firstViolation_contributions (m : Manifest) :
    firstViolation m.contributions = Kind.all.findSome? fun k => firstViolation (m.ofKind k) := by
  rw [contributions_eq_flatMap, firstViolation_flatMap]

/-- A manifest stops at its first section at fault. -/
theorem firstViolation_eq_some_iff :
    firstViolation m.contributions = some v ↔ ∃ k, m.FirstFault k v := by
  rw [firstViolation_contributions, List.findSome?_eq_some_iff]
  simp only [firstViolation_ofKind_eq_some_iff, firstViolation_ofKind_eq_none_iff]
  constructor
  · intro ⟨front, k, back, hall, hk, hfront⟩
    refine ⟨k, hk, ?_⟩
    rw [Kind.before_eq hall]
    exact hfront
  · intro ⟨k, hk, hbefore⟩
    obtain ⟨back, hall⟩ := Kind.all_split k
    exact ⟨k.before, k, back, hall, hk, hbefore⟩

/-- A manifest gets to its end exactly if no section is at fault. -/
theorem firstViolation_eq_none_iff : firstViolation m.contributions = none ↔ m.Registrable := by
  rw [registrable_iff, firstViolation_contributions, List.findSome?_eq_none_iff]
  simp only [firstViolation_ofKind_eq_none_iff]
  constructor
  · intro h k
    obtain ⟨back, hall⟩ := Kind.all_split k
    exact h k (hall ▸ List.mem_append_cons_self)
  · intro h k _
    exact h k

/-- No section contributes more than one thing. -/
theorem length_ofKind_le_one (m : Manifest) (k : Kind) : (m.ofKind k).length ≤ 1 := by
  have hoptional : ∀ {α : Type} (content : Option α), content.toList.length ≤ 1 := by
    intro α content
    cases content <;> simp
  cases k with
  | menuItems =>
    unfold ofKind
    cases m.menuItems with
    | none => simp
    | some value =>
      rw [Option.map_some, Option.getD_some, itemsContribution_eq]
      exact hoptional _
  | _ => exact hoptional _

/-- So a section at fault contributes nothing. -/
theorem registered_ofKind_of_fault (h : m.SectionFault k v) : registered (m.ofKind k) = [] := by
  have hviolation := firstViolation_ofKind_eq_some_iff.mpr h
  have hlength := length_ofKind_le_one m k
  cases hsection : m.ofKind k with
  | nil => rfl
  | cons head rest =>
    rw [hsection, List.length_cons] at hlength
    have hrest : rest = [] := List.length_eq_zero_iff.mp (by omega)
    subst hrest
    cases head with
    | error v' => rfl
    | ok c =>
      rw [hsection, firstViolation_singleton] at hviolation
      rw [registered, hviolation]
      rfl

/-- What is registered in front of a fault is what the earlier sections would
    register on their own. -/
theorem registered_of_firstFault (h : m.FirstFault k v) :
    (m.only k.before).Registrable ∧
      registered m.contributions = registered (m.only k.before).contributions := by
  obtain ⟨hfault, hbefore⟩ := h
  obtain ⟨back, hall⟩ := Kind.all_split k
  have hclean : firstViolation (k.before.flatMap m.ofKind) = none := by
    rw [firstViolation_flatMap, List.findSome?_eq_none_iff]
    intro j hj
    exact firstViolation_ofKind_eq_none_iff.mpr (hbefore j hj)
  have hviolation := firstViolation_ofKind_eq_some_iff.mpr hfault
  rw [← firstViolation_eq_none_iff, contributions_only_before]
  refine ⟨hclean, ?_⟩
  rw [contributions_eq_flatMap, hall, List.flatMap_append, List.flatMap_cons, registered_append,
    registered_append, hclean, hviolation, registered_ofKind_of_fault hfault]
  exact List.append_nil _

/-! ## What a manifest changes -/

theorem get?_templates_storeAll (r : Registry) (log : List (Descriptor × Contribution))
    (model : String) :
    (r.storeAll log).templates.get? model =
      Registry.filed (r.templates.get? model)
        (log.flatMap fun e => Contribution.classesFor model e.1 e.2) := by
  induction log generalizing r with
  | nil => rfl
  | cons e rest ih =>
    have hstep : r.storeAll (e :: rest) = (r.store e.1 e.2).storeAll rest := rfl
    rw [hstep, ih, List.flatMap_cons, ← Registry.filed_append]
    congr 1
    cases e.2 with
    | templates classes => exact Registry.get?_fileTemplates_eq_filed r.templates classes model
    | _ => rfl

/-- The stores after the sections of a manifest were registered: each one from
    what it held before and from the section of its own. -/
structure Contributed (m : Manifest) (r after : Registry) : Prop where
  search : ∀ label, after.search.get? label =
    ((m.searchIndexes.getD []).filter (·.label == label)).getLast?.or (r.search.get? label)
  templates : ∀ model, after.templates.get? model =
    Registry.filed (r.templates.get? model)
      ((m.templates.getD []).filter fun c => c.model.map Text.trim == some model)
  menus : after.menus.map .ok = r.menus.map .ok ++ m.ownMenu.toList
  menuItems : ∀ title, (after.menuItems.get? title).map .ok =
    (if m.plugin.displayName = title then m.section? else none).or
      ((r.menuItems.get? title).map .ok)
  schemas : after.graphqlSchemas = r.graphqlSchemas ++ m.graphqlSchema.toList
  preferences : ∀ plugin, after.preferences.get? plugin =
    (if m.plugin.shortName = plugin then m.userPreferences else none).or
      (r.preferences.get? plugin)

theorem ready_registry_eq_storeAll (m : Manifest) (r : Registry) :
    (m.toPlugin.ready r).registry =
      r.storeAll ((registered m.contributions).map fun c => (m.plugin, c)) := by
  rw [m.toPlugin.ready_registry, Registry.storeAll, List.foldl_map]
  rfl

/-- What is given to a part of the registry, in the order of registration. -/
theorem flatMap_registered_eq_given {α : Type u} (part : Descriptor → Contribution → List α)
    (m : Manifest) :
    (((registered m.contributions).map fun c => (m.plugin, c)).flatMap fun e => part e.1 e.2) =
      m.given part := by
  rw [List.flatMap_map]
  rfl

/-- A manifest without a section at fault contributes all its sections. -/
theorem Registrable.contributed (h : m.Registrable) (r : Registry) :
    m.Contributed r (m.toPlugin.ready r).registry := by
  have hclean := firstViolation_eq_none_iff.mpr h
  rw [ready_registry_eq_storeAll]
  constructor
  · intro label
    rw [(Registry.replaces_search label).storeAll, flatMap_registered_eq_given,
      given_indexesFor hclean]
  · intro model
    rw [get?_templates_storeAll, flatMap_registered_eq_given, given_classesFor hclean]
  · rw [Registry.appends_menus.storeAll, flatMap_registered_eq_given, List.map_append,
      given_menus hclean]
  · intro title
    rw [(Registry.replaces_menuItems title).storeAll, flatMap_registered_eq_given, Option.map_or,
      ← List.getLast?_map, given_itemsFor hclean]
    congr 1
    by_cases htitle : m.plugin.displayName = title
    · rw [if_pos htitle, if_pos htitle]
      cases m.section? <;> rfl
    · rw [if_neg htitle, if_neg htitle]
      rfl
  · rw [Registry.appends_schemas.storeAll, flatMap_registered_eq_given, given_schemas hclean]
  · intro plugin
    rw [(Registry.replaces_preferences plugin).storeAll, flatMap_registered_eq_given,
      given_preferencesFor hclean]
    congr 1
    by_cases hplugin : m.plugin.shortName = plugin
    · rw [if_pos hplugin, if_pos hplugin]
      cases m.userPreferences <;> rfl
    · rw [if_neg hplugin, if_neg hplugin]
      rfl

/-- There is one registry only with these stores. -/
theorem Contributed.unique {other : Registry} (h : m.Contributed r after)
    (h' : m.Contributed r other) : other = after := by
  apply Registry.eq_of_content
  · exact h'.schemas.trans h.schemas.symm
  · exact h'.menus.trans h.menus.symm
  · intro title
    exact (h'.menuItems title).trans (h.menuItems title).symm
  · intro plugin
    exact (h'.preferences plugin).trans (h.preferences plugin).symm
  · intro model
    exact (h'.templates model).trans (h.templates model).symm
  · intro label
    exact (h'.search label).trans (h.search label).symm

/-- The stores whose section is not there are as they were. -/
structure Spares (m : Manifest) (r after : Registry) : Prop where
  search      : m.searchIndexes = none → after.search = r.search
  templates   : m.templates = none → after.templates = r.templates
  menus       : m.menu = none → after.menus = r.menus
  menuItems   : m.menuItems = none ∨ m.menuItems = some (.array []) →
    after.menuItems = r.menuItems
  schemas     : m.graphqlSchema = none → after.graphqlSchemas = r.graphqlSchemas
  preferences : m.userPreferences = none → after.preferences = r.preferences

theorem Contributed.spares (h : m.Contributed r after) : m.Spares r after where
  search := by
    intro hsection
    apply Table.ext_get?
    intro label
    rw [h.search, hsection]
    rfl
  templates := by
    intro hsection
    apply Table.ext_get?
    intro model
    rw [h.templates, hsection]
    rfl
  menus := by
    intro hsection
    have hmenus := h.menus
    rw [ownMenu, hsection, Option.map_none, Option.toList_none, List.append_nil] at hmenus
    exact List.map_injective_iff.mpr (fun _ _ => Except.ok.inj) hmenus
  menuItems := by
    intro hsection
    have hnone : m.section? = none := by
      rcases hsection with hsection | hsection <;> rw [section?, hsection] <;> rfl
    apply Table.ext_get?
    intro title
    have hitems := h.menuItems title
    rw [hnone, ite_self, Option.none_or] at hitems
    exact Option.map_injective (fun _ _ => Except.ok.inj) hitems
  schemas := by
    intro hsection
    rw [h.schemas, hsection, Option.toList_none, List.append_nil]
  preferences := by
    intro hsection
    apply Table.ext_get?
    intro plugin
    rw [h.preferences, hsection, ite_self, Option.none_or]

/-! ## Main theorem -/

/-- The registry `after` is `r` with the sections of a manifest in their
    stores, and otherwise as it was. -/
structure Effect (m : Manifest) (r after : Registry) : Prop where
  contributed : m.Contributed r after
  unique      : ∀ other, m.Contributed r other → other = after
  spares      : m.Spares r after

theorem Contributed.effect (h : m.Contributed r after) : m.Effect r after :=
  ⟨h, fun _ h' => h.unique h', h.spares⟩

/-- **Registering a manifest.**  In whatever registry, it succeeds if no
    section is at fault, and then each section changes the store of its own.
    Otherwise it fails with the fault of the first section that has one, and
    leaves what the sections in front of that one register. -/
theorem ready_sections (m : Manifest) (r : Registry) :
    ((m.toPlugin.ready r).violation = none ↔ m.Registrable) ∧
      (m.Registrable → m.Effect r (m.toPlugin.ready r).registry) ∧
      (∀ v, (m.toPlugin.ready r).violation = some v ↔ ∃ k, m.FirstFault k v) ∧
      ∀ k v, m.FirstFault k v →
        (m.only k.before).Registrable ∧
          (m.only k.before).Effect r (m.toPlugin.ready r).registry := by
  have hviolation : (m.toPlugin.ready r).violation = firstViolation m.contributions := by
    rw [m.toPlugin.ready_violation, m.toPlugin.violation_eq]
    rfl
  rw [hviolation]
  refine ⟨firstViolation_eq_none_iff, ?_, fun v => firstViolation_eq_some_iff, ?_⟩
  · intro h
    exact (h.contributed r).effect
  · intro k v h
    obtain ⟨hfront, hregistered⟩ := registered_of_firstFault h
    refine ⟨hfront, ?_⟩
    -- The plugin is the same, so the same contributions have the same effect.
    have hregistry : (m.toPlugin.ready r).registry =
        ((m.only k.before).toPlugin.ready r).registry := by
      rw [ready_registry_eq_storeAll, ready_registry_eq_storeAll, hregistered]
      rfl
    rw [hregistry]
    exact (hfront.contributed r).effect

/-- The index in front of a menu at fault is registered, the items behind it
    are not. -/
example :
    let m : Manifest :=
      { plugin := { name := "maps" }
        searchIndexes := some [{ model := "dcim.site" }]
        menu := some { label := "Maps", groups := [{ label := "All", items := .string "none" }] }
        menuItems := some (.array [.table [("link", .string "a"), ("link_text", .string "A")]]) }
    let ready := m.toPlugin.ready Registry.empty
    ready.violation = some (.notAList "items") ∧
      (ready.registry.searchIndex? "dcim.site").isSome = true ∧
      ready.registry.menuItems.get? "maps" = none := by
  decide +kernel

end Manifest

end PluginHost
