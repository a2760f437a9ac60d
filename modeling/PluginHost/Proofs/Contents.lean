import PluginHost.Manifest
import PluginHost.Proofs.Loading

/-! # What a load puts into the registry

    The registry is filled by the contributions of the plugins, one after the
    other.  A store of it either keeps everything that is put into it
    (`Appends`) or, under each key, what was put there last (`Replaces`).  One
    lemma for each store says which, and with what; the rest is the same for
    all of them (`Appends.storeAll`, `Replaces.storeAll`).

    Main theorem (`contents_of_load`): after a load, the registry is the one
    that the enabled manifests declare (`Registry.DeclaredBy`), and there is
    only one. -/

namespace PluginHost

open Toml (Settings Value)

universe u

/-! ## What a contribution puts into each store -/

namespace Contribution

/-- The menus that are put into the list of menus. -/
def menus (_ : Descriptor) : Contribution → List Menu
  | .menu m => [m]
  | _ => []

/-- The schemas that are put into the list of schemas. -/
def schemas (_ : Descriptor) : Contribution → List GraphQlSchema
  | .graphqlSchema schema => [schema]
  | _ => []

/-- The classes that are filed under a model. -/
def classesFor (model : String) (_ : Descriptor) : Contribution → List TemplateClass
  | .templates classes => classes.filter (·.target == model)
  | _ => []

/-- The lists of items that are put under a title. -/
def itemsFor (title : String) (d : Descriptor) : Contribution → List (List MenuItem)
  | .menuItems items => if d.displayName = title then [items] else []
  | _ => []

/-- The preferences that are put under a plugin's short name. -/
def preferencesFor (plugin : String) (d : Descriptor) : Contribution → List PreferenceSet
  | .preferences set => if d.shortName = plugin then [set] else []
  | _ => []

/-- The indexes that are put under a label. -/
def indexesFor (label : String) (_ : Descriptor) : Contribution → List SearchIndex
  | .searchIndexes indexes => indexes.filter (·.label == label)
  | _ => []

end Contribution

/-! ## Stores that append, stores that replace -/

namespace Registry

variable {α : Type u} {d : Descriptor} {r : Registry}

/-- Every contribution adds what it gives behind what is there. -/
def Appends (view : Registry → List α) (given : Descriptor → Contribution → List α) : Prop :=
  ∀ d r c, view (r.store d c) = view r ++ given d c

/-- A contribution puts the last of what it gives in the place of what is
    there, if it gives anything. -/
def Replaces (view : Registry → Option α) (given : Descriptor → Contribution → List α) : Prop :=
  ∀ d r c, view (r.store d c) = (given d c).getLast?.or (view r)

theorem appends_menus : Appends Registry.menus Contribution.menus := by
  intro d r c
  cases c with
  | menu menu => rfl
  | _ => exact (List.append_nil _).symm

theorem appends_schemas : Appends Registry.graphqlSchemas Contribution.schemas := by
  intro d r c
  cases c with
  | graphqlSchema schema => rfl
  | _ => exact (List.append_nil _).symm

theorem appends_templates (model : String) :
    Appends (fun r => (r.templates.get? model).getD []) (Contribution.classesFor model) := by
  intro d r c
  cases c with
  | templates classes => exact get?_fileTemplates r.templates classes model
  | _ => exact (List.append_nil _).symm

/-- A value that is put under one key replaces what is there. -/
theorem get?_insert_eq_or (t : Table α) (key q : String) (value : α) :
    (t.insert key value).get? q =
      (if key = q then [value] else []).getLast?.or (t.get? q) := by
  rw [Table.get?_insert]
  by_cases hq : key = q
  · rw [if_pos hq, if_pos hq]
    rfl
  · rw [if_neg hq, if_neg hq]
    rfl

theorem replaces_menuItems (title : String) :
    Replaces (fun r => r.menuItems.get? title) (Contribution.itemsFor title) := by
  intro d r c
  cases c with
  | menuItems items => exact get?_insert_eq_or r.menuItems d.displayName title items
  | _ => rfl

theorem replaces_preferences (plugin : String) :
    Replaces (fun r => r.preferences.get? plugin) (Contribution.preferencesFor plugin) := by
  intro d r c
  cases c with
  | preferences preferences =>
    exact get?_insert_eq_or r.preferences d.shortName plugin preferences
  | _ => rfl

/-- Each index goes under its own label, so those under a label are the ones
    that have it. -/
theorem get?_insertAll_indexes (search : Table SearchIndex) (indexes : List SearchIndex)
    (label : String) :
    (search.insertAll (indexes.map fun i => (i.label, i))).get? label =
      ((indexes.filter (·.label == label)).getLast?).or (search.get? label) := by
  rw [Table.get?_insertAll, List.filter_map, List.getLast?_map, Option.map_map]
  congr 1
  exact Option.map_id'

theorem replaces_search (label : String) :
    Replaces (fun r => r.search.get? label) (Contribution.indexesFor label) := by
  intro d r c
  cases c with
  | searchIndexes indexes => exact get?_insertAll_indexes r.search indexes label
  | _ => rfl

/-! ## All contributions -/

/-- The registry with contributions in its stores, each of its own plugin. -/
def storeAll (r : Registry) (log : List (Descriptor × Contribution)) : Registry :=
  log.foldl (fun r e => r.store e.1 e.2) r

section

variable {view : Registry → List α} {entry : Registry → Option α}
  {given : Descriptor → Contribution → List α}

theorem Appends.storeAll (h : Appends view given) (r : Registry)
    (log : List (Descriptor × Contribution)) :
    view (r.storeAll log) = view r ++ log.flatMap fun e => given e.1 e.2 := by
  induction log generalizing r with
  | nil => exact (List.append_nil _).symm
  | cons e rest ih =>
    have hstep : r.storeAll (e :: rest) = (r.store e.1 e.2).storeAll rest := rfl
    rw [hstep, ih, h, List.flatMap_cons, List.append_assoc]

theorem Replaces.storeAll (h : Replaces entry given) (r : Registry)
    (log : List (Descriptor × Contribution)) :
    entry (r.storeAll log) = (log.flatMap fun e => given e.1 e.2).getLast?.or (entry r) := by
  induction log generalizing r with
  | nil => rfl
  | cons e rest ih =>
    have hstep : r.storeAll (e :: rest) = (r.store e.1 e.2).storeAll rest := rfl
    rw [hstep, ih, h, List.flatMap_cons, List.getLast?_append, Option.or_assoc]

end

/-- A model has an entry only if there is a class for it. -/
def Filled (r : Registry) : Prop := ∀ model, r.templates.get? model ≠ some []

theorem filled_fileTemplates {templates : Table (List TemplateClass)}
    (h : ∀ model, templates.get? model ≠ some []) (classes : List TemplateClass)
    (model : String) : (fileTemplates templates classes).get? model ≠ some [] := by
  induction classes generalizing templates with
  | nil => exact h model
  | cons c rest ih =>
    refine ih fun model' => ?_
    show (fileTemplate templates (c.target, c)).get? model' ≠ some []
    rw [fileTemplate, Table.get?_insert]
    by_cases hmodel : c.target = model'
    · rw [if_pos hmodel]
      simp
    · rw [if_neg hmodel]
      exact h model'

theorem Filled.store (h : r.Filled) (d : Descriptor) (c : Contribution) :
    (r.store d c).Filled := by
  cases c with
  | templates classes => exact filled_fileTemplates h classes
  | _ => exact h

theorem Filled.storeAll (h : r.Filled) (log : List (Descriptor × Contribution)) :
    (r.storeAll log).Filled := by
  induction log generalizing r with
  | nil => exact h
  | cons e rest ih => exact ih (h.store e.1 e.2)

end Registry

/-- What plugins register, one after the other. -/
def registrations (plugins : List Plugin) : List (Descriptor × Contribution) :=
  plugins.flatMap fun p => (registered p.contributions).map fun c => (p.descriptor, c)

theorem storeAll_registrations (plugins : List Plugin) (r : Registry) :
    plugins.foldl (fun r p => (p.ready r).registry) r = r.storeAll (registrations plugins) := by
  induction plugins generalizing r with
  | nil => rfl
  | cons p rest ih =>
    rw [List.foldl_cons, ih, p.ready_registry]
    unfold Registry.storeAll registrations
    rw [List.flatMap_cons, List.foldl_append, List.foldl_map]

/-! ## What a manifest registers -/

/-- A class that has a model is filed under it. -/
theorem TemplateClass.target_beq {c : TemplateClass} (h : ¬c.lacksModel) (model : String) :
    (c.target == model) = (c.model.map Text.trim == some model) := by
  unfold lacksModel at h
  unfold target
  cases hmodel : c.model with
  | none =>
    rw [hmodel] at h
    exact absurd rfl h
  | some own => rfl

namespace Manifest

variable {m : Manifest}

/-- The converted menu. -/
def ownMenu (m : Manifest) : Option (Except Violation Menu) := m.menu.map (·.menu)

/-- The converted items of a list.  An empty list makes no section. -/
def sectionOf (value : Value) : Option (Except Violation (List MenuItem)) :=
  match value.array? with
  | some [] => none
  | _ => some (PluginHost.menuItems "menu_items" value)

/-- The converted items for the section of the plugin. -/
def section? (m : Manifest) : Option (Except Violation (List MenuItem)) :=
  m.menuItems.bind sectionOf

theorem itemsContribution_eq (value : Value) :
    itemsContribution value =
      ((sectionOf value).map fun items => items.map Contribution.menuItems).toList := by
  unfold itemsContribution sectionOf PluginHost.menuItems
  cases value.array? with
  | none => rfl
  | some items =>
    cases items with
    | nil => rfl
    | cons first rest =>
      simp only [List.mapM_cons, bind, Except.bind]
      cases menuItem first with
      | error v => rfl
      | ok item => cases rest.mapM menuItem <;> rfl

/-- The contributions of a manifest whose menu and items are converted. -/
def converted (m : Manifest) (menu : Option Menu) (items : Option (List MenuItem)) :
    List Contribution :=
  (m.searchIndexes.map .searchIndexes).toList
    ++ (m.templates.map .templates).toList
    ++ (menu.map .menu).toList
    ++ (items.map .menuItems).toList
    ++ (m.graphqlSchema.map .graphqlSchema).toList
    ++ (m.userPreferences.map .preferences).toList

theorem contributions_eq {menu : Option Menu} {items : Option (List MenuItem)}
    (hmenu : m.ownMenu = menu.map .ok) (hitems : m.section? = items.map .ok) :
    m.contributions = (m.converted menu items).map .ok := by
  -- Only the menu and the items are converted; the rest stands as it is.
  have hm : (m.menu.map fun definition => definition.menu.map Contribution.menu) =
      (menu.map Contribution.menu).map .ok := by
    have hcomp : (m.menu.map fun definition => definition.menu.map Contribution.menu) =
        m.ownMenu.map fun menu => menu.map Contribution.menu := by
      rw [ownMenu, Option.map_map]
      rfl
    rw [hcomp, hmenu, Option.map_map, Option.map_map]
    rfl
  have hi : (m.menuItems.map itemsContribution).getD [] =
      ((items.map Contribution.menuItems).map .ok).toList := by
    have hcomp : (m.menuItems.map itemsContribution).getD [] =
        (m.section?.map fun items => items.map Contribution.menuItems).toList := by
      cases hvalue : m.menuItems with
      | none => simp [section?, hvalue]
      | some value => simp [section?, hvalue, itemsContribution_eq]
    rw [hcomp, hitems, Option.map_map, Option.map_map]
    rfl
  unfold contributions converted
  rw [hm, hi]
  simp [Option.toList_map, Function.comp_def]

/-- A menu that cannot be converted would be a violation. -/
theorem ownMenu_of_clean (h : ∀ v, .error v ∉ m.contributions) :
    ∃ menu, m.ownMenu = Option.map .ok menu := by
  cases hdefinition : m.menu with
  | none => exact ⟨none, by simp [ownMenu, hdefinition]⟩
  | some definition =>
    cases hmenu : definition.menu with
    | ok menu => exact ⟨some menu, by simp [ownMenu, hdefinition, hmenu]⟩
    | error v =>
      refine absurd ?_ (h v)
      simp [contributions, hdefinition, hmenu, Except.map]

/-- And so would items that cannot. -/
theorem section?_of_clean (h : ∀ v, .error v ∉ m.contributions) :
    ∃ items, m.section? = Option.map .ok items := by
  cases hvalue : m.menuItems with
  | none => exact ⟨none, by simp [section?, hvalue]⟩
  | some value =>
    cases hsection : sectionOf value with
    | none => exact ⟨none, by simp [section?, hvalue, hsection]⟩
    | some outcome =>
      cases outcome with
      | ok items => exact ⟨some items, by simp [section?, hvalue, hsection]⟩
      | error v =>
        refine absurd ?_ (h v)
        simp [contributions, hvalue, itemsContribution_eq, hsection, Except.map]

/-- Without a violation, a manifest registers its converted menu and its
    converted items with the rest. -/
theorem registered_eq (h : firstViolation m.contributions = none) :
    ∃ menu items, m.ownMenu = Option.map .ok menu ∧ m.section? = Option.map .ok items ∧
      registered m.contributions = m.converted menu items := by
  obtain ⟨hall, -⟩ := registered_of_clean h
  have hok : ∀ v, .error v ∉ m.contributions := by
    intro v hv
    rw [hall] at hv
    simp at hv
  obtain ⟨menu, hmenu⟩ := ownMenu_of_clean hok
  obtain ⟨items, hitems⟩ := section?_of_clean hok
  refine ⟨menu, items, hmenu, hitems, ?_⟩
  -- Both lists of contributions are the same one, wrapped in `ok`.
  rw [contributions_eq hmenu hitems] at hall
  rw [contributions_eq hmenu hitems]
  exact (List.map_injective_iff.mpr (fun _ _ => Except.ok.inj) hall).symm

variable {α : Type u}

theorem flatMap_converted (f : Contribution → List α) (menu : Option Menu)
    (items : Option (List MenuItem)) :
    (m.converted menu items).flatMap f =
      (m.searchIndexes.toList.flatMap fun indexes => f (.searchIndexes indexes))
        ++ (m.templates.toList.flatMap fun classes => f (.templates classes))
        ++ (menu.toList.flatMap fun menu => f (.menu menu))
        ++ (items.toList.flatMap fun items => f (.menuItems items))
        ++ (m.graphqlSchema.toList.flatMap fun schema => f (.graphqlSchema schema))
        ++ (m.userPreferences.toList.flatMap fun set => f (.preferences set)) := by
  simp only [converted, List.flatMap_append, Option.toList_map, List.flatMap_map]

/-- What a manifest puts into one place of the registry. -/
def given (m : Manifest) (part : Descriptor → Contribution → List α) : List α :=
  (registered m.contributions).flatMap (part m.plugin)

@[simp] theorem flatMap_nothing {β : Type u} (l : List β) :
    (l.flatMap fun _ => ([] : List α)) = [] := by
  simp [List.flatMap_eq_nil_iff]

section

variable (h : firstViolation m.contributions = none)
include h

theorem given_menus : (m.given Contribution.menus).map .ok = m.ownMenu.toList := by
  obtain ⟨menu, items, hmenu, -, hall⟩ := registered_eq h
  rw [given, hall, flatMap_converted, hmenu]
  simp [Contribution.menus, Option.toList_map]

theorem given_schemas : m.given Contribution.schemas = m.graphqlSchema.toList := by
  obtain ⟨menu, items, -, -, hall⟩ := registered_eq h
  rw [given, hall, flatMap_converted]
  simp [Contribution.schemas]

theorem given_itemsFor (title : String) :
    (m.given (Contribution.itemsFor title)).map .ok =
      if m.plugin.displayName = title then m.section?.toList else [] := by
  obtain ⟨menu, items, -, hitems, hall⟩ := registered_eq h
  rw [given, hall, flatMap_converted, hitems]
  by_cases htitle : m.plugin.displayName = title
  · simp [Contribution.itemsFor, htitle, Option.toList_map]
  · simp [Contribution.itemsFor, htitle]

theorem given_preferencesFor (plugin : String) :
    m.given (Contribution.preferencesFor plugin) =
      if m.plugin.shortName = plugin then m.userPreferences.toList else [] := by
  obtain ⟨menu, items, -, -, hall⟩ := registered_eq h
  rw [given, hall, flatMap_converted]
  by_cases hplugin : m.plugin.shortName = plugin
  · simp [Contribution.preferencesFor, hplugin]
  · simp [Contribution.preferencesFor, hplugin]

theorem given_indexesFor (label : String) :
    m.given (Contribution.indexesFor label) =
      (m.searchIndexes.getD []).filter (·.label == label) := by
  obtain ⟨menu, items, -, -, hall⟩ := registered_eq h
  rw [given, hall, flatMap_converted]
  cases m.searchIndexes <;> simp [Contribution.indexesFor]

theorem given_classesFor (model : String) :
    m.given (Contribution.classesFor model) =
      (m.templates.getD []).filter (fun c => c.model.map Text.trim == some model) := by
  obtain ⟨menu, items, -, -, hall⟩ := registered_eq h
  obtain ⟨-, hclean⟩ := registered_of_clean h
  rw [given, hall, flatMap_converted]
  rw [hall] at hclean
  cases htemplates : m.templates with
  | none => simp [Contribution.classesFor]
  | some classes =>
    -- Every class has a model, for one without would have been refused.
    have hlacks : ∀ c ∈ classes, ¬c.lacksModel := by
      have hviolation := hclean (.templates classes) (by simp [converted, htemplates])
      simpa [Contribution.violation?] using hviolation
    have htarget : ∀ c ∈ classes,
        (c.target == model) = (c.model.map Text.trim == some model) := by
      intro c hc
      exact TemplateClass.target_beq (hlacks c hc) model
    simp [Contribution.classesFor, List.filter_congr htarget]

end

end Manifest

/-! ## The registry that manifests declare -/

section

variable {ms : List Manifest}

/-- The template extensions of a model, those of earlier manifests first. -/
def declaredTemplates (ms : List Manifest) (model : String) : List TemplateClass :=
  (ms.flatMap fun m => m.templates.getD []).filter fun c => c.model.map Text.trim == some model

/-- The sections with a title, one for each manifest that has items for it. -/
def declaredSections (ms : List Manifest) (title : String) :
    List (Except Violation (List MenuItem)) :=
  (ms.filter (·.plugin.displayName == title)).filterMap Manifest.section?

/-- The preferences of the plugins with a short name. -/
def declaredPreferences (ms : List Manifest) (plugin : String) : List PreferenceSet :=
  (ms.filter (·.plugin.shortName == plugin)).filterMap (·.userPreferences)

/-- The search indexes whose model, trimmed and in lower case, is the label;
    those of earlier manifests first. -/
def declaredIndexes (ms : List Manifest) (label : String) : List SearchIndex :=
  (ms.flatMap fun m => m.searchIndexes.getD []).filter fun i =>
    Text.lowercase (Text.trim i.model) == label

/-- The registry holds what the manifests declare, and nothing else. -/
structure Registry.DeclaredBy (r : Registry) (ms : List Manifest) : Prop where
  menus       : r.menus.map .ok = ms.filterMap Manifest.ownMenu
  schemas     : r.graphqlSchemas = ms.filterMap (·.graphqlSchema)
  templates   : ∀ model, (r.templates.get? model).getD [] = declaredTemplates ms model
  filled      : r.Filled
  menuItems   : ∀ title, (r.menuItems.get? title).map .ok = (declaredSections ms title).getLast?
  preferences : ∀ plugin, r.preferences.get? plugin = (declaredPreferences ms plugin).getLast?
  search      : ∀ label, r.search.get? label = (declaredIndexes ms label).getLast?

theorem flatMap_registrations {α : Type u} (part : Descriptor → Contribution → List α)
    (ms : List Manifest) :
    ((registrations (ms.map Manifest.toPlugin)).flatMap fun e => part e.1 e.2) =
      ms.flatMap fun m => m.given part := by
  unfold registrations Manifest.given
  rw [List.flatMap_map, List.flatMap_assoc]
  apply List.flatMap_congr
  intro m _
  rw [List.flatMap_map]
  rfl

/-- The registry in which manifests registered everything. -/
def registryOf (ms : List Manifest) : Registry :=
  Registry.empty.storeAll (registrations (ms.map Manifest.toPlugin))

section

variable {α : Type u} {view : Registry → List α} {entry : Registry → Option α}
  {part : Descriptor → Contribution → List α}

theorem Registry.Appends.registryOf (h : Registry.Appends view part)
    (hempty : view Registry.empty = []) (ms : List Manifest) :
    view (registryOf ms) = ms.flatMap fun m => m.given part := by
  rw [PluginHost.registryOf, h.storeAll, hempty, List.nil_append, flatMap_registrations]

theorem Registry.Replaces.registryOf (h : Registry.Replaces entry part)
    (hempty : entry Registry.empty = none) (ms : List Manifest) :
    entry (registryOf ms) = (ms.flatMap fun m => m.given part).getLast? := by
  rw [PluginHost.registryOf, h.storeAll, hempty, Option.or_none, flatMap_registrations]

end

/-- What manifests register is what they declare. -/
theorem declaredBy_registryOf (h : ∀ m ∈ ms, firstViolation m.contributions = none) :
    (registryOf ms).DeclaredBy ms where
  menus := by
    rw [Registry.appends_menus.registryOf rfl, List.map_flatMap, List.filterMap_eq_flatMap_toList]
    exact List.flatMap_congr fun m hm => Manifest.given_menus (h m hm)
  schemas := by
    rw [Registry.appends_schemas.registryOf rfl, List.filterMap_eq_flatMap_toList]
    exact List.flatMap_congr fun m hm => Manifest.given_schemas (h m hm)
  templates := by
    intro model
    -- The classes of a model are looked for in each manifest on its own.
    rw [(Registry.appends_templates model).registryOf rfl, declaredTemplates,
      List.filter_flatMap]
    exact List.flatMap_congr fun m hm => Manifest.given_classesFor (h m hm) model
  filled := by
    apply Registry.Filled.storeAll
    intro model
    simp [Registry.empty]
  menuItems := by
    intro title
    -- The last list of all is the last one of the manifests with the title.
    rw [(Registry.replaces_menuItems title).registryOf rfl, declaredSections,
      List.filterMap_filter, List.filterMap_eq_flatMap_toList, ← List.getLast?_map,
      List.map_flatMap]
    congr 1
    refine List.flatMap_congr fun m hm => ?_
    rw [Manifest.given_itemsFor (h m hm) title]
    by_cases htitle : m.plugin.displayName = title <;> simp [htitle]
  preferences := by
    intro plugin
    rw [(Registry.replaces_preferences plugin).registryOf rfl, declaredPreferences,
      List.filterMap_filter, List.filterMap_eq_flatMap_toList]
    congr 1
    refine List.flatMap_congr fun m hm => ?_
    rw [Manifest.given_preferencesFor (h m hm) plugin]
    by_cases hplugin : m.plugin.shortName = plugin <;> simp [hplugin]
  search := by
    intro label
    rw [(Registry.replaces_search label).registryOf rfl, declaredIndexes, List.filter_flatMap]
    congr 1
    exact List.flatMap_congr fun m hm => Manifest.given_indexesFor (h m hm) label

/-- Registries with the same content are equal, also if what was converted is
    only compared as an outcome. -/
theorem Registry.eq_of_content {r r' : Registry}
    (hschemas : r.graphqlSchemas = r'.graphqlSchemas)
    (hmenus : r.menus.map (Except.ok (ε := Violation)) = r'.menus.map .ok)
    (hitems : ∀ title, (r.menuItems.get? title).map (Except.ok (ε := Violation)) =
      (r'.menuItems.get? title).map .ok)
    (hpreferences : ∀ plugin, r.preferences.get? plugin = r'.preferences.get? plugin)
    (htemplates : ∀ model, r.templates.get? model = r'.templates.get? model)
    (hsearch : ∀ label, r.search.get? label = r'.search.get? label) : r = r' := by
  have hok : ∀ {β : Type}, Function.Injective (Except.ok : β → Except Violation β) := by
    intro β a b
    exact Except.ok.inj
  have hmenus' : r.menus = r'.menus := List.map_injective_iff.mpr hok hmenus
  have hitems' : r.menuItems = r'.menuItems :=
    Table.ext_get? fun title => Option.map_injective hok (hitems title)
  have hpreferences' : r.preferences = r'.preferences := Table.ext_get? hpreferences
  have htemplates' : r.templates = r'.templates := Table.ext_get? htemplates
  have hsearch' : r.search = r'.search := Table.ext_get? hsearch
  cases r
  cases r'
  simp only [Registry.mk.injEq]
  exact ⟨hschemas, hmenus', hitems', hpreferences', htemplates', hsearch'⟩

/-- Manifests declare one registry only. -/
theorem Registry.DeclaredBy.unique {r r' : Registry} (h : r.DeclaredBy ms)
    (h' : r'.DeclaredBy ms) : r = r' := by
  apply Registry.eq_of_content
  · exact h.schemas.trans h'.schemas.symm
  · exact h.menus.trans h'.menus.symm
  · intro title
    exact (h.menuItems title).trans (h'.menuItems title).symm
  · intro plugin
    exact (h.preferences plugin).trans (h'.preferences plugin).symm
  · intro model
    have hclasses := (h.templates model).trans (h'.templates model).symm
    have hfilled := h.filled model
    have hfilled' := h'.filled model
    -- The same classes; and where there are none, neither has an entry.
    cases hentry : r.templates.get? model <;> cases hentry' : r'.templates.get? model <;>
      simp_all
  · intro label
    exact (h.search label).trans (h'.search label).symm

end

/-! ## Main theorem -/

namespace Loader

variable {host : String} {available : List Manifest} {enabled : List String}
  {config : Table Settings} {plugins : List Plugin}

/-- A loader that holds the plugins of manifests. -/
def ofManifests (host : String) (available : List Manifest) : Loader :=
  ⟨host, available.map Manifest.toPlugin⟩

/-- The manifest that a name stands for. -/
def manifest? (available : List Manifest) (name : String) : Option Manifest :=
  available.find? (·.plugin.name == name)

theorem get?_ofManifests (name : String) :
    (ofManifests host available).get? name = (manifest? available name).map Manifest.toPlugin := by
  unfold get? ofManifests manifest?
  rw [List.find?_map]
  rfl

/-- The plugins of manifests are selected by way of their manifests. -/
theorem manifests_of_selected
    (h : enabled.map (ofManifests host available).get? = plugins.map some) :
    ∃ ms : List Manifest, enabled.map (manifest? available) = ms.map some ∧
      plugins = ms.map Manifest.toPlugin := by
  induction enabled generalizing plugins with
  | nil =>
    cases plugins with
    | nil => exact ⟨[], rfl, rfl⟩
    | cons p rest => cases h
  | cons name names ih =>
    cases plugins with
    | nil => cases h
    | cons p rest =>
      -- The plugin of the first name is the one of its manifest.
      obtain ⟨hp, hrest⟩ := List.cons.inj h
      rw [get?_ofManifests] at hp
      obtain ⟨m, hm, rfl⟩ := Option.map_eq_some_iff.mp hp
      obtain ⟨ms, hms, rfl⟩ := ih hrest
      exact ⟨m :: ms, by simp [hm, hms], rfl⟩

/-- Manifests whose plugins register all that they contribute have no
    violation. -/
theorem clean_of_ready {ms : List Manifest}
    (h : (ms.map Manifest.toPlugin).findSome? readyError = none) :
    ∀ m ∈ ms, firstViolation m.contributions = none := by
  intro m hm
  have hnone := readyErrors_eq_none_iff.mp h m.toPlugin (List.mem_map_of_mem hm)
  exact m.toPlugin.violation_eq.symm.trans hnone

/-- After a load the registry holds what the enabled manifests declare. -/
theorem declaredBy_of_load {loaded : Loaded}
    (h : ((ofManifests host available).load enabled config).outcome = .ok loaded) :
    ∃ ms, enabled.map (manifest? available) = ms.map some ∧ loaded.registry.DeclaredBy ms := by
  obtain ⟨plugins, hselect, hready, rfl⟩ := load_ok h
  obtain ⟨-, hplugins⟩ := loadable_of_selected hselect hready
  obtain ⟨ms, hms, rfl⟩ := manifests_of_selected hplugins
  refine ⟨ms, hms, ?_⟩
  rw [assembled, storeAll_registrations]
  exact declaredBy_registryOf (clean_of_ready hready)

/-- **What a load puts into the registry.**  Each enabled name stands for a
    manifest, the registry holds what those manifests declare, and no other
    registry does.  A model's template extensions are looked up by the trimmed
    model, its search index by the trimmed model in lower case. -/
theorem contents_of_load {loaded : Loaded}
    (h : ((ofManifests host available).load enabled config).outcome = .ok loaded) :
    ∃ ms, enabled.map (manifest? available) = ms.map some ∧
      loaded.registry.DeclaredBy ms ∧
      (∀ r : Registry, r.DeclaredBy ms → r = loaded.registry) ∧
      (∀ model, loaded.registry.templatesFor model = declaredTemplates ms (Text.trim model)) ∧
      (∀ model, loaded.registry.searchIndex? model =
        (declaredIndexes ms (Text.lowercase (Text.trim model))).getLast?) := by
  obtain ⟨ms, hms, hdeclared⟩ := declaredBy_of_load h
  exact ⟨ms, hms, hdeclared, fun r hr => hr.unique hdeclared,
    fun model => hdeclared.templates (Text.trim model),
    fun model => hdeclared.search (Text.lowercase (Text.trim model))⟩

/-! ### Two plugins that share -/

/-- An item for the section of a plugin. -/
def sharedItem (link : String) : Value :=
  .array [.table [("link", .string link), ("link_text", .string "Sites")]]

/-- A plugin that shares its section, its short name, the model of its
    extension and its search label with the one of another vendor. -/
def sharing (vendor : String) : Manifest where
  plugin := { name := vendor ++ ".maps", verboseName := some "Maps" }
  menuItems := some (sharedItem vendor)
  templates := some [{ name := vendor, model := some " dcim.site " }]
  userPreferences := some (Table.empty.insert "theme" { label := vendor })
  searchIndexes := some [{ model := " DCIM.Site\t", displayAttrs := [vendor] }]

/-- Of what two plugins share the later one stays; only the template
    extensions of both do. -/
theorem contents_of_load_sharing :
    ∃ loaded, ((ofManifests "4.1.0" [sharing "a", sharing "b"]).load
        ["a.maps", "b.maps"] Table.empty).outcome = .ok loaded ∧
      loaded.registry.menuItems.get? "Maps" = some [⟨"b", "Sites", [], []⟩] ∧
      (loaded.registry.templatesFor "dcim.site").map (·.name) = ["a", "b"] ∧
      (loaded.registry.searchIndex? "dcim.SITE ").map (·.displayAttrs) = some ["b"] ∧
      ∃ ms, ["a.maps", "b.maps"].map (manifest? [sharing "a", sharing "b"]) = ms.map some ∧
        loaded.registry.DeclaredBy ms ∧
        (∀ r : Registry, r.DeclaredBy ms → r = loaded.registry) ∧
        (∀ model, loaded.registry.templatesFor model = declaredTemplates ms (Text.trim model)) ∧
        (∀ model, loaded.registry.searchIndex? model =
          (declaredIndexes ms (Text.lowercase (Text.trim model))).getLast?) :=
  ⟨_, rfl, by decide, by decide, by decide +kernel,
    @contents_of_load "4.1.0" [sharing "a", sharing "b"] ["a.maps", "b.maps"] Table.empty _ rfl⟩

end Loader

end PluginHost
