import PluginHost.Proofs.Contents
import PluginHost.Proofs.InstalledApps
import Mathlib.Data.List.Perm.Basic

/-! # The order of the enabled names

    A load answers the same for every order of the enabled names, up to the
    order in which it lists what it loaded (`Rearranged`).  Whether it
    succeeds is a matter of each name on its own (`Loadable.perm`), and so is
    what becomes of the settings (`config_of_load_perm`).  In the registry,
    stores that append hold the same in another order.  Stores that replace
    hold the same if no two of the plugins put something under the same key
    (`Apart`), for then it does not matter which one comes last.

    Main theorem: `load_perm`. -/

namespace PluginHost

open Toml (Settings)

/-! ## One that gives something -/

/-- If at most one element gives anything, the order of the elements does not
    matter. -/
theorem flatMap_eq_of_perm {α β : Type} {f : α → List β} {l l' : List α} (hperm : l.Perm l')
    (hone : l.Pairwise fun a b => f a = [] ∨ f b = []) : l.flatMap f = l'.flatMap f := by
  induction hperm with
  | nil => rfl
  | cons a _ ih => rw [List.flatMap_cons, List.flatMap_cons, ih (List.pairwise_cons.mp hone).2]
  | swap a b l =>
    rcases (List.pairwise_cons.mp hone).1 a List.mem_cons_self with hb | ha
    · simp [hb]
    · simp [ha]
  | trans hfirst _ ih ih' =>
    have hmiddle := (hfirst.pairwise_iff fun h => h.symm).mp hone
    exact (ih hone).trans (ih' hmiddle)

/-! ## What manifests declare -/

/-- Two manifests put nothing under the same key: they have different titles
    for their sections, different names for their preferences, and no search
    label in common. -/
structure Apart (m m' : Manifest) : Prop where
  displayName : m.plugin.displayName ≠ m'.plugin.displayName
  shortName   : m.plugin.shortName ≠ m'.plugin.shortName
  labels      : ∀ i ∈ m.searchIndexes.getD [], ∀ j ∈ m'.searchIndexes.getD [], i.label ≠ j.label

section

variable {ms ms' : List Manifest} {r r' : Registry}

/-- At most one of the manifests has something to select. -/
theorem filterMap_filter_eq_of_perm {β : Type} {key : Manifest → String}
    (hperm : ms.Perm ms') (hkeys : ms.Pairwise fun m m' => key m ≠ key m') (k : String)
    (part : Manifest → Option β) :
    (ms.filter (key · == k)).filterMap part = (ms'.filter (key · == k)).filterMap part := by
  rw [List.filterMap_filter, List.filterMap_filter, List.filterMap_eq_flatMap_toList,
    List.filterMap_eq_flatMap_toList]
  refine flatMap_eq_of_perm hperm (hkeys.imp fun {m m'} hne => ?_)
  by_cases hm : key m = k
  · right
    have hm' : key m' ≠ k := fun heq => hne (hm.trans heq.symm)
    simp [hm']
  · left
    simp [hm]

theorem declaredSections_perm (hperm : ms.Perm ms') (hapart : ms.Pairwise Apart) (title : String) :
    declaredSections ms title = declaredSections ms' title :=
  filterMap_filter_eq_of_perm hperm (hapart.imp fun h => h.displayName) title Manifest.section?

theorem declaredPreferences_perm (hperm : ms.Perm ms') (hapart : ms.Pairwise Apart)
    (plugin : String) : declaredPreferences ms plugin = declaredPreferences ms' plugin :=
  filterMap_filter_eq_of_perm hperm (hapart.imp fun h => h.shortName) plugin (·.userPreferences)

theorem declaredIndexes_perm (hperm : ms.Perm ms') (hapart : ms.Pairwise Apart) (label : String) :
    declaredIndexes ms label = declaredIndexes ms' label := by
  unfold declaredIndexes
  rw [List.filter_flatMap, List.filter_flatMap]
  refine flatMap_eq_of_perm hperm (hapart.imp fun {m m'} h => ?_)
  rw [List.filter_eq_nil_iff, List.filter_eq_nil_iff]
  by_cases hm : ∃ i ∈ m.searchIndexes.getD [], i.label = label
  · right
    obtain ⟨i, hi, rfl⟩ := hm
    intro j hj
    show ¬(j.label == i.label) = true
    simpa using (h.labels i hi j hj).symm
  · left
    show ∀ i ∈ m.searchIndexes.getD [], ¬(i.label == label) = true
    simpa using hm

/-! ## What registries hold -/

namespace Registry.DeclaredBy

variable (h : r.DeclaredBy ms) (h' : r'.DeclaredBy ms') (hperm : ms.Perm ms')
include h h' hperm

theorem menus_perm : r.menus.Perm r'.menus := by
  have hmenus := hperm.filterMap Manifest.ownMenu
  rw [← h.menus, ← h'.menus] at hmenus
  exact (List.map_perm_map_iff fun _ _ => Except.ok.inj).mp hmenus

theorem schemas_perm : r.graphqlSchemas.Perm r'.graphqlSchemas := by
  rw [h.schemas, h'.schemas]
  exact hperm.filterMap _

theorem templatesFor_perm (model : String) :
    (r.templatesFor model).Perm (r'.templatesFor model) := by
  have hmodel := h.templates (Text.trim model)
  have hmodel' := h'.templates (Text.trim model)
  unfold templatesFor
  rw [hmodel, hmodel']
  exact (hperm.flatMap_right _).filter _

section

variable (hapart : ms.Pairwise Apart)
include hapart

theorem menuItems_eq : r.menuItems = r'.menuItems := by
  apply Table.ext_get?
  intro title
  have hok : Function.Injective (Except.ok : List MenuItem → Except Violation (List MenuItem)) :=
    fun _ _ => Except.ok.inj
  apply Option.map_injective hok
  rw [h.menuItems, h'.menuItems, declaredSections_perm hperm hapart]

theorem preferences_eq : r.preferences = r'.preferences := by
  apply Table.ext_get?
  intro plugin
  rw [h.preferences, h'.preferences, declaredPreferences_perm hperm hapart]

theorem search_eq : r.search = r'.search := by
  apply Table.ext_get?
  intro label
  rw [h.search, h'.search, declaredIndexes_perm hperm hapart]

end

end Registry.DeclaredBy

end

/-! ## What a load decides and leaves behind -/

namespace Loader

variable {l : Loader} {config : Table Settings} {enabled enabled' : List String}
  {loaded loaded' : Loaded}

theorem Loadable.perm (h : l.Loadable config enabled) (hperm : enabled.Perm enabled') :
    l.Loadable config enabled' where
  distinct := hperm.nodup_iff.mp h.distinct
  installed name hname := h.installed name (hperm.mem_iff.mpr hname)
  accepted name hname := h.accepted name (hperm.mem_iff.mpr hname)
  registers name hname := h.registers name (hperm.mem_iff.mpr hname)

theorem Loadable.load (h : l.Loadable config enabled) :
    ∃ loaded, (l.load enabled config).outcome = .ok loaded := by
  cases houtcome : (l.load enabled config).outcome with
  | ok loaded => exact ⟨loaded, rfl⟩
  | error e => exact absurd h (firstFault_of_load houtcome).not_loadable

/-- One entry after a load: the completed one of an enabled plugin, any other
    as it was. -/
theorem get?_config_of_load (h : (l.load enabled config).outcome = .ok loaded) (name : String) :
    (name ∈ enabled → ∃ p s, l.get? name = some p ∧
      p.descriptor.validate (settingsFor config name) l.hostVersion = .ok s ∧
      (l.load enabled config).config.get? name = some s) ∧
    (name ∉ enabled → (l.load enabled config).config.get? name = config.get? name) := by
  obtain ⟨plugins, hselect, -⟩ := load_ok h
  rw [load_config]
  exact ⟨fun hname => get?_select_of_selected hselect hname,
    fun hname => get?_select_of_not_selected l enabled [] config name (.inr hname)⟩

/-- Loads of the same names leave the same settings behind. -/
theorem config_of_load_perm (hperm : enabled.Perm enabled')
    (h : (l.load enabled config).outcome = .ok loaded)
    (h' : (l.load enabled' config).outcome = .ok loaded') :
    (l.load enabled config).config = (l.load enabled' config).config := by
  apply Table.ext_get?
  intro name
  obtain ⟨hin, hout⟩ := get?_config_of_load h name
  obtain ⟨hin', hout'⟩ := get?_config_of_load h' name
  by_cases hname : name ∈ enabled
  · obtain ⟨p, s, hp, hs, hentry⟩ := hin hname
    obtain ⟨p', s', hp', hs', hentry'⟩ := hin' (hperm.mem_iff.mp hname)
    -- The same plugin completes the same settings.
    rw [hp, Option.some.injEq] at hp'
    subst hp'
    rw [hs, Except.ok.injEq] at hs'
    rw [hentry, hentry', hs']
  · rw [hout hname, hout' fun hname' => hname (hperm.mem_iff.mpr hname')]

theorem nodup_distinct (seen apps : List String) : (distinct seen apps).Nodup := by
  induction apps generalizing seen with
  | nil => exact List.nodup_nil
  | cons a rest ih =>
    rw [distinct]
    by_cases ha : seen.contains a = true
    · rw [if_pos ha]
      exact ih seen
    · rw [if_neg ha, List.nodup_cons, mem_distinct]
      exact ⟨fun hmem => hmem.2 List.mem_cons_self, ih (a :: seen)⟩

/-! ## Main theorem -/

/-- Two loads loaded the same, but may list it in different orders. -/
structure Rearranged (loaded loaded' : Loaded) : Prop where
  plugins       : loaded.plugins.Perm loaded'.plugins
  middleware    : loaded.middleware.Perm loaded'.middleware
  queues        : loaded.queues.Perm loaded'.queues
  menus         : loaded.registry.menus.Perm loaded'.registry.menus
  schemas       : loaded.registry.graphqlSchemas.Perm loaded'.registry.graphqlSchemas
  templates     : ∀ model,
    (loaded.registry.templatesFor model).Perm (loaded'.registry.templatesFor model)
  installedApps : ∀ app, app ∈ loaded.installedApps ↔ app ∈ loaded'.installedApps
  distinct      : loaded.installedApps.Nodup ∧ loaded'.installedApps.Nodup

/-- The manifests that enabled names stand for. -/
def enabledManifests (available : List Manifest) (enabled : List String) : List Manifest :=
  enabled.filterMap (manifest? available)

section

variable {host : String} {available : List Manifest}

theorem enabledManifests_perm (available : List Manifest) (hperm : enabled.Perm enabled') :
    (enabledManifests available enabled).Perm (enabledManifests available enabled') :=
  hperm.filterMap _

theorem declaredBy_enabledManifests
    (h : ((ofManifests host available).load enabled config).outcome = .ok loaded) :
    loaded.registry.DeclaredBy (enabledManifests available enabled) := by
  obtain ⟨ms, hms, hdeclared⟩ := declaredBy_of_load h
  have hfound : enabledManifests available enabled = ms := filterMap_eq_of_map_eq hms
  rw [hfound]
  exact hdeclared

theorem rearranged_of_load (hperm : enabled.Perm enabled')
    (h : ((ofManifests host available).load enabled config).outcome = .ok loaded)
    (h' : ((ofManifests host available).load enabled' config).outcome = .ok loaded') :
    Rearranged loaded loaded' := by
  have hmanifests := enabledManifests_perm available hperm
  have hdeclared := declaredBy_enabledManifests h
  have hdeclared' := declaredBy_enabledManifests h'
  have hconfig := config_of_load_perm hperm h h'
  obtain ⟨plugins, hselect, hready, rfl⟩ := load_ok h
  obtain ⟨plugins', hselect', hready', rfl⟩ := load_ok h'
  -- The plugins are those of the names, in their order.
  have hplugins : plugins.Perm plugins' := by
    rw [← enabledPlugins_of_selected (loadable_of_selected hselect hready).2,
      ← enabledPlugins_of_selected (loadable_of_selected hselect' hready').2]
    exact hperm.filterMap _
  refine
    { plugins := ?_
      middleware := hplugins.flatMap_right _
      queues := hplugins.flatMap_right _
      menus := hdeclared.menus_perm hdeclared' hmanifests
      schemas := hdeclared.schemas_perm hdeclared' hmanifests
      templates := hdeclared.templatesFor_perm hdeclared' hmanifests
      installedApps := fun app => ?_
      distinct := ⟨nodup_distinct _ _, nodup_distinct _ _⟩ }
  · unfold assembled
    rw [hconfig]
    exact hplugins.map _
  · unfold assembled installedApps
    rw [mem_distinct, mem_distinct, (hplugins.flatMap_right _).mem_iff]

/-- **The order of the enabled names.**  It decides neither whether a load
    succeeds nor what it leaves behind, and changes no more than the order of
    what is loaded.  Sections, preferences and search indexes are the same if
    no two of the plugins share a key. -/
theorem load_perm (host : String) (available : List Manifest) (config : Table Settings)
    (hperm : enabled.Perm enabled') :
    ((∃ loaded, ((ofManifests host available).load enabled config).outcome = .ok loaded) ↔
      ∃ loaded, ((ofManifests host available).load enabled' config).outcome = .ok loaded) ∧
    ∀ loaded loaded',
      ((ofManifests host available).load enabled config).outcome = .ok loaded →
      ((ofManifests host available).load enabled' config).outcome = .ok loaded' →
      ((ofManifests host available).load enabled config).config =
        ((ofManifests host available).load enabled' config).config ∧
      Rearranged loaded loaded' ∧
      ((enabledManifests available enabled).Pairwise Apart →
        loaded.registry.menuItems = loaded'.registry.menuItems ∧
        loaded.registry.preferences = loaded'.registry.preferences ∧
        loaded.registry.search = loaded'.registry.search) := by
  constructor
  · constructor
    · rintro ⟨loaded, h⟩
      exact ((loadable_of_load h).perm hperm).load
    · rintro ⟨loaded, h⟩
      exact ((loadable_of_load h).perm hperm.symm).load
  · intro loaded loaded' h h'
    refine ⟨config_of_load_perm hperm h h', rearranged_of_load hperm h h', fun hapart => ?_⟩
    have hmanifests := enabledManifests_perm available hperm
    have hdeclared := declaredBy_enabledManifests h
    have hdeclared' := declaredBy_enabledManifests h'
    exact ⟨hdeclared.menuItems_eq hdeclared' hmanifests hapart,
      hdeclared.preferences_eq hdeclared' hmanifests hapart,
      hdeclared.search_eq hdeclared' hmanifests hapart⟩

end

/-! ### Two plugins in both orders -/

/-- A plugin with something in each store that replaces, under keys of its
    own, and with a template extension and an app like any other vendor. -/
def vending (vendor : String) : Manifest where
  plugin := { name := vendor, dependentApps := ["base"] }
  menuItems := some (sharedItem vendor)
  templates := some [{ name := vendor, model := some "dcim.site" }]
  userPreferences := some (Table.empty.insert "theme" { label := vendor })
  searchIndexes := some [{ model := vendor ++ ".site" }]

theorem apart_vending :
    (enabledManifests [vending "a", vending "b"] ["a", "b"]).Pairwise Apart := by
  refine List.pairwise_pair.mpr ⟨by decide, by decide, ?_⟩
  intro i hi j hj
  obtain rfl := List.mem_singleton.mp hi
  obtain rfl := List.mem_singleton.mp hj
  decide +kernel

/-- The lists of both loads are in different orders, and the tables the same. -/
theorem load_perm_vending :
    ["a", "b"].Perm ["b", "a"] ∧
      (enabledManifests [vending "a", vending "b"] ["a", "b"]).Pairwise Apart ∧
      ∃ loaded loaded',
        ((ofManifests "4.1.0" [vending "a", vending "b"]).load
          ["a", "b"] Table.empty).outcome = .ok loaded ∧
        ((ofManifests "4.1.0" [vending "a", vending "b"]).load
          ["b", "a"] Table.empty).outcome = .ok loaded' ∧
        loaded.installedApps = ["base", "a", "b"] ∧ loaded'.installedApps = ["base", "b", "a"] ∧
        Rearranged loaded loaded' ∧
        loaded.registry.menuItems = loaded'.registry.menuItems ∧
        loaded.registry.preferences = loaded'.registry.preferences ∧
        loaded.registry.search = loaded'.registry.search := by
  have hperm : ["a", "b"].Perm ["b", "a"] := by decide
  obtain ⟨-, hsame⟩ := load_perm "4.1.0" [vending "a", vending "b"] Table.empty hperm
  obtain ⟨-, hrearranged, htables⟩ := hsame _ _ rfl rfl
  exact ⟨hperm, apart_vending, _, _, rfl, rfl, by decide, by decide, hrearranged,
    htables apart_vending⟩

end Loader

end PluginHost
