import PluginHost.Proofs.Registration
import PluginHost.Proofs.Selection
import Mathlib.Data.List.Forall2
import Mathlib.Data.List.Nodup

/-! # What a load decides

    A load has two phases: the enabled names are selected, and then their
    plugins register what they contribute.  The second phase is only reached
    when no name is at fault, so a plugin that cannot register never hides the
    fault of a later name.

    Main theorem (`load_decides`): a load succeeds exactly when every enabled
    name is loadable, and otherwise it answers the first fault
    (`FirstFault`). -/

namespace PluginHost

open Toml (Settings)

namespace Loader

variable {l : Loader} {config : Table Settings} {enabled : List String} {plugins : List Plugin}

/-! ## The two phases -/

/-- What is loaded when every plugin registered what it contributes. -/
def assembled (config : Table Settings) (plugins : List Plugin) : Loaded where
  registry := plugins.foldl (fun r p => (p.ready r).registry) Registry.empty
  plugins := plugins.map (loadedPlugin config)
  installedApps := installedApps plugins
  middleware := middleware plugins
  queues := queues plugins

/-- The second phase, once the plugins are selected. -/
def assemble (config : Table Settings) (plugins : List Plugin) : Except LoadError Loaded :=
  match plugins.findSome? readyError with
  | some e => .error e
  | none => .ok (assembled config plugins)

theorem load_outcome (l : Loader) (enabled : List String) (config : Table Settings) :
    (l.load enabled config).outcome =
      (l.select [] config enabled).outcome.bind
        (assemble (l.select [] config enabled).config) := by
  unfold load
  cases hselect : (l.select [] config enabled).outcome with
  | error e => simp [hselect, Except.bind]
  | ok plugins =>
    have herror := initialise_error plugins Registry.empty
    cases hready : plugins.findSome? readyError with
    | some e =>
      rw [hready] at herror
      simp [hselect, herror, Except.bind, assemble, hready]
    | none =>
      rw [hready] at herror
      simp [hselect, herror, Except.bind, assemble, hready, assembled,
        initialise_registry plugins _ hready]

theorem load_config (l : Loader) (enabled : List String) (config : Table Settings) :
    (l.load enabled config).config = (l.select [] config enabled).config := by
  unfold load
  cases hselect : (l.select [] config enabled).outcome with
  | error e => simp [hselect]
  | ok plugins => cases hready : (initialise Registry.empty plugins).error <;> simp [hselect, hready]

/-- A load that succeeds has selected plugins none of which failed to register. -/
theorem load_ok {loaded : Loaded} (h : (l.load enabled config).outcome = .ok loaded) :
    ∃ plugins, (l.select [] config enabled).outcome = .ok plugins ∧
      plugins.findSome? readyError = none ∧
      loaded = assembled (l.load enabled config).config plugins := by
  rw [load_outcome] at h
  rw [load_config]
  cases hselect : (l.select [] config enabled).outcome with
  | error e => simp [hselect, Except.bind] at h
  | ok plugins =>
    have hassemble : assemble (l.select [] config enabled).config plugins = .ok loaded := by
      simpa [hselect, Except.bind] using h
    cases hready : plugins.findSome? readyError with
    | none => exact ⟨plugins, rfl, hready, by simpa [assemble, hready] using hassemble.symm⟩
    | some e => simp [assemble, hready] at hassemble

/-! ## Faults by position -/

/-- Why the plugin enabled at a position cannot register what it contributes. -/
def violationAt (l : Loader) (enabled : List String) (i : Nat) : Option Violation :=
  enabled[i]?.bind fun name => (l.get? name).bind Plugin.violation

/-- The error that a load ends with.  The names are judged first, from left to
    right; only if none of them is at fault, the first violation counts. -/
inductive FirstFault (l : Loader) (config : Table Settings) (enabled : List String) :
    LoadError → Prop where
  | selecting {i : Nat} {name : String} {fault : LoadFault}
      (clean : ∀ j < i, l.faultAt config enabled j = none)
      (here : enabled[i]? = some name)
      (fault_here : l.faultAt config enabled i = some fault) :
      FirstFault l config enabled ⟨name, fault⟩
  | registering {i : Nat} {name : String} {v : Violation}
      (selected : ∀ j, l.faultAt config enabled j = none)
      (clean : ∀ j < i, l.violationAt enabled j = none)
      (here : enabled[i]? = some name)
      (violation_here : l.violationAt enabled i = some v) :
      FirstFault l config enabled ⟨name, .contract v⟩

/-- What it takes for a load to succeed. -/
structure Loadable (l : Loader) (config : Table Settings) (enabled : List String) : Prop where
  distinct  : enabled.Nodup
  installed : ∀ name ∈ enabled, name ∈ l.available
  accepted  : ∀ name ∈ enabled, ∀ p, l.get? name = some p →
    ∃ s, p.descriptor.validate (settingsFor config name) l.hostVersion = .ok s
  registers : ∀ name ∈ enabled, ∀ p, l.get? name = some p → p.violation = none

/-- What is recorded for an enabled name: the names and the version of its
    plugin, and the completed settings, which are its entry afterwards. -/
def Recorded (l : Loader) (config after : Table Settings) (name : String)
    (record : LoadedPlugin) : Prop :=
  ∃ p s, l.get? name = some p ∧
    p.descriptor.validate (settingsFor config name) l.hostVersion = .ok s ∧
    after.get? name = some s ∧
    record = ⟨name, p.descriptor.displayName, p.descriptor.version, p.descriptor.urlSegment, s⟩

/-! ### Positions and names -/

theorem mem_take_iff {name : String} {i : Nat} :
    name ∈ enabled.take i ↔ ∃ j < i, enabled[j]? = some name := by
  rw [List.mem_iff_getElem?]
  constructor
  · rintro ⟨j, hj⟩
    rw [List.getElem?_take] at hj
    by_cases hlt : j < i
    · rw [if_pos hlt] at hj
      exact ⟨j, hlt, hj⟩
    · rw [if_neg hlt] at hj
      cases hj
  · rintro ⟨j, hlt, hj⟩
    exact ⟨j, by rw [List.getElem?_take_of_lt hlt, hj]⟩

/-- No position is at fault when the names are distinct, installed and
    accepted. -/
theorem faultAt_eq_none_iff :
    (∀ i, l.faultAt config enabled i = none) ↔
      enabled.Nodup ∧ (∀ name ∈ enabled, name ∈ l.available) ∧
        ∀ name ∈ enabled, ∀ p, l.get? name = some p →
          ∃ s, p.descriptor.validate (settingsFor config name) l.hostVersion = .ok s := by
  constructor
  · intro h
    -- At its own position, each name is known to have passed.
    have hpass : ∀ i name, enabled[i]? = some name →
        l.nameFault config (enabled.take i) name = none := by
      intro i name hi
      rw [← faultAt_of_getElem? hi]
      exact h i
    refine ⟨?_, ?_, ?_⟩
    · rw [List.nodup_iff_getElem?_ne_getElem?]
      intro i j hij hj heq
      have hname : enabled[j]? = some enabled[j] := List.getElem?_eq_getElem hj
      have hnew := (nameFault_eq_none_iff.mp (hpass j _ hname)).1
      exact hnew (mem_take_iff.mpr ⟨i, hij, heq.trans hname⟩)
    · intro name hmem
      obtain ⟨i, hi⟩ := List.mem_iff_getElem?.mp hmem
      obtain ⟨-, p, s, hp, -⟩ := nameFault_eq_none_iff.mp (hpass i name hi)
      exact get?_isSome_iff.mp (by rw [hp]; rfl)
    · intro name hmem p hp
      obtain ⟨i, hi⟩ := List.mem_iff_getElem?.mp hmem
      obtain ⟨-, p', s, hp', hs⟩ := nameFault_eq_none_iff.mp (hpass i name hi)
      rw [hp, Option.some.injEq] at hp'
      subst hp'
      exact ⟨s, hs⟩
  · rintro ⟨hnodup, hinstalled, haccepted⟩ i
    unfold faultAt
    cases hi : enabled[i]? with
    | none => rfl
    | some name =>
      have hmem : name ∈ enabled := List.mem_iff_getElem?.mpr ⟨i, hi⟩
      obtain ⟨p, hp⟩ := Option.isSome_iff_exists.mp (get?_isSome_iff.mpr (hinstalled name hmem))
      obtain ⟨s, hs⟩ := haccepted name hmem p hp
      refine nameFault_eq_none_iff.mpr ⟨fun hseen => ?_, p, s, hp, hs⟩
      obtain ⟨j, hji, hj⟩ := mem_take_iff.mp hseen
      have hlen : i < enabled.length := (List.getElem?_eq_some_iff.mp hi).1
      exact List.nodup_iff_getElem?_ne_getElem?.mp hnodup j i hji hlen (hj.trans hi.symm)

/-- No position has a violation when no enabled plugin has one. -/
theorem violationAt_eq_none_iff :
    (∀ i, l.violationAt enabled i = none) ↔
      ∀ name ∈ enabled, ∀ p, l.get? name = some p → p.violation = none := by
  constructor
  · intro h name hmem p hp
    obtain ⟨i, hi⟩ := List.mem_iff_getElem?.mp hmem
    simpa [violationAt, hi, hp] using h i
  · intro h i
    unfold violationAt
    cases hi : enabled[i]? with
    | none => rfl
    | some name =>
      cases hp : l.get? name with
      | none => simp [hp]
      | some p =>
        have hmem : name ∈ enabled := List.mem_iff_getElem?.mpr ⟨i, hi⟩
        simpa [hp] using h name hmem p hp

theorem loadable_iff :
    l.Loadable config enabled ↔
      (∀ i, l.faultAt config enabled i = none) ∧ ∀ i, l.violationAt enabled i = none := by
  rw [faultAt_eq_none_iff, violationAt_eq_none_iff]
  constructor
  · intro h
    exact ⟨⟨h.distinct, h.installed, h.accepted⟩, h.registers⟩
  · rintro ⟨⟨hdistinct, hinstalled, haccepted⟩, hregisters⟩
    exact ⟨hdistinct, hinstalled, haccepted, hregisters⟩

/-! ## The answer of a load -/

/-- A selected plugin is enabled, and is the one of its name. -/
theorem mem_of_selected {p : Plugin} (h : enabled.map l.get? = plugins.map some)
    (hp : p ∈ plugins) : p.name ∈ enabled ∧ l.get? p.name = some p := by
  have hsome : some p ∈ enabled.map l.get? := by
    rw [h]
    exact List.mem_map_of_mem hp
  obtain ⟨name, hname, hget⟩ := List.mem_map.mp hsome
  rw [name_of_get? hget]
  exact ⟨hname, hget⟩

/-- Selected plugins are told apart by their names. -/
theorem eq_of_selected {p q : Plugin} (h : enabled.map l.get? = plugins.map some)
    (hp : p ∈ plugins) (hq : q ∈ plugins) (hname : p.name = q.name) : p = q := by
  have hget := (mem_of_selected h hp).2
  rw [hname, (mem_of_selected h hq).2] at hget
  exact (Option.some.inj hget).symm

theorem violationAt_of_selected (h : enabled.map l.get? = plugins.map some) (i : Nat) :
    l.violationAt enabled i = plugins[i]?.bind Plugin.violation := by
  -- Names and plugins correspond position by position.
  have hat : (enabled.map l.get?)[i]? = (plugins.map some)[i]? := by rw [h]
  rw [List.getElem?_map, List.getElem?_map] at hat
  unfold violationAt
  cases hname : enabled[i]? with
  | none =>
    rw [hname] at hat
    cases hplugin : plugins[i]? with
    | none => rfl
    | some p => simp [hplugin] at hat
  | some name =>
    rw [hname] at hat
    cases hplugin : plugins[i]? with
    | none => simp [hplugin] at hat
    | some p =>
      have hp : l.get? name = some p := by simpa [hplugin] using hat
      simp [hp]

/-- The error of the second phase is the first violation. -/
theorem firstFault_of_readyError {e : LoadError}
    (hselected : ∀ i, l.faultAt config enabled i = none)
    (hplugins : enabled.map l.get? = plugins.map some)
    (h : plugins.findSome? readyError = some e) : l.FirstFault config enabled e := by
  obtain ⟨front, p, rest, hsplit, hp, hfront⟩ := List.findSome?_eq_some_iff.mp h
  obtain ⟨v, hv, rfl⟩ := Option.map_eq_some_iff.mp hp
  -- The plugin at fault has as many others in front of it as its name has.
  have hhere : plugins[front.length]? = some p := by simp [hsplit]
  have hname : enabled[front.length]? = some p.name := by
    have hat : (enabled.map l.get?)[front.length]? = some (some p) := by
      rw [hplugins, List.getElem?_map, hhere]
      rfl
    rw [List.getElem?_map] at hat
    obtain ⟨name, hname, hget⟩ := Option.map_eq_some_iff.mp hat
    rw [hname, name_of_get? hget]
  refine .registering hselected (fun j hj => ?_) hname ?_
  · rw [violationAt_of_selected hplugins]
    have hat : plugins[j]? = some front[j] := by
      rw [hsplit, List.getElem?_append_left hj, List.getElem?_eq_getElem hj]
    have hclean := hfront front[j] (List.getElem_mem hj)
    rw [hat]
    exact Option.map_eq_none_iff.mp hclean
  · rw [violationAt_of_selected hplugins, hhere]
    exact hv

/-- A load that fails answers the first fault. -/
theorem firstFault_of_load {e : LoadError} (h : (l.load enabled config).outcome = .error e) :
    l.FirstFault config enabled e := by
  have hverdict := select_verdict l config enabled [] config (fun _ _ => rfl)
  rw [load_outcome] at h
  cases hselect : (l.select [] config enabled).outcome with
  | error e' =>
    rw [hselect] at h hverdict
    have heq : e' = e := by simpa [Except.bind] using h
    subst heq
    -- The selection has failed, and its verdict names the position.
    obtain ⟨i, -, hclean, hname, hfault⟩ := hverdict
    exact .selecting (fun j hj => hclean j (Nat.zero_le j) hj) hname hfault
  | ok plugins =>
    rw [hselect] at h hverdict
    -- No name is at fault, so the error can only come from the second phase.
    obtain ⟨hclean, hplugins⟩ := hverdict
    have hselected : ∀ i, l.faultAt config enabled i = none := fun i => hclean i (Nat.zero_le i)
    cases hready : plugins.findSome? readyError with
    | none => simp [Except.bind, assemble, hready] at h
    | some e' =>
      have heq : e' = e := by simpa [Except.bind, assemble, hready] using h
      subst heq
      exact firstFault_of_readyError hselected hplugins hready

/-- The plugins of a load that succeeds are the ones that its names stand for. -/
theorem loadable_of_selected (hselect : (l.select [] config enabled).outcome = .ok plugins)
    (hready : plugins.findSome? readyError = none) :
    l.Loadable config enabled ∧ enabled.map l.get? = plugins.map some := by
  have hverdict := select_verdict l config enabled [] config (fun _ _ => rfl)
  rw [hselect] at hverdict
  obtain ⟨hclean, hplugins⟩ := hverdict
  refine ⟨loadable_iff.mpr ⟨fun i => hclean i (Nat.zero_le i), fun i => ?_⟩, hplugins⟩
  rw [violationAt_of_selected hplugins]
  cases hp : plugins[i]? with
  | none => rfl
  | some p =>
    exact readyErrors_eq_none_iff.mp hready p (List.mem_of_getElem? hp)

theorem loadable_of_load {loaded : Loaded} (h : (l.load enabled config).outcome = .ok loaded) :
    l.Loadable config enabled := by
  obtain ⟨plugins, hselect, hready, -⟩ := load_ok h
  exact (loadable_of_selected hselect hready).1

/-- A load only misses plugins that are enabled and not available. -/
theorem missing_of_load {name : String}
    (h : (l.load enabled config).outcome = .error ⟨name, .notInstalled⟩) :
    name ∈ enabled ∧ name ∉ l.available := by
  cases firstFault_of_load h with
  | selecting _ hname hfault =>
    rw [faultAt_of_getElem? hname, nameFault_eq_notInstalled_iff] at hfault
    exact ⟨List.mem_of_getElem? hname, hfault.2⟩

/-- Names that are loadable have no first fault. -/
theorem FirstFault.not_loadable {e : LoadError} (h : l.FirstFault config enabled e) :
    ¬l.Loadable config enabled := by
  intro hloadable
  obtain ⟨hfaults, hviolations⟩ := loadable_iff.mp hloadable
  cases h with
  | @selecting i name fault _ _ hfault =>
    rw [hfaults i] at hfault
    cases hfault
  | @registering i name v _ _ _ hv =>
    rw [hviolations i] at hv
    cases hv

theorem FirstFault.unique {e e' : LoadError} (h : l.FirstFault config enabled e)
    (h' : l.FirstFault config enabled e') : e = e' := by
  -- Faults of one phase are at the same position, and a name at fault rules
  -- out the second phase.
  cases h with
  | @selecting i name fault hclean hname hfault =>
    cases h' with
    | selecting hclean' hname' hfault' =>
      obtain ⟨rfl, rfl⟩ := first_unique (Nat.zero_le i) (fun k _ => hclean k) hfault
        (Nat.zero_le _) (fun k _ => hclean' k) hfault'
      rw [hname, Option.some.injEq] at hname'
      rw [hname']
    | registering hselected' _ _ _ =>
      rw [hselected'] at hfault
      cases hfault
  | @registering i name v hselected hclean hname hv =>
    cases h' with
    | selecting _ _ hfault' =>
      rw [hselected] at hfault'
      cases hfault'
    | registering _ hclean' hname' hv' =>
      obtain ⟨rfl, rfl⟩ := first_unique (Nat.zero_le i) (fun k _ => hclean k) hv
        (Nat.zero_le _) (fun k _ => hclean' k) hv'
      rw [hname, Option.some.injEq] at hname'
      rw [hname']

/-! ## What a load reads -/

section

variable {initial : Table Settings}

/-- The second phase reads no settings but those of its plugins. -/
theorem assemble_congr
    (h : ∀ p ∈ plugins, settingsFor config p.name = settingsFor initial p.name) :
    assemble config plugins = assemble initial plugins := by
  have hrecords : plugins.map (loadedPlugin config) = plugins.map (loadedPlugin initial) := by
    apply List.map_congr_left
    intro p hp
    unfold loadedPlugin
    rw [h p hp]
  unfold assemble assembled
  rw [hrecords]

/-- Settings by which the same positions are at fault, and which complete to the
    same settings where they are accepted, get the same answer. -/
theorem load_outcome_congr
    (hfaults : ∀ i, l.faultAt config enabled i = l.faultAt initial enabled i)
    (hsettings : ∀ name ∈ enabled, ∀ p s s', l.get? name = some p →
      p.descriptor.validate (settingsFor config name) l.hostVersion = .ok s →
      p.descriptor.validate (settingsFor initial name) l.hostVersion = .ok s' → s = s') :
    (l.load enabled config).outcome = (l.load enabled initial).outcome := by
  rw [load_outcome, load_outcome]
  have houtcome := select_outcome_congr hfaults
  cases hthen : (l.select [] initial enabled).outcome with
  | error e =>
    rw [hthen] at houtcome
    rw [houtcome]
    rfl
  | ok plugins =>
    rw [hthen] at houtcome
    rw [houtcome]
    have hverdict := select_verdict l initial enabled [] initial (fun _ _ => rfl)
    rw [hthen] at hverdict
    -- The same plugins; what is left are their completed settings.
    refine assemble_congr fun p hmem => ?_
    have hname : p.name ∈ enabled := (mem_of_selected hverdict.2 hmem).1
    obtain ⟨q, s, hq, hs, hentry⟩ := get?_select_of_selected houtcome hname
    obtain ⟨q', s', hq', hs', hentry'⟩ := get?_select_of_selected hthen hname
    rw [hq, Option.some.injEq] at hq'
    subst hq'
    rw [settingsFor_of_get? hentry, settingsFor_of_get? hentry']
    exact hsettings p.name hname q s s' hq hs hs'

end

/-! ## The records of a load -/

/-- Selected plugins are recorded with their completed entries. -/
theorem recorded_of_selected {name : String} {p : Plugin}
    (hselect : (l.select [] config enabled).outcome = .ok plugins) (hmem : name ∈ enabled)
    (hp : l.get? name = some p) :
    l.Recorded config (l.load enabled config).config name
      (loadedPlugin (l.load enabled config).config p) := by
  obtain ⟨p', s, hp', hs, hentry⟩ := get?_select_of_selected hselect hmem
  rw [hp, Option.some.injEq] at hp'
  subst hp'
  rw [load_config]
  refine ⟨p, s, hp, hs, hentry, ?_⟩
  unfold loadedPlugin
  rw [name_of_get? hp, settingsFor_of_get? hentry]

theorem forall₂_get?_iff :
    enabled.map l.get? = plugins.map some ↔
      List.Forall₂ (fun name p => l.get? name = some p) enabled plugins := by
  rw [← List.forall₂_eq_eq_eq, List.forall₂_map_left_iff, List.forall₂_map_right_iff]

/-- The plugins that enabled names stand for. -/
def enabledPlugins (l : Loader) (enabled : List String) : List Plugin := enabled.filterMap l.get?

/-- What names stand for, if each of them stands for something. -/
theorem filterMap_eq_of_map_eq {α β : Type} {f : α → Option β} {names : List α} {found : List β}
    (h : names.map f = found.map some) : names.filterMap f = found := by
  have hmap : (names.map f).filterMap id = (found.map some).filterMap id := by rw [h]
  rw [List.filterMap_map, List.filterMap_map] at hmap
  exact hmap.trans List.filterMap_some

theorem enabledPlugins_of_selected (h : enabled.map l.get? = plugins.map some) :
    l.enabledPlugins enabled = plugins :=
  filterMap_eq_of_map_eq h

theorem records_of_load {loaded : Loaded} (h : (l.load enabled config).outcome = .ok loaded) :
    List.Forall₂ (l.Recorded config (l.load enabled config).config) enabled loaded.plugins := by
  obtain ⟨plugins, hselect, hready, rfl⟩ := load_ok h
  obtain ⟨-, hplugins⟩ := loadable_of_selected hselect hready
  rw [assembled, List.forall₂_map_right_iff]
  -- Every pair of a name and its plugin keeps that the name is enabled.
  have hpairs := (List.forall₂_and_left enabled plugins).mpr
    ⟨fun name (hmem : name ∈ enabled) => hmem, forall₂_get?_iff.mp hplugins⟩
  exact hpairs.imp fun name p hpair => recorded_of_selected hselect hpair.1 hpair.2

/-! ## Main theorem -/

/-- **What a load decides.**  It succeeds exactly when the enabled names are
    distinct and installed, every plugin is accepted with the settings that
    were configured at the start, and every plugin registers what it
    contributes.  It fails exactly with the first fault.  On success the
    records are those of the enabled names, in their order. -/
theorem load_decides (l : Loader) (enabled : List String) (config : Table Settings) :
    ((∃ loaded, (l.load enabled config).outcome = .ok loaded) ↔ l.Loadable config enabled) ∧
    (∀ e, (l.load enabled config).outcome = .error e ↔ l.FirstFault config enabled e) ∧
    (∀ loaded, (l.load enabled config).outcome = .ok loaded →
      List.Forall₂ (l.Recorded config (l.load enabled config).config)
        enabled loaded.plugins) := by
  have hok : ∀ loaded, (l.load enabled config).outcome = .ok loaded →
      l.Loadable config enabled := by
    intro loaded h
    obtain ⟨plugins, hselect, hready, -⟩ := load_ok h
    exact (loadable_of_selected hselect hready).1
  refine ⟨⟨fun ⟨loaded, h⟩ => hok loaded h, fun hloadable => ?_⟩,
    fun e => ⟨firstFault_of_load, fun hfirst => ?_⟩, fun loaded => records_of_load⟩
  · cases houtcome : (l.load enabled config).outcome with
    | ok loaded => exact ⟨loaded, rfl⟩
    | error e => exact absurd hloadable (firstFault_of_load houtcome).not_loadable
  · cases houtcome : (l.load enabled config).outcome with
    | ok loaded => exact absurd (hok loaded houtcome) hfirst.not_loadable
    | error e' => rw [(firstFault_of_load houtcome).unique hfirst]

end Loader

end PluginHost
