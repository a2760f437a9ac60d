import PluginHost.Program
import PluginHost.Proofs.Collection
import PluginHost.Proofs.SettingsFrame

/-! # The settings of a plugin, shown and loaded

    The settings command completes a plugin's settings on its own, and a load
    completes them among those of other plugins, on a configuration that
    changes on its way.  Both come to the same: no plugin in front writes what
    the plugin reads, and no plugin behind it writes what was completed.

    When the plugin is refused, so is every load that gets to it (`Reaches`),
    for the same reason.

    Main theorem: `settings_shown_as_loaded`. -/

namespace PluginHost

open Toml (Settings)

namespace Loader

variable {l : Loader} {config : Table Settings} {front back enabled : List String}
  {name : String} {p : Plugin} {s : Settings} {e : ConfigurationError} {loaded : Loaded}

/-! ## Where a load gets to -/

/-- A load of these names and then `name` gets to `name`: it is new, and the
    names in front are distinct, available and accepted. -/
structure Reaches (l : Loader) (config : Table Settings) (front : List String) (name : String) :
    Prop where
  distinct : (front ++ [name]).Nodup
  accepted : ∀ other ∈ front, ∃ p s, l.get? other = some p ∧
    p.descriptor.validate (settingsFor config other) l.hostVersion = .ok s

theorem reaches_nil (l : Loader) (config : Table Settings) (name : String) :
    l.Reaches config [] name :=
  ⟨List.nodup_singleton name, fun _ hother => absurd hother List.not_mem_nil⟩

theorem Reaches.new (h : l.Reaches config front name) : name ∉ front := by
  intro hmem
  exact (List.nodup_append.mp h.distinct).2.2 name hmem name (List.mem_singleton_self name) rfl

/-- None of the names in front is at fault. -/
theorem Reaches.faultAt_eq_none (h : l.Reaches config front name) (i : Nat) :
    l.faultAt config front i = none := by
  revert i
  rw [faultAt_eq_none_iff]
  refine ⟨(List.nodup_append.mp h.distinct).1, ?_, ?_⟩
  · intro other hother
    obtain ⟨p, s, hp, -⟩ := h.accepted other hother
    exact get?_isSome_iff.mp (by rw [hp]; rfl)
  · intro other hother p hp
    obtain ⟨q, s, hq, hs⟩ := h.accepted other hother
    rw [hp, Option.some.injEq] at hq
    subst hq
    exact ⟨s, hs⟩

/-- And none is when more names follow. -/
theorem Reaches.faultAt_front (h : l.Reaches config front name) (back : List String) {i : Nat}
    (hi : i < front.length) : l.faultAt config (front ++ name :: back) i = none := by
  have hfront : (front ++ name :: back).take front.length = front := List.take_left
  rw [← faultAt_take hi, hfront]
  exact h.faultAt_eq_none i

theorem load_of_firstFault {e : LoadError} (h : l.FirstFault config enabled e) :
    (l.load enabled config).outcome = .error e := by
  cases houtcome : (l.load enabled config).outcome with
  | ok loaded => exact absurd (loadable_of_load houtcome) h.not_loadable
  | error e' => rw [(firstFault_of_load houtcome).unique h]

/-- A load that gets to a plugin fails for it exactly if it is refused. -/
theorem Reaches.load_eq_error_iff (h : l.Reaches config front name) (hp : l.get? name = some p)
    (back : List String) :
    (l.load (front ++ name :: back) config).outcome = .error ⟨name, .configuration e⟩ ↔
      p.descriptor.validate (settingsFor config name) l.hostVersion = .error e := by
  constructor
  · intro hload
    -- Wherever the fault is, the plugin is judged by its settings at the start.
    cases firstFault_of_load hload with
    | selecting _ hhere hfault =>
      rw [faultAt_of_getElem? hhere, nameFault_eq_configuration_iff] at hfault
      obtain ⟨-, q, hq, hrefused⟩ := hfault
      rw [hp, Option.some.injEq] at hq
      rwa [hq]
  · intro hrefused
    have hhere : (front ++ name :: back)[front.length]? = some name := by simp
    refine load_of_firstFault (.selecting (fun i hi => h.faultAt_front back hi) hhere ?_)
    rw [faultAt_append_cons]
    exact nameFault_eq_configuration_iff.mpr ⟨h.new, p, hp, hrefused⟩

/-! ## What is recorded -/

/-- A record of a load is that of the plugin with its name. -/
theorem record_of_load (h : (l.load enabled config).outcome = .ok loaded)
    (hp : l.get? name = some p) {record : LoadedPlugin} (hrecord : record ∈ loaded.plugins)
    (hname : record.name = name) :
    p.descriptor.validate (settingsFor config name) l.hostVersion = .ok record.settings := by
  obtain ⟨plugins, hselect, hready, hloaded⟩ := load_ok h
  have hplugins := (loadable_of_selected hselect hready).2
  rw [hloaded] at hrecord
  obtain ⟨q, hq, rfl⟩ := List.mem_map.mp hrecord
  obtain ⟨henabled, hget⟩ := mem_of_selected hplugins hq
  subst hname
  rw [show l.get? q.name = some p from hp, Option.some.injEq] at hget
  subst hget
  exact settings_of_load h henabled hp

theorem exists_record_of_load (h : (l.load enabled config).outcome = .ok loaded)
    (hname : name ∈ enabled) : ∃ record ∈ loaded.plugins, record.name = name := by
  obtain ⟨plugins, hselect, hready, rfl⟩ := load_ok h
  have hplugins := (loadable_of_selected hselect hready).2
  rw [← names_of_selected hplugins] at hname
  obtain ⟨q, hq, rfl⟩ := List.mem_map.mp hname
  exact ⟨_, List.mem_map_of_mem hq, rfl⟩

/-- When a plugin is refused, none is asked to register anything. -/
theorem load_of_refused
    (h : (l.load enabled config).outcome = .error ⟨name, .configuration e⟩) :
    (l.load enabled config).started = [] ∧ (l.load enabled config).log = [] := by
  rw [load_outcome] at h
  cases hselect : (l.select [] config enabled).outcome with
  | error e' => simp [load, hselect]
  | ok plugins =>
    -- Plugins that were selected can only fail for what they contribute.
    rw [hselect] at h
    cases hready : plugins.findSome? readyError with
    | none => simp [Except.bind, assemble, hready] at h
    | some e' =>
      obtain ⟨q, -, hq⟩ := List.exists_of_findSome?_eq_some hready
      obtain ⟨v, -, rfl⟩ := Option.map_eq_some_iff.mp hq
      simp [Except.bind, assemble, hready] at h

end Loader

/-! ## Main theorem -/

namespace Program

variable {config : HostConfig} {l : Loader} {name : String} {p : Plugin} {s : Settings}
  {e : ConfigurationError}

/-- The configuration with other enabled names. -/
def enabling (config : HostConfig) (names : List String) : HostConfig :=
  { config with plugins := names }

/-- What the settings command says about a plugin, and what loads say. -/
structure SettingsAgree (config : HostConfig) (l : Loader) (name : String) (p : Plugin) :
    Prop where
  /-- There are completed settings unless the plugin is refused by loads. -/
  accepted : (∃ s, resolvedSettings config p = .ok s) ↔
    ∀ front back, l.Reaches config.pluginsConfig front name → ∀ e,
      (l.load (front ++ name :: back) config.pluginsConfig).outcome ≠
        .error ⟨name, .configuration e⟩
  /-- Every load that gets to a refused plugin fails for the same reason. -/
  refused  : ∀ front back, l.Reaches config.pluginsConfig front name → ∀ e,
    (l.load (front ++ name :: back) config.pluginsConfig).outcome =
      .error ⟨name, .configuration e⟩ ↔ resolvedSettings config p = .error e
  /-- Whatever else is loaded, the plugin is recorded with these settings. -/
  recorded : ∀ enabled loaded,
    (l.load enabled config.pluginsConfig).outcome = .ok loaded → name ∈ enabled →
      (∃ record ∈ loaded.plugins, record.name = name) ∧
      ∀ record ∈ loaded.plugins, record.name = name →
        resolvedSettings config p = .ok record.settings
  /-- The command prints the settings. -/
  shown    : ∀ s, resolvedSettings config p = .ok s →
    execute config l (.settings name) = { stdout := Toml.documentText s.entries }
  /-- Or it fails with the reason, and a check that gets to the plugin does so
      on its behalf. -/
  reported : ∀ e, resolvedSettings config p = .error e →
    execute config l (.settings name) = failed e.message ∧
    ∀ front back, l.Reaches config.pluginsConfig front name →
      execute (enabling config (front ++ name :: back)) l .check =
        failed ("failed to load plugin '" ++ name ++ "': " ++ e.message)

theorem execute_settings (hp : l.get? name = some p) :
    execute config l (.settings name) =
      match resolvedSettings config p with
      | .error e => failed e.message
      | .ok s => { stdout := Toml.documentText s.entries } := by
  cases hresolved : resolvedSettings config p <;> simp only [execute, hp, hresolved]

/-- A check fails with the message of the load. -/
theorem execute_check_of_refused {names : List String}
    (h : (l.load names config.pluginsConfig).outcome = .error ⟨name, .configuration e⟩) :
    execute (enabling config names) l .check =
      failed ("failed to load plugin '" ++ name ++ "': " ++ e.message) := by
  have hlog := (Loader.load_of_refused h).2
  show withLoaded (enabling config names) l _ = _
  simp only [withLoaded, enabling, h, hlog]
  rfl

/-- **The settings command agrees with loading.**  On a host of the configured
    version, the command completes the settings of an available plugin exactly
    if loads accept the plugin, and then to the ones that every load records,
    whatever else is enabled.  If it fails, every load that gets to the plugin
    fails with the same reason. -/
theorem settings_shown_as_loaded (hhost : l.hostVersion = config.hostVersion)
    (hp : l.get? name = some p) : SettingsAgree config l name p := by
  have hname : p.name = name := Loader.name_of_get? hp
  have hresolved : resolvedSettings config p =
      p.descriptor.validate (Loader.settingsFor config.pluginsConfig name) l.hostVersion := by
    rw [resolvedSettings, hname, hhost]
  have hrefused : ∀ front back, l.Reaches config.pluginsConfig front name → ∀ e,
      (l.load (front ++ name :: back) config.pluginsConfig).outcome =
        .error ⟨name, .configuration e⟩ ↔ resolvedSettings config p = .error e := by
    intro front back hreaches e
    rw [hresolved]
    exact hreaches.load_eq_error_iff hp back
  refine ⟨⟨?_, ?_⟩, hrefused, ?_, ?_, ?_⟩
  · rintro ⟨s, hs⟩ front back hreaches e hload
    rw [(hrefused front back hreaches e).mp hload] at hs
    cases hs
  · intro hnever
    cases hcase : resolvedSettings config p with
    | ok s => exact ⟨s, rfl⟩
    | error e =>
      -- The load of the plugin alone would have failed.
      have halone := Loader.reaches_nil l config.pluginsConfig name
      exact absurd ((hrefused [] [] halone e).mpr hcase) (hnever [] [] halone e)
  · intro enabled loaded hload henabled
    refine ⟨Loader.exists_record_of_load hload henabled, fun record hrecord hsame => ?_⟩
    rw [hresolved]
    exact Loader.record_of_load hload hp hrecord hsame
  · intro s hs
    rw [execute_settings hp, hs]
  · intro e he
    refine ⟨by rw [execute_settings hp, he], fun front back hreaches => ?_⟩
    exact execute_check_of_refused ((hrefused front back hreaches e).mpr he)

/-! ### A plugin that is accepted, and one that is refused -/

/-- Settings for the plugin that has a default, and none for the one that
    needs a setting. -/
def timedConfig : HostConfig :=
  { pluginsConfig :=
      Table.empty.insert "timed" (Table.empty.insert "zone" (.string "utc")) }

/-- The first plugin of the host is shown with its default filled in, and every
    load that gets to the second one fails as its command does. -/
theorem settings_shown_as_loaded_needy :
    Loader.needy.hostVersion = timedConfig.hostVersion ∧
      (∃ p, Loader.needy.get? "timed" = some p ∧
        resolvedSettings timedConfig p = .ok ((Table.empty.insert "zone" (.string "utc")).insert
          "timeout" (.integer 30)) ∧
        SettingsAgree timedConfig Loader.needy "timed" p) ∧
      ∃ p, Loader.needy.get? "keyed" = some p ∧
        resolvedSettings timedConfig p = .error (.missingSetting "keyed" "token") ∧
        Loader.needy.Reaches timedConfig.pluginsConfig ["timed"] "keyed" ∧
        SettingsAgree timedConfig Loader.needy "keyed" p :=
  ⟨rfl, ⟨_, rfl, rfl, settings_shown_as_loaded rfl rfl⟩,
    _, rfl, rfl, ⟨by decide, by simpa using ⟨_, rfl, _, rfl⟩⟩, settings_shown_as_loaded rfl rfl⟩

end Program

end PluginHost
