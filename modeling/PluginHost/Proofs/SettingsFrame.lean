import PluginHost.Proofs.Loading

/-! # What a load does to the settings

    A load scans the enabled names from the front and stops at the first one
    that is at fault.  The settings of the names in front of it are completed,
    the entry of a plugin that is refused there becomes explicit, and no other
    entry is written.  In turn, no entry is read but those of the enabled
    names.

    Main theorem: `load_frame`. -/

namespace PluginHost

open Toml (Settings)

/-- The settings `after` are those that were `given`, with a default for every
    key that was missing and has one. -/
structure Descriptor.Completed (d : Descriptor) (given after : Settings) : Prop where
  kept   : ∀ key value, given.get? key = some value → after.get? key = some value
  filled : ∀ key, given.get? key = none → after.get? key = d.defaultSettings.get? key

theorem Descriptor.completed_of_validate {d : Descriptor} {given after : Settings} {host : String}
    (h : d.validate given host = .ok after) : d.Completed given after := by
  obtain ⟨-, -, rfl⟩ := validate_eq_ok_iff.mp h
  constructor
  · intro key value hkey
    rw [get?_applyDefaults, hkey]
    rfl
  · intro key hkey
    rw [get?_applyDefaults, hkey]
    rfl

namespace Loader

variable {l : Loader} {config initial : Table Settings} {before front enabled : List String}
  {plugins : List Plugin} {name : String} {fault : LoadFault} {i : Nat}

/-! ## Where the scan stops -/

/-- How many enabled names are scanned without a fault, from the front. -/
def scanned (l : Loader) (config : Table Settings) (enabled : List String) : Nat :=
  (List.range enabled.length).findIdx fun i => (l.faultAt config enabled i).isSome

/-- The enabled names in front of the first one that is at fault. -/
def passed (l : Loader) (config : Table Settings) (enabled : List String) : List String :=
  enabled.take (l.scanned config enabled)

theorem faultAt_of_lt_scanned (h : i < l.scanned config enabled) :
    l.faultAt config enabled i = none := by
  have hnot := List.not_of_lt_findIdx h
  simpa using hnot

/-- Unless all names were scanned, the next one is at fault. -/
theorem exists_faultAt_scanned (h : enabled[l.scanned config enabled]? = some name) :
    ∃ fault, l.faultAt config enabled (l.scanned config enabled) = some fault := by
  have hlt : (List.range enabled.length).findIdx
      (fun i => (l.faultAt config enabled i).isSome) < (List.range enabled.length).length := by
    rw [List.length_range]
    exact (List.getElem?_eq_some_iff.mp h).1
  have hfound := List.findIdx_getElem (w := hlt)
  rw [List.getElem_range] at hfound
  exact Option.isSome_iff_exists.mp hfound

/-! ## The names in front -/

theorem faultAt_take {k : Nat} (h : i < k) :
    l.faultAt config (enabled.take k) i = l.faultAt config enabled i := by
  unfold faultAt
  rw [List.getElem?_take_of_lt h, List.take_take, Nat.min_eq_left (Nat.le_of_lt h)]

/-- Names without a fault are all selected. -/
theorem select_passed (l : Loader) (config : Table Settings) (enabled : List String) :
    ∃ plugins, (l.select [] config (l.passed config enabled)).outcome = .ok plugins := by
  have hverdict := select_verdict l config (l.passed config enabled) [] config (fun _ _ => rfl)
  cases houtcome : (l.select [] config (l.passed config enabled)).outcome with
  | ok plugins => exact ⟨plugins, rfl⟩
  | error e =>
    rw [houtcome] at hverdict
    obtain ⟨i, -, -, hname, hfault⟩ := hverdict
    rw [List.nil_append] at hname hfault
    have hi : i < l.scanned config enabled := by
      have hlen := (List.getElem?_eq_some_iff.mp hname).1
      rw [passed, List.length_take] at hlen
      omega
    rw [passed, faultAt_take hi, faultAt_of_lt_scanned hi] at hfault
    cases hfault

/-- After names that were all selected, the selection goes on with the settings
    that they left behind. -/
theorem config_select_append (h : (l.select before config front).outcome = .ok plugins)
    (rest : List String) :
    (l.select before config (front ++ rest)).config =
      (l.select (before ++ front) (l.select before config front).config rest).config := by
  induction front generalizing before config plugins with
  | nil =>
    rw [List.append_nil]
    rfl
  | cons name front ih =>
    cases hfault : l.nameFault config before name with
    | some fault =>
      rw [select_cons_of_nameFault hfault] at h
      cases h
    | none =>
      obtain ⟨hnew, p, s, hp, hs⟩ := nameFault_eq_none_iff.mp hfault
      rw [select_cons_of_pass hnew hp hs] at h ⊢
      rw [List.cons_append, select_cons_of_pass hnew hp hs]
      cases hlater : (l.select (before ++ [name]) (config.insert name s) front).outcome with
      | error e =>
        rw [hlater] at h
        cases h
      | ok later =>
        have hrest := ih hlater
        rwa [List.append_assoc, List.singleton_append] at hrest

/-- The settings that the names in front of the fault leave behind. -/
def frontConfig (l : Loader) (config : Table Settings) (enabled : List String) :
    Table Settings :=
  (l.select [] config (l.passed config enabled)).config

theorem get?_frontConfig (h : name ∉ l.passed config enabled) :
    (l.frontConfig config enabled).get? name = config.get? name :=
  get?_select_of_not_selected l _ [] config name (.inr h)

/-- The rest of the names is selected after those in front. -/
theorem config_select_eq (l : Loader) (config : Table Settings) (enabled : List String) :
    (l.select [] config enabled).config =
      (l.select (l.passed config enabled) (l.frontConfig config enabled)
        (enabled.drop (l.scanned config enabled))).config := by
  obtain ⟨plugins, hfront⟩ := select_passed l config enabled
  have hsplit := config_select_append hfront (enabled.drop (l.scanned config enabled))
  rwa [passed, List.take_append_drop, List.nil_append] at hsplit

/-! ## The name at fault -/

/-- When all names pass, they leave the settings as the names in front do. -/
theorem config_select_of_end (h : enabled[l.scanned config enabled]? = none) :
    (l.select [] config enabled).config = l.frontConfig config enabled := by
  rw [config_select_eq, List.drop_eq_nil_of_le (List.getElem?_eq_none_iff.mp h)]
  rfl

/-- The name at fault leaves the settings as it does behind the names in
    front. -/
theorem config_select_of_fault (hname : enabled[l.scanned config enabled]? = some name)
    (hfault : l.faultAt config enabled (l.scanned config enabled) = some fault) :
    (l.select [] config enabled).config =
      afterFault (l.frontConfig config enabled) name fault := by
  have hdrop : enabled.drop (l.scanned config enabled) =
      name :: enabled.drop (l.scanned config enabled + 1) := by
    obtain ⟨hlt, hget⟩ := List.getElem?_eq_some_iff.mp hname
    rw [List.drop_eq_getElem_cons hlt, hget]
  -- The names in front do not write what the name at fault reads.
  have hverdict : l.nameFault (l.frontConfig config enabled) (l.passed config enabled) name =
      some fault := by
    rw [← hfault, faultAt_of_getElem? hname]
    apply nameFault_congr
    intro hnew
    unfold settingsFor
    rw [get?_frontConfig hnew]
  rw [config_select_eq, hdrop, select_cons_of_nameFault hverdict]

/-- Is the scan stopped at this name because its plugin is refused? -/
def Refuses (l : Loader) (config : Table Settings) (enabled : List String) (name : String) :
    Prop :=
  enabled[l.scanned config enabled]? = some name ∧
    ∃ e, l.faultAt config enabled (l.scanned config enabled) = some (.configuration e)

/-- A plugin is only refused under a name that is new. -/
theorem Refuses.not_passed (h : l.Refuses config enabled name) :
    name ∉ l.passed config enabled := by
  obtain ⟨hname, e, hfault⟩ := h
  rw [faultAt_of_getElem? hname] at hfault
  exact (nameFault_eq_configuration_iff.mp hfault).1

/-! ## What is left of the settings -/

/-- What the names leave of the configured settings. -/
structure Residue (l : Loader) (enabled : List String) (config after : Table Settings) :
    Prop where
  /-- The plugins in front of the fault have completed settings. -/
  completed : ∀ name ∈ l.passed config enabled,
    ∃ p s, l.get? name = some p ∧ after.get? name = some s ∧
      p.descriptor.Completed (settingsFor config name) s
  /-- A plugin that is refused keeps its entry, or has an empty one now. -/
  refused : ∀ name, l.Refuses config enabled name →
    after.get? name = some ((config.get? name).getD Table.empty)
  /-- All other entries are as they were, and there are no new ones. -/
  unchanged : ∀ name, name ∉ l.passed config enabled → ¬l.Refuses config enabled name →
    after.get? name = config.get? name

/-- A fault writes nothing for a name whose plugin is not refused. -/
theorem get?_afterFault {other : String}
    (h : name = other → ∀ e, fault ≠ .configuration e) :
    (afterFault config name fault).get? other = config.get? other := by
  by_cases hname : name = other
  · cases fault with
    | configuration e => exact absurd rfl (h hname e)
    | contract v => rfl
    | notInstalled => rfl
    | duplicate => rfl
    | manifest reason => rfl
  · exact get?_afterFault_ne config fault hname

theorem select_residue (l : Loader) (enabled : List String) (config : Table Settings) :
    l.Residue enabled config (l.select [] config enabled).config := by
  constructor
  · intro name hmem
    obtain ⟨plugins, hfront⟩ := select_passed l config enabled
    obtain ⟨p, s, hp, hs, hentry⟩ := get?_select_of_selected hfront hmem
    refine ⟨p, s, hp, ?_, Descriptor.completed_of_validate hs⟩
    rw [config_select_eq, get?_select_of_not_selected l _ _ _ name (.inl hmem)]
    exact hentry
  · intro name hrefused
    have hnew := hrefused.not_passed
    obtain ⟨hname, e, hfault⟩ := hrefused
    rw [config_select_of_fault hname hfault, afterFault, Table.get?_insert_self, settingsFor,
      get?_frontConfig hnew]
  · intro name hnew hrefused
    cases hstop : enabled[l.scanned config enabled]? with
    | none => rw [config_select_of_end hstop, get?_frontConfig hnew]
    | some other =>
      obtain ⟨fault, hfault⟩ := exists_faultAt_scanned hstop
      rw [config_select_of_fault hstop hfault, get?_afterFault, get?_frontConfig hnew]
      intro heq e hconfiguration
      rw [heq] at hstop
      rw [hconfiguration] at hfault
      exact hrefused ⟨hstop, e, hfault⟩

/-! ## What is read of the settings -/

/-- Two configurations have the same settings for some names, where no entry
    counts as an empty one. -/
def AgreeOn (names : List String) (config initial : Table Settings) : Prop :=
  ∀ name ∈ names, settingsFor config name = settingsFor initial name

theorem AgreeOn.faultAt_eq (h : AgreeOn enabled config initial) (i : Nat) :
    l.faultAt config enabled i = l.faultAt initial enabled i := by
  unfold faultAt
  cases hname : enabled[i]? with
  | none => rfl
  | some name => exact nameFault_congr fun _ => h name (List.mem_of_getElem? hname)

/-! ## Main theorem -/

/-- **A load and the settings.**  It completes the settings of the plugins in
    front of the fault, makes the entry of a plugin explicit that is refused
    there, and leaves all other entries alone.  Configurations that agree on
    the enabled names get the same answer. -/
theorem load_frame (l : Loader) (enabled : List String) (config : Table Settings) :
    l.Residue enabled config (l.load enabled config).config ∧
      ∀ initial, AgreeOn enabled config initial →
        (l.load enabled config).outcome = (l.load enabled initial).outcome := by
  constructor
  · rw [load_config]
    exact select_residue l enabled config
  · intro initial hagree
    refine load_outcome_congr hagree.faultAt_eq ?_
    intro name hname p s s' hp hs hs'
    rw [hagree name hname, hs', Except.ok.injEq] at hs
    exact hs.symm

/-! ### A plugin that is refused behind another -/

/-- A plugin with a default, and one that needs a setting. -/
def needy : Loader :=
  ⟨"4.1.0",
    [⟨{ name := "timed", defaultSettings := Table.empty.insert "timeout" (.integer 30) }, []⟩,
     ⟨{ name := "keyed", requiredSettings := ["token"] }, []⟩]⟩

/-- Settings of a plugin that is not enabled. -/
def spareConfig : Table Settings :=
  Table.empty.insert "spare" (Table.empty.insert "token" (.string "x"))

/-- The plugin in front gets its default, the one that is refused an empty
    entry, and the settings of the spare one stay.  With an empty entry at the
    start the answer is the same. -/
theorem load_frame_refused :
    needy.scanned spareConfig ["timed", "keyed", "timed"] = 1 ∧
      needy.Refuses spareConfig ["timed", "keyed", "timed"] "keyed" ∧
      (needy.load ["timed", "keyed", "timed"] spareConfig).config =
        ((spareConfig.insert "timed" (Table.empty.insert "timeout" (.integer 30))).insert
          "keyed" Table.empty) ∧
      needy.Residue ["timed", "keyed", "timed"] spareConfig
        (needy.load ["timed", "keyed", "timed"] spareConfig).config ∧
      (needy.load ["timed", "keyed", "timed"] spareConfig).outcome =
        (needy.load ["timed", "keyed", "timed"]
          (spareConfig.insert "keyed" Table.empty)).outcome := by
  have hagree : AgreeOn ["timed", "keyed", "timed"] spareConfig
      (spareConfig.insert "keyed" Table.empty) := by
    intro name _
    exact (settingsFor_insert_settingsFor spareConfig "keyed" name).symm
  exact ⟨by decide +kernel, ⟨rfl, _, rfl⟩, rfl,
    (load_frame needy ["timed", "keyed", "timed"] spareConfig).1,
    (load_frame needy ["timed", "keyed", "timed"] spareConfig).2 _ hagree⟩

end Loader

end PluginHost
