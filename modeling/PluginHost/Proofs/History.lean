import PluginHost.Proofs.Loading

/-! # Loads that follow each other

    Loads share the configured settings and change them: a load that succeeds
    completes them, and one that fails leaves behind what it completed before
    its fault.  None of this shows in a later answer.  Completed settings get
    the verdicts that they got before (`Completes.faultAt_eq`) and complete to
    the same settings, so each load answers as if it were the first one.

    Main theorem: `loads_independent`. -/

namespace PluginHost

open Toml (Settings)

namespace Loader

variable {l : Loader} {config initial : Table Settings} {before enabled : List String}

/-- Loads one after the other, each on the settings that the one before it
    left behind. -/
def loads (l : Loader) (config : Table Settings) : List (List String) → List Load
  | [] => []
  | enabled :: rest => l.load enabled config :: l.loads (l.load enabled config).config rest

/-! ## The same load again -/

/-- A selection finds the settings that it left behind as it left them, and
    answers as before. -/
theorem select_again (l : Loader) (names before : List String) (config : Table Settings) :
    l.select before (l.select before config names).config names =
      l.select before config names := by
  induction names generalizing before config with
  | nil => rfl
  | cons name rest ih =>
    cases hfault : l.nameFault config before name with
    | some fault =>
      have hsame := settingsFor_afterFault config name name fault
      have hagain : l.nameFault (afterFault config name fault) before name = some fault := by
        rw [nameFault_congr fun _ => hsame, hfault]
      rw [select_cons_of_nameFault hfault, select_cons_of_nameFault hagain,
        afterFault_afterFault]
    | none =>
      obtain ⟨hnew, p, s, hp, hs⟩ := nameFault_eq_none_iff.mp hfault
      rw [select_cons_of_pass hnew hp hs]
      -- The entry of `name` is not touched again, so it is still the completed one.
      have hentry : (l.select (before ++ [name]) (config.insert name s) rest).config.get? name =
          some s := by
        rw [get?_select_of_not_selected l rest _ _ name (.inl (by simp)), Table.get?_insert_self]
      have hs' : p.descriptor.validate
          (settingsFor (l.select (before ++ [name]) (config.insert name s) rest).config name)
          l.hostVersion = .ok s := by
        rw [settingsFor_of_get? hentry]
        exact Descriptor.validate_completed hs
      rw [select_cons_of_pass hnew hp hs', Table.insert_of_get? hentry, ih]

/-- Repeating a load changes neither its answer nor the settings. -/
theorem load_again (l : Loader) (enabled : List String) (config : Table Settings) :
    l.load enabled (l.load enabled config).config = l.load enabled config := by
  rw [load_config]
  unfold load
  rw [select_again]

/-! ## After other loads -/

theorem load_completes (l : Loader) (enabled : List String) (config : Table Settings) :
    l.Completes config (l.load enabled config).config := by
  rw [load_config]
  exact select_completes l enabled [] config

/-- Completed settings of an accepted plugin complete to the same settings. -/
theorem Completes.validate_eq {name : String} {p : Plugin} {s s' : Settings}
    (h : l.Completes initial config) (hp : l.get? name = some p)
    (hs : p.descriptor.validate (settingsFor config name) l.hostVersion = .ok s)
    (hs' : p.descriptor.validate (settingsFor initial name) l.hostVersion = .ok s') :
    s = s' := by
  rcases h name with hsame | ⟨p', hp', hcompleted⟩
  · rw [hsame, hs', Except.ok.injEq] at hs
    exact hs.symm
  · rw [hp, Option.some.injEq] at hp'
    subst hp'
    rw [Descriptor.validate_completed hcompleted, Except.ok.injEq] at hs
    rw [hcompleted, Except.ok.injEq] at hs'
    exact hs.symm.trans hs'

/-- A load on completed settings answers what it answers on the original ones. -/
theorem Completes.load_outcome_eq (h : l.Completes initial config) (enabled : List String) :
    (l.load enabled config).outcome = (l.load enabled initial).outcome :=
  load_outcome_congr (h.faultAt_eq enabled) fun _ _ _ _ _ hp hs hs' => h.validate_eq hp hs hs'

/-! ## Main theorem -/

/-- Loads on completed settings answer what they answer on the original ones. -/
theorem Completes.loads_outcome (h : l.Completes initial config)
    (calls : List (List String)) :
    (l.loads config calls).map (·.outcome) =
      calls.map fun enabled => (l.load enabled initial).outcome := by
  induction calls generalizing config with
  | nil => rfl
  | cons enabled rest ih =>
    have hnext := h.trans (load_completes l enabled config)
    rw [loads, List.map_cons, List.map_cons, h.load_outcome_eq, ih hnext]

/-- **Loads do not see each other.**  In any series of loads that share one
    configuration, each answers what it would answer alone on the configuration
    at the start.  A load that is repeated changes nothing at all, whether it
    succeeded or failed. -/
theorem loads_independent (l : Loader) (initial : Table Settings)
    (calls : List (List String)) :
    (l.loads initial calls).map (·.outcome) =
        (calls.map fun enabled => (l.load enabled initial).outcome) ∧
      ∀ enabled config, l.load enabled (l.load enabled config).config = l.load enabled config :=
  ⟨(Completes.refl l initial).loads_outcome calls, load_again l⟩

end Loader

end PluginHost
