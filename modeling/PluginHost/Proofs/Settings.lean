import PluginHost.Loader

/-! # Completing settings

    What a validated plugin's settings look like.  The completed table answers
    every key with the user's value, or else with the default
    (`get?_applyDefaults`), so completing it once more changes nothing.

    Requirements are judged before the defaults are filled in.  A table that
    passed is therefore passed again once it is completed
    (`validate_completed`), while a table that was refused is never touched. -/

namespace PluginHost

open Toml (Settings)

/-- The fault is about versions, and not about settings. -/
def ConfigurationError.AboutVersions : ConfigurationError → Prop
  | .missingSetting _ _ => False
  | _ => True

namespace Descriptor

variable {d : Descriptor} {s t : Settings} {host key : String}

/-! ## Filling in defaults -/

/-- A default answers its own key, and only where there was no answer. -/
theorem get?_addDefault (s : Settings) (e : String × Toml.Value) (key : String) :
    (addDefault s e).get? key = (s.get? key).or (if e.1 = key then some e.2 else none) := by
  unfold addDefault
  by_cases hkey : e.1 = key
  · subst hkey
    cases hs : s.get? e.1 <;> simp [Table.contains, hs]
  · by_cases hin : s.contains e.1 = true
    · simp [hin, hkey]
    · simp [hin, hkey, Table.get?_insert]

/-- Defaults one after the other: the first answer stays. -/
theorem get?_foldl_addDefault (entries : Entries Toml.Value) (s : Settings) (key : String) :
    (entries.foldl addDefault s).get? key = (s.get? key).or (entries.get? key) := by
  induction entries generalizing s with
  | nil => simp
  | cons e rest ih =>
    obtain ⟨k, v⟩ := e
    rw [List.foldl_cons, ih, get?_addDefault, Entries.get?_cons]
    by_cases hk : k = key
    · cases s.get? key <;> simp [hk]
    · simp [hk]

/-- The completed settings answer with the user's value, or with the default. -/
theorem get?_applyDefaults (d : Descriptor) (s : Settings) (key : String) :
    (d.applyDefaults s).get? key = (s.get? key).or (d.defaultSettings.get? key) :=
  get?_foldl_addDefault d.defaultSettings.entries s key

/-- Completing settings that are complete changes nothing. -/
theorem applyDefaults_applyDefaults (d : Descriptor) (s : Settings) :
    d.applyDefaults (d.applyDefaults s) = d.applyDefaults s := by
  apply Table.ext_get?
  intro key
  rw [get?_applyDefaults, get?_applyDefaults]
  cases s.get? key <;> simp

/-! ## Requirements -/

theorem checkRequired_eq_ok_iff :
    d.checkRequired s = .ok () ↔ ∀ key ∈ d.requiredSettings, s.contains key = true := by
  unfold checkRequired
  constructor
  · intro h key hkey
    cases hfind : d.requiredSettings.find? fun setting => !s.contains setting with
    | some missing => rw [hfind] at h; cases h
    | none => simpa using List.find?_eq_none.mp hfind key hkey
  · intro h
    have hfind : (d.requiredSettings.find? fun setting => !s.contains setting) = none := by
      rw [List.find?_eq_none]
      intro key hkey
      simp [h key hkey]
    rw [hfind]

/-- What is required stays given when more settings are. -/
theorem checkRequired_mono (hsub : ∀ key, s.contains key = true → t.contains key = true)
    (h : d.checkRequired s = .ok ()) : d.checkRequired t = .ok () := by
  rw [checkRequired_eq_ok_iff] at h ⊢
  intro key hkey
  exact hsub key (h key hkey)

/-- No setting is lost when the defaults are filled in. -/
theorem contains_applyDefaults (h : s.contains key = true) :
    (d.applyDefaults s).contains key = true := by
  unfold Table.contains at h ⊢
  rw [get?_applyDefaults]
  cases hs : s.get? key with
  | none => rw [hs] at h; cases h
  | some v => rfl

/-! ## Validation -/

/-- A plugin is accepted when both checks pass, and then only its missing
    defaults are added. -/
theorem validate_eq_ok_iff :
    d.validate s host = .ok t ↔
      d.checkBounds host = .ok () ∧ d.checkRequired s = .ok () ∧ t = d.applyDefaults s := by
  unfold validate
  cases hbounds : d.checkBounds host with
  | error e => simp [bind, Except.bind]
  | ok u =>
    cases hrequired : d.checkRequired s with
    | error e => simp [bind, Except.bind]
    | ok u => simp [bind, Except.bind, pure, Except.pure, eq_comm]

/-- A plugin is refused with the fault of the first check that fails. -/
theorem validate_eq_error_iff {e : ConfigurationError} :
    d.validate s host = .error e ↔
      d.checkBounds host = .error e ∨
        d.checkBounds host = .ok () ∧ d.checkRequired s = .error e := by
  unfold validate
  cases hbounds : d.checkBounds host with
  | error e' => simp [bind, Except.bind]
  | ok u =>
    cases hrequired : d.checkRequired s with
    | error e' => simp [bind, Except.bind]
    | ok u => simp [bind, Except.bind, pure, Except.pure]

/-- Faults about versions are those of the check of the host. -/
theorem validate_eq_error_iff_checkBounds {e : ConfigurationError} (he : e.AboutVersions) :
    d.validate s host = .error e ↔ d.checkBounds host = .error e := by
  rw [validate_eq_error_iff]
  refine ⟨?_, .inl⟩
  rintro (hbounds | ⟨-, hrequired⟩)
  · exact hbounds
  · unfold checkRequired at hrequired
    cases hmissing : d.requiredSettings.find? fun setting => !s.contains setting with
    | none => simp [hmissing] at hrequired
    | some setting =>
      rw [hmissing, Except.error.injEq] at hrequired
      subst hrequired
      exact he.elim

/-- Completed settings are accepted again, as they are. -/
theorem validate_completed (h : d.validate s host = .ok t) : d.validate t host = .ok t := by
  obtain ⟨hbounds, hrequired, rfl⟩ := validate_eq_ok_iff.mp h
  refine validate_eq_ok_iff.mpr ⟨hbounds, ?_, (applyDefaults_applyDefaults d s).symm⟩
  exact checkRequired_mono (fun _ => contains_applyDefaults) hrequired

end Descriptor

/-! ## The settings that are configured -/

namespace Loader

theorem settingsFor_of_get? {config : Table Settings} {name : String} {s : Settings}
    (h : config.get? name = some s) : settingsFor config name = s := by
  simp [settingsFor, h]

@[simp] theorem settingsFor_insert_self (config : Table Settings) (name : String) (s : Settings) :
    settingsFor (config.insert name s) name = s := by
  simp [settingsFor]

theorem settingsFor_insert_ne (config : Table Settings) {name other : String} (s : Settings)
    (h : name ≠ other) : settingsFor (config.insert name s) other = settingsFor config other := by
  simp [settingsFor, Table.get?_insert_ne config s h]

/-- An entry that only becomes explicit is no other entry. -/
theorem settingsFor_insert_settingsFor (config : Table Settings) (name other : String) :
    settingsFor (config.insert name (settingsFor config name)) other = settingsFor config other := by
  by_cases h : name = other
  · rw [h, settingsFor_insert_self]
  · exact settingsFor_insert_ne config _ h

end Loader

end PluginHost
