import PluginHost.Proofs.SettingsFrame
import PluginHost.Proofs.Steps

/-! # Validating settings in place

    A host that validates a plugin holds the settings of the user and lets the
    three steps write to them.  What a step has written is not taken back when
    a later one fails, so a table that is refused is the given one only
    because every check stands in front of the first write.

    An accepted table answers with the user's value, or else with the default.
    Defaults are never read by the checks: they satisfy no requirement, a
    table that was completed is accepted as it is, and so is every larger one.

    Main theorem: `validateHeld_merges`. -/

namespace PluginHost

open Toml (Settings)

namespace Descriptor

variable {d : Descriptor} {given after larger : Settings} {host : String} {e : ConfigurationError}

/-! ## Settings that are held -/

/-- A step on the settings that are held.  It may fail, and what was written
    until then stays. -/
abbrev HeldStep : Type → Type := ExceptT ConfigurationError (StateM Settings)

/-- A check reads what is held and writes nothing. -/
def checkHeld (check : Settings → Except ConfigurationError Unit) : HeldStep Unit :=
  ExceptT.mk do
    let held ← get
    pure (check held)

/-- Write the defaults one after the other. -/
def fillHeld : Entries Toml.Value → HeldStep Unit
  | [] => pure ()
  | default :: rest => do
    modify fun held => addDefault held default
    fillHeld rest

/-- The steps of a validation, in their order. -/
def validateSteps (d : Descriptor) (host : String) : HeldStep Unit := do
  checkHeld fun _ => d.checkBounds host
  checkHeld d.checkRequired
  fillHeld d.defaultSettings.entries

/-- Validate the settings that are held: the outcome, and the settings that
    are held then. -/
def validateHeld (d : Descriptor) (host : String) (given : Settings) :
    Except ConfigurationError Unit × Settings :=
  (d.validateSteps host).run.run given

/-- Later steps run, on the same settings, only if a check passes. -/
theorem checkHeld_bind (check : Settings → Except ConfigurationError Unit)
    (later : Unit → HeldStep Unit) (given : Settings) :
    (checkHeld check >>= later).run.run given =
      match check given with
      | .ok () => (later ()).run.run given
      | .error e => (.error e, given) := by
  show (ExceptT.bindCont later (check given)).run given = _
  cases check given with
  | error e => rfl
  | ok u => rfl

/-- Every default finds what the ones in front of it have written. -/
theorem fillHeld_run (defaults : Entries Toml.Value) (given : Settings) :
    (fillHeld defaults).run.run given = (.ok (), defaults.foldl addDefault given) := by
  induction defaults generalizing given with
  | nil => rfl
  | cons default rest ih => exact ih (addDefault given default)

/-- Held or handed over, a table gets the same answer, and what is held only
    changes when the plugin is accepted. -/
theorem validateHeld_eq (d : Descriptor) (host : String) (given : Settings) :
    d.validateHeld host given =
      match d.validate given host with
      | .ok after => (.ok (), after)
      | .error e => (.error e, given) := by
  unfold validateHeld validateSteps validate
  rw [checkHeld_bind]
  cases d.checkBounds host with
  | error e => rfl
  | ok u =>
    show (checkHeld d.checkRequired >>= fun _ => _).run.run given = _
    rw [checkHeld_bind]
    cases d.checkRequired given with
    | error e => rfl
    | ok u => exact fillHeld_run d.defaultSettings.entries given

theorem validateHeld_of_ok (h : d.validate given host = .ok after) :
    d.validateHeld host given = (.ok (), after) := by
  rw [validateHeld_eq, h]

theorem validateHeld_of_error (h : d.validate given host = .error e) :
    d.validateHeld host given = (.error e, given) := by
  rw [validateHeld_eq, h]

/-! ## Which settings are accepted -/

/-- The host version is within the bounds, and the user gives all that is
    required. -/
structure Accepts (d : Descriptor) (host : String) (given : Settings) : Prop where
  bounds   : d.checkBounds host = .ok ()
  required : ∀ key ∈ d.requiredSettings, given.contains key = true

/-- Why settings are refused: the bounds are judged first, and of the required
    settings it is the first one that is not given. -/
inductive Refusal (d : Descriptor) (host : String) (given : Settings) :
    ConfigurationError → Prop where
  | bounds {e : ConfigurationError} (h : d.checkBounds host = .error e) : Refusal d host given e
  | missing {front back : List String} {setting : String}
      (hbounds : d.checkBounds host = .ok ())
      (hrequired : d.requiredSettings = front ++ setting :: back)
      (hfront : ∀ key ∈ front, given.contains key = true)
      (hsetting : given.contains setting = false) :
      Refusal d host given (.missingSetting d.name setting)

/-- The first required setting that is not given is reported. -/
theorem checkRequired_eq_error_iff :
    d.checkRequired given = .error e ↔
      ∃ front setting back, d.requiredSettings = front ++ setting :: back ∧
        (∀ key ∈ front, given.contains key = true) ∧ given.contains setting = false ∧
          .missingSetting d.name setting = e := by
  have hfind : d.checkRequired given = .error e ↔
      (d.requiredSettings.find? fun setting => !given.contains setting).map
        (.missingSetting d.name) = some e := by
    unfold checkRequired
    cases d.requiredSettings.find? fun setting => !given.contains setting <;> simp
  rw [hfind, find?_map_eq_some_iff]
  simp only [Bool.not_eq_eq_eq_not, Bool.not_false, Bool.not_true]

/-- Settings that complete the given ones are determined by them. -/
theorem Completed.eq_applyDefaults (h : d.Completed given after) :
    after = d.applyDefaults given := by
  apply Table.ext_get?
  intro key
  rw [get?_applyDefaults]
  cases hgiven : given.get? key with
  | none => exact h.filled key hgiven
  | some value => exact h.kept key value hgiven

/-- A validation succeeds with the completed settings, or fails with the
    reason for the refusal. -/
theorem validate_decided (d : Descriptor) (host : String) (given : Settings) :
    Decided (d.validate given host)
      (fun after => d.Accepts host given ∧ d.Completed given after) (d.Refusal host given) where
  ok_iff after := by
    constructor
    · intro h
      obtain ⟨hbounds, hrequired, -⟩ := validate_eq_ok_iff.mp h
      exact ⟨⟨hbounds, checkRequired_eq_ok_iff.mp hrequired⟩, completed_of_validate h⟩
    · intro ⟨haccepts, hcompleted⟩
      exact validate_eq_ok_iff.mpr ⟨haccepts.bounds, checkRequired_eq_ok_iff.mpr haccepts.required,
        hcompleted.eq_applyDefaults⟩
  error_iff e := by
    rw [validate_eq_error_iff]
    constructor
    · intro h
      rcases h with hbounds | ⟨hbounds, hrequired⟩
      · exact .bounds hbounds
      · obtain ⟨front, setting, back, hsplit, hfront, hsetting, rfl⟩ :=
          checkRequired_eq_error_iff.mp hrequired
        exact .missing hbounds hsplit hfront hsetting
    · intro h
      cases h with
      | bounds hbounds => exact .inl hbounds
      | missing hbounds hsplit hfront hsetting =>
        exact .inr ⟨hbounds,
          checkRequired_eq_error_iff.mpr ⟨_, _, _, hsplit, hfront, hsetting, rfl⟩⟩

theorem validate_applyDefaults (h : d.Accepts host given) :
    d.validate given host = .ok (d.applyDefaults given) :=
  validate_eq_ok_iff.mpr ⟨h.bounds, checkRequired_eq_ok_iff.mpr h.required, rfl⟩

/-! ## Larger tables -/

/-- Every setting of a table is one of the larger table. -/
def Extends (given larger : Settings) : Prop :=
  ∀ key value, given.get? key = some value → larger.get? key = some value

theorem Extends.contains {key : String} (h : Extends given larger)
    (hkey : given.contains key = true) : larger.contains key = true := by
  unfold Table.contains at hkey ⊢
  obtain ⟨value, hvalue⟩ := Option.isSome_iff_exists.mp hkey
  rw [h key value hvalue]
  rfl

/-- Further settings are no reason to refuse a plugin. -/
theorem Accepts.mono (h : d.Accepts host given) (hextends : Extends given larger) :
    d.Accepts host larger :=
  ⟨h.bounds, fun key hkey => hextends.contains (h.required key hkey)⟩

/-! ## Main theorem -/

/-- The outcome of a validation in place is that of the checks. -/
theorem validateHeld_outcome (d : Descriptor) (host : String) (given : Settings) :
    (d.validateHeld host given).1 = (d.validate given host).map fun _ => () := by
  rw [validateHeld_eq]
  cases d.validate given host with
  | ok after => rfl
  | error e => rfl

/-- Settings are accepted in place exactly when they are. -/
theorem validateHeld_ok_iff :
    (d.validateHeld host given).1 = .ok () ↔ d.Accepts host given := by
  rw [validateHeld_outcome]
  constructor
  · intro h
    cases hvalidate : d.validate given host with
    | ok after => exact (((validate_decided d host given).ok_iff after).mp hvalidate).1
    | error e =>
      rw [hvalidate] at h
      cases h
  · intro h
    rw [validate_applyDefaults h]
    rfl

theorem validateHeld_error_iff :
    (d.validateHeld host given).1 = .error e ↔ d.Refusal host given e := by
  rw [validateHeld_outcome, ← (validate_decided d host given).error_iff]
  cases d.validate given host with
  | ok after => simp [Except.map]
  | error e' => simp [Except.map]

/-- **Validation in place.**  It succeeds exactly when the bounds accept the
    host and the given settings hold all that is required.  A failure names
    the first check that failed, and leaves the settings alone.  A success
    completes them; the completed settings are accepted again and stay as they
    are, and every table that is larger than the given one is accepted too. -/
theorem validateHeld_merges (d : Descriptor) (host : String) (given : Settings) :
    ((d.validateHeld host given).1 = .ok () ↔ d.Accepts host given) ∧
      (∀ e, (d.validateHeld host given).1 = .error e ↔ d.Refusal host given e) ∧
      (∀ e, (d.validateHeld host given).1 = .error e → (d.validateHeld host given).2 = given) ∧
      (∀ after, d.validateHeld host given = (.ok (), after) →
        d.validate given host = .ok after ∧ d.Completed given after ∧
          (∀ key, after.contains key = (given.contains key || d.defaultSettings.contains key)) ∧
          d.validateHeld host after = (.ok (), after) ∧
          ∀ larger, Extends given larger → (d.validateHeld host larger).1 = .ok ()) := by
  refine ⟨validateHeld_ok_iff, fun e => validateHeld_error_iff, ?_, ?_⟩
  · intro e h
    rw [validateHeld_error_iff, ← (validate_decided d host given).error_iff] at h
    rw [validateHeld_of_error h]
  · intro after h
    have haccepts : d.Accepts host given := validateHeld_ok_iff.mp (congrArg Prod.fst h)
    have hvalidate := validate_applyDefaults haccepts
    have hafter : after = d.applyDefaults given := by
      rw [validateHeld_of_ok hvalidate] at h
      exact (congrArg Prod.snd h).symm
    subst hafter
    refine ⟨hvalidate, completed_of_validate hvalidate, ?_, ?_, ?_⟩
    · intro key
      unfold Table.contains
      rw [get?_applyDefaults, Option.isSome_or]
    · exact validateHeld_of_ok (validate_completed hvalidate)
    · intro larger hextends
      exact validateHeld_ok_iff.mpr (haccepts.mono hextends)

/-- A default satisfies no requirement, and it is not written either. -/
example :
    ({ name := "keyed", requiredSettings := ["token"],
       defaultSettings := Table.empty.insert "token" (.string "x") } : Descriptor).validateHeld
        "4.1.0" Table.empty =
      (.error (.missingSetting "keyed" "token"), Table.empty) := rfl

end Descriptor

end PluginHost
