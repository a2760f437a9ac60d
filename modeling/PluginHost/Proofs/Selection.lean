import PluginHost.Proofs.Settings

/-! # Selecting the enabled plugins

    A selection goes through the enabled names once and completes settings on
    its way.  What it decides about a name depends only on the names before it
    and on the settings that were configured at the start (`faultAt`): names
    that pass are distinct, so no step sees what an earlier one wrote.

    `select_verdict` says what the selection answers,
    `get?_select_of_not_selected` and `get?_select_of_selected` say what it
    leaves behind. -/

namespace PluginHost

open Toml (Settings)

namespace Loader

variable {l : Loader} {config initial : Table Settings} {before enabled : List String}
  {name : String} {fault : LoadFault} {p : Plugin} {s : Settings}

/-! ## The verdict on one name -/

/-- Why a name cannot be selected after the names `before` it, by the settings
    of `config`. -/
def nameFault (l : Loader) (config : Table Settings) (before : List String) (name : String) :
    Option LoadFault :=
  if name ∈ before then some .duplicate
  else
    match l.get? name with
    | none => some .notInstalled
    | some p =>
      match p.descriptor.validate (settingsFor config name) l.hostVersion with
      | .error e => some (.configuration e)
      | .ok _ => none

/-- Why the enabled name at a position cannot be selected. -/
def faultAt (l : Loader) (config : Table Settings) (enabled : List String) (i : Nat) :
    Option LoadFault :=
  enabled[i]?.bind (l.nameFault config (enabled.take i))

theorem name_of_get? (h : l.get? name = some p) : p.name = name := by
  have hfound := List.find?_some h
  simpa using hfound

theorem get?_isSome_iff : (l.get? name).isSome = true ↔ name ∈ l.available := by
  unfold get? available
  rw [List.find?_isSome, List.mem_map]
  simp

theorem get?_eq_none_iff : l.get? name = none ↔ name ∉ l.available := by
  rw [← get?_isSome_iff, Bool.not_eq_true, Option.isSome_eq_false_iff, Option.isNone_iff_eq_none]

theorem nameFault_of_mem (h : name ∈ before) :
    l.nameFault config before name = some .duplicate := by
  simp [nameFault, h]

/-- A name passes when it is new, installed, and its plugin is accepted. -/
theorem nameFault_eq_none_iff :
    l.nameFault config before name = none ↔
      name ∉ before ∧ ∃ p s, l.get? name = some p ∧
        p.descriptor.validate (settingsFor config name) l.hostVersion = .ok s := by
  unfold nameFault
  by_cases hseen : name ∈ before
  · simp [hseen]
  · cases hp : l.get? name with
    | none => simp [hseen]
    | some p =>
      cases hs : p.descriptor.validate (settingsFor config name) l.hostVersion with
      | error e => simp [hseen, hs]
      | ok s => simp [hseen, hs]

/-- It is missing when it is new, but not installed. -/
theorem nameFault_eq_notInstalled_iff :
    l.nameFault config before name = some .notInstalled ↔
      name ∉ before ∧ name ∉ l.available := by
  rw [← get?_eq_none_iff]
  unfold nameFault
  by_cases hseen : name ∈ before
  · simp [hseen]
  · cases hp : l.get? name with
    | none => simp [hseen]
    | some p =>
      cases hs : p.descriptor.validate (settingsFor config name) l.hostVersion with
      | error e => simp [hseen, hs]
      | ok s => simp [hseen, hs]

/-- It is refused when it is new and installed, but its plugin is not
    accepted. -/
theorem nameFault_eq_configuration_iff {e : ConfigurationError} :
    l.nameFault config before name = some (.configuration e) ↔
      name ∉ before ∧ ∃ p, l.get? name = some p ∧
        p.descriptor.validate (settingsFor config name) l.hostVersion = .error e := by
  unfold nameFault
  by_cases hseen : name ∈ before
  · simp [hseen]
  · cases hp : l.get? name with
    | none => simp [hseen]
    | some p =>
      cases hs : p.descriptor.validate (settingsFor config name) l.hostVersion with
      | error e => simp [hseen, hs]
      | ok s => simp [hseen, hs]

theorem faultAt_of_getElem? {i : Nat} (h : enabled[i]? = some name) :
    l.faultAt config enabled i = l.nameFault config (enabled.take i) name := by
  rw [faultAt, h, Option.bind_some]

/-- The verdict on a new name reads no settings but its own. -/
theorem nameFault_congr
    (h : name ∉ before → settingsFor config name = settingsFor initial name) :
    l.nameFault config before name = l.nameFault initial before name := by
  unfold nameFault
  by_cases hseen : name ∈ before
  · simp [hseen]
  · rw [h hseen]

/-! ## One step -/

/-- The configuration that a fault leaves behind: the entry of a plugin that is
    refused becomes explicit, and no other fault writes anything. -/
def afterFault (config : Table Settings) (name : String) : LoadFault → Table Settings
  | .configuration _ => config.insert name (settingsFor config name)
  | _ => config

/-- A name at fault ends the selection. -/
theorem select_cons_of_nameFault (h : l.nameFault config before name = some fault)
    (rest : List String) :
    l.select before config (name :: rest) =
      ⟨afterFault config name fault, .error ⟨name, fault⟩⟩ := by
  unfold nameFault at h
  rw [select]
  by_cases hseen : name ∈ before
  · have hfault : fault = .duplicate := by simpa [hseen, eq_comm] using h
    simp [hseen, hfault, afterFault]
  · cases hp : l.get? name with
    | none =>
      have hfault : fault = .notInstalled := by simpa [hseen, hp, eq_comm] using h
      simp [hseen, hfault, afterFault]
    | some p =>
      cases hs : p.descriptor.validate (settingsFor config name) l.hostVersion with
      | error e =>
        have hfault : fault = .configuration e := by simpa [hseen, hp, hs, eq_comm] using h
        simp [hseen, hs, hfault, afterFault]
      | ok s => simp [hseen, hp, hs] at h

/-- A name that passes is selected with its settings completed, and the
    selection goes on. -/
theorem select_cons_of_pass (hnew : name ∉ before) (hp : l.get? name = some p)
    (hs : p.descriptor.validate (settingsFor config name) l.hostVersion = .ok s)
    (rest : List String) :
    l.select before config (name :: rest) =
      ⟨(l.select (before ++ [name]) (config.insert name s) rest).config,
        (l.select (before ++ [name]) (config.insert name s) rest).outcome.map (p :: ·)⟩ := by
  rw [select]
  simp [hnew, hp, hs]

theorem settingsFor_afterFault (config : Table Settings) (name other : String)
    (fault : LoadFault) :
    settingsFor (afterFault config name fault) other = settingsFor config other := by
  cases fault with
  | configuration e => exact settingsFor_insert_settingsFor config name other
  | contract v => rfl
  | notInstalled => rfl
  | duplicate => rfl
  | manifest reason => rfl

/-- A fault writes no entry but that of its own name. -/
theorem get?_afterFault_ne {other : String} (config : Table Settings) (fault : LoadFault)
    (h : name ≠ other) : (afterFault config name fault).get? other = config.get? other := by
  cases fault with
  | configuration e => exact Table.get?_insert_ne config _ h
  | contract v => rfl
  | notInstalled => rfl
  | duplicate => rfl
  | manifest reason => rfl

/-- The same fault once more writes nothing new. -/
theorem afterFault_afterFault (config : Table Settings) (name : String) (fault : LoadFault) :
    afterFault (afterFault config name fault) name fault = afterFault config name fault := by
  cases fault with
  | configuration e =>
    apply Table.insert_of_get?
    rw [settingsFor_afterFault]
    exact Table.get?_insert_self config name _
  | contract v => rfl
  | notInstalled => rfl
  | duplicate => rfl
  | manifest reason => rfl

/-! ## What a selection answers -/

/-- The answer that a selection of `names` has to give after the names
    `before`: their plugins when nothing is at fault, else the fault at the
    first position that has one. -/
def Verdict (l : Loader) (config : Table Settings) (before names : List String) :
    Except LoadError (List Plugin) → Prop
  | .ok plugins =>
    (∀ i, before.length ≤ i → l.faultAt config (before ++ names) i = none) ∧
      names.map l.get? = plugins.map some
  | .error e =>
    ∃ i, before.length ≤ i ∧
      (∀ j, before.length ≤ j → j < i → l.faultAt config (before ++ names) j = none) ∧
      (before ++ names)[i]? = some e.plugin ∧
      l.faultAt config (before ++ names) i = some e.fault

theorem faultAt_append_cons (l : Loader) (config : Table Settings) (before rest : List String)
    (name : String) :
    l.faultAt config (before ++ name :: rest) before.length = l.nameFault config before name := by
  simp [faultAt]

/-- A passing name in front only moves the positions on. -/
theorem Verdict.cons {rest : List String} {outcome : Except LoadError (List Plugin)}
    (hpass : l.nameFault config before name = none) (hp : l.get? name = some p)
    (h : l.Verdict config (before ++ [name]) rest outcome) :
    l.Verdict config before (name :: rest) (outcome.map (p :: ·)) := by
  have happend : before ++ [name] ++ rest = before ++ name :: rest := by simp
  have hlength : (before ++ [name]).length = before.length + 1 := by simp
  -- The position of `name` is the only one that `h` does not speak about.
  have hhere : l.faultAt config (before ++ name :: rest) before.length = none := by
    rw [faultAt_append_cons, hpass]
  cases outcome with
  | ok plugins =>
    obtain ⟨hclean, hplugins⟩ := h
    rw [happend, hlength] at hclean
    refine ⟨fun i hi => ?_, by simp [hp, hplugins]⟩
    by_cases hfirst : i = before.length
    · rw [hfirst, hhere]
    · exact hclean i (by omega)
  | error e =>
    obtain ⟨i, hi, hclean, hname, hfault⟩ := h
    rw [happend] at hclean hname hfault
    rw [hlength] at hi hclean
    refine ⟨i, by omega, fun j hj hji => ?_, hname, hfault⟩
    by_cases hfirst : j = before.length
    · rw [hfirst, hhere]
    · exact hclean j (by omega) hji

/-- A selection answers by the settings that were configured at the start. -/
theorem select_verdict (l : Loader) (initial : Table Settings) (names before : List String)
    (config : Table Settings)
    (hsame : ∀ name, name ∉ before → settingsFor config name = settingsFor initial name) :
    l.Verdict initial before names (l.select before config names).outcome := by
  induction names generalizing before config with
  | nil =>
    refine ⟨fun i hi => ?_, rfl⟩
    simp [faultAt, List.getElem?_eq_none hi]
  | cons name rest ih =>
    have hverdict := nameFault_congr (l := l) (hsame name)
    cases hfault : l.nameFault config before name with
    | some fault =>
      rw [select_cons_of_nameFault hfault]
      refine ⟨before.length, Nat.le_refl _, fun j hj hlt => by omega, by simp, ?_⟩
      rw [faultAt_append_cons, ← hverdict, hfault]
    | none =>
      obtain ⟨hnew, p, s, hp, hs⟩ := nameFault_eq_none_iff.mp hfault
      rw [select_cons_of_pass hnew hp hs]
      refine Verdict.cons (hverdict ▸ hfault) hp (ih (before ++ [name]) _ ?_)
      -- What was written for `name` concerns only names that are not new any more.
      intro other hother
      rw [List.mem_append, List.mem_singleton, not_or] at hother
      rw [settingsFor_insert_ne config s (Ne.symm hother.2)]
      exact hsame other hother.1

/-- Two searches from `start` find the same first position, and the same there. -/
theorem first_unique {α : Type} {f : Nat → Option α} {start i j : Nat} {a b : α}
    (hi : start ≤ i) (hbefore_i : ∀ k, start ≤ k → k < i → f k = none) (ha : f i = some a)
    (hj : start ≤ j) (hbefore_j : ∀ k, start ≤ k → k < j → f k = none) (hb : f j = some b) :
    i = j ∧ a = b := by
  have heq : i = j := by
    rcases Nat.lt_trichotomy i j with hlt | heq | hlt
    · rw [hbefore_j i hi hlt] at ha
      cases ha
    · exact heq
    · rw [hbefore_i j hj hlt] at hb
      cases hb
  subst heq
  exact ⟨rfl, Option.some.inj (ha.symm.trans hb)⟩

/-- There is only one such answer. -/
theorem Verdict.unique {names : List String} {first second : Except LoadError (List Plugin)}
    (h : l.Verdict config before names first) (h' : l.Verdict config before names second) :
    first = second := by
  cases first with
  | ok plugins =>
    cases second with
    | ok plugins' =>
      have hmap : plugins.map some = plugins'.map some := h.2.symm.trans h'.2
      rw [List.map_inj_right (fun _ _ => Option.some.inj)] at hmap
      rw [hmap]
    | error e' =>
      obtain ⟨i, hi, -, -, hfault⟩ := h'
      rw [h.1 i hi] at hfault
      cases hfault
  | error e =>
    obtain ⟨i, hi, hclean, hname, hfault⟩ := h
    cases second with
    | ok plugins' =>
      rw [h'.1 i hi] at hfault
      cases hfault
    | error e' =>
      obtain ⟨i', hi', hclean', hname', hfault'⟩ := h'
      obtain ⟨rfl, hfaults⟩ := first_unique hi hclean hfault hi' hclean' hfault'
      have hplugins : e.plugin = e'.plugin := Option.some.inj (hname.symm.trans hname')
      obtain ⟨plugin, fault⟩ := e
      obtain ⟨plugin', fault'⟩ := e'
      rw [show plugin = plugin' from hplugins, show fault = fault' from hfaults]

/-- Settings by which the same positions are at fault get the same answer. -/
theorem select_outcome_congr
    (h : ∀ i, l.faultAt config enabled i = l.faultAt initial enabled i) :
    (l.select [] config enabled).outcome = (l.select [] initial enabled).outcome := by
  have hnow := select_verdict l config enabled [] config (fun _ _ => rfl)
  have hthen := select_verdict l initial enabled [] initial (fun _ _ => rfl)
  -- The verdict by the one configuration is a verdict by the other, too.
  refine Verdict.unique ?_ hthen
  cases houtcome : (l.select [] config enabled).outcome with
  | ok plugins =>
    rw [houtcome] at hnow
    simpa only [Verdict, List.nil_append, h] using hnow
  | error e =>
    rw [houtcome] at hnow
    simpa only [Verdict, List.nil_append, h] using hnow

/-! ## What a selection leaves behind -/

/-- Names that were selected already, and names that are not to be, keep their
    entry. -/
theorem get?_select_of_not_selected (l : Loader) (names before : List String)
    (config : Table Settings) (name : String) (h : name ∈ before ∨ name ∉ names) :
    (l.select before config names).config.get? name = config.get? name := by
  induction names generalizing before config with
  | nil => rfl
  | cons head rest ih =>
    cases hfault : l.nameFault config before head with
    | some fault =>
      rw [select_cons_of_nameFault hfault]
      by_cases hhead : head = name
      · -- Then `name` was selected already, and a repetition writes nothing.
        subst hhead
        have hseen : head ∈ before := h.resolve_right fun hnew => hnew List.mem_cons_self
        rw [nameFault_of_mem hseen, Option.some.injEq] at hfault
        subst hfault
        rfl
      · exact get?_afterFault_ne config fault hhead
    | none =>
      obtain ⟨hnew, p, s, hp, hs⟩ := nameFault_eq_none_iff.mp hfault
      have hne : head ≠ name := by
        intro heq
        subst heq
        rcases h with h | h
        · exact hnew h
        · exact h List.mem_cons_self
      rw [select_cons_of_pass hnew hp hs]
      have hrest : name ∈ before ++ [head] ∨ name ∉ rest := by
        rcases h with h | h
        · exact .inl (List.mem_append_left _ h)
        · exact .inr fun hmem => h (List.mem_cons_of_mem _ hmem)
      exact (ih (before ++ [head]) _ hrest).trans (Table.get?_insert_ne config s hne)

/-- After a selection that succeeds, the entry of every selected plugin is the
    completed one. -/
theorem get?_select_of_selected {names : List String} {plugins : List Plugin}
    (h : (l.select before config names).outcome = .ok plugins) (hname : name ∈ names) :
    ∃ p s, l.get? name = some p ∧
      p.descriptor.validate (settingsFor config name) l.hostVersion = .ok s ∧
      (l.select before config names).config.get? name = some s := by
  induction names generalizing before config plugins with
  | nil => cases hname
  | cons head rest ih =>
    cases hfault : l.nameFault config before head with
    | some fault =>
      rw [select_cons_of_nameFault hfault] at h
      cases h
    | none =>
      obtain ⟨hnew, p, s, hp, hs⟩ := nameFault_eq_none_iff.mp hfault
      rw [select_cons_of_pass hnew hp hs] at h ⊢
      by_cases hhead : head = name
      · -- The entry is written now, and no later name writes it again.
        subst hhead
        refine ⟨p, s, hp, hs, ?_⟩
        have hkept := get?_select_of_not_selected l rest (before ++ [head])
          (config.insert head s) head (.inl (by simp))
        rw [hkept, Table.get?_insert_self]
      · have hrest : name ∈ rest := (List.mem_cons.mp hname).resolve_left (Ne.symm hhead)
        cases hlater : (l.select (before ++ [head]) (config.insert head s) rest).outcome with
        | error e =>
          rw [hlater] at h
          cases h
        | ok later =>
          -- What the first name wrote is not what `name` reads.
          have hdone := ih hlater hrest
          rwa [settingsFor_insert_ne config s hhead] at hdone

/-! ## What settings become

    Settings only ever change by completion.  The relation composes because
    completed settings are accepted as they are, so it describes the effect of
    any number of selections, those that fail included. -/

/-- Every plugin's settings are the same, or they are the completed ones of a
    plugin that was accepted. -/
def Completes (l : Loader) (first last : Table Settings) : Prop :=
  ∀ name, settingsFor last name = settingsFor first name ∨
    ∃ p, l.get? name = some p ∧
      p.descriptor.validate (settingsFor first name) l.hostVersion =
        .ok (settingsFor last name)

theorem Completes.of_settingsFor_eq {first last : Table Settings}
    (h : ∀ name, settingsFor last name = settingsFor first name) : l.Completes first last :=
  fun name => .inl (h name)

theorem Completes.refl (l : Loader) (config : Table Settings) : l.Completes config config :=
  Completes.of_settingsFor_eq fun _ => rfl

theorem Completes.trans {first middle last : Table Settings} (h : l.Completes first middle)
    (h' : l.Completes middle last) : l.Completes first last := by
  intro name
  rcases h name with hsame | ⟨p, hp, hs⟩
  · rw [← hsame]
    exact h' name
  · right
    refine ⟨p, hp, ?_⟩
    rcases h' name with hsame | ⟨p', hp', hs'⟩
    · rw [hsame, hs]
    · rw [hp, Option.some.injEq] at hp'
      subst hp'
      -- The second completion met completed settings.
      rw [Descriptor.validate_completed hs, Except.ok.injEq] at hs'
      rw [← hs', hs]

theorem Completes.insert (hp : l.get? name = some p)
    (hs : p.descriptor.validate (settingsFor config name) l.hostVersion = .ok s) :
    l.Completes config (config.insert name s) := by
  intro other
  by_cases hother : name = other
  · subst hother
    rw [settingsFor_insert_self]
    exact .inr ⟨p, hp, hs⟩
  · exact .inl (settingsFor_insert_ne config s hother)

/-- A selection completes settings, whatever it answers. -/
theorem select_completes (l : Loader) (names before : List String) (config : Table Settings) :
    l.Completes config (l.select before config names).config := by
  induction names generalizing before config with
  | nil => exact Completes.refl l config
  | cons name rest ih =>
    cases hfault : l.nameFault config before name with
    | some fault =>
      rw [select_cons_of_nameFault hfault]
      exact Completes.of_settingsFor_eq fun other =>
        settingsFor_afterFault config name other fault
    | none =>
      obtain ⟨hnew, p, s, hp, hs⟩ := nameFault_eq_none_iff.mp hfault
      rw [select_cons_of_pass hnew hp hs]
      exact (Completes.insert hp hs).trans (ih (before ++ [name]) (config.insert name s))

/-- Completed settings get every name the verdict that it got before. -/
theorem Completes.faultAt_eq (h : l.Completes initial config) (enabled : List String) (i : Nat) :
    l.faultAt config enabled i = l.faultAt initial enabled i := by
  unfold faultAt
  cases hname : enabled[i]? with
  | none => rfl
  | some name =>
    rcases h name with hsame | ⟨p, hp, hs⟩
    · exact nameFault_congr fun _ => hsame
    · by_cases hseen : name ∈ enabled.take i
      · simp [nameFault, hseen]
      · have hnow := nameFault_eq_none_iff.mpr
          ⟨hseen, p, _, hp, Descriptor.validate_completed hs⟩
        have hthen := nameFault_eq_none_iff.mpr ⟨hseen, p, _, hp, hs⟩
        exact hnow.trans hthen.symm

end Loader

end PluginHost
