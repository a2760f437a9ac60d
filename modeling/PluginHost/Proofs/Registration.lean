import PluginHost.Loader

/-! # Registering contributions

    Whether a contribution is refused depends on the contribution alone
    (`Contribution.violation?`), and one that is not refused changes the
    registry in one way only (`Registry.store`).  So a plugin gets equally far
    in every registry: `registerAll_violation` names the violation that stops
    it, `registerAll_registry` what it stored before. -/

namespace PluginHost

/-! ## Template extensions -/

namespace TemplateClass

/-- Does the class name no model, or a blank one? -/
def lacksModel (c : TemplateClass) : Bool := Text.isBlank (c.model.getD "")

/-- The model that the class is filed under. -/
def target (c : TemplateClass) : String := Text.trim (c.model.getD "")

end TemplateClass

namespace Registry

theorem targetOf_eq (c : TemplateClass) :
    targetOf c = if c.lacksModel then .error (.missingModel c.name) else .ok c.target := by
  unfold targetOf TemplateClass.lacksModel TemplateClass.target
  cases c.model with
  | none => rfl
  | some model => rfl

/-- A batch has a target for each class, or the first class without one. -/
theorem mapM_targetOf (classes : List TemplateClass) :
    classes.mapM targetOf =
      match classes.find? (·.lacksModel) with
      | some c => .error (.missingModel c.name)
      | none => .ok (classes.map (·.target)) := by
  induction classes with
  | nil => rfl
  | cons c rest ih =>
    rw [List.mapM_cons, targetOf_eq, ih]
    by_cases hlacks : c.lacksModel = true
    · simp [hlacks, bind, Except.bind]
    · rw [Bool.not_eq_true] at hlacks
      rw [List.find?_cons_of_neg (by simp [hlacks])]
      cases hfind : rest.find? (·.lacksModel) <;>
        simp [hlacks, bind, Except.bind, pure, Except.pure]

/-- The store of template extensions with the classes filed one after the other. -/
def fileTemplates (templates : Table (List TemplateClass)) (classes : List TemplateClass) :
    Table (List TemplateClass) :=
  classes.foldl (fun templates c => fileTemplate templates (c.target, c)) templates

/-- The classes of a model with more of them behind; without any more, its
    entry stays as it is. -/
def filed (old : Option (List TemplateClass)) : List TemplateClass → Option (List TemplateClass)
  | [] => old
  | c :: rest => some (old.getD [] ++ c :: rest)

theorem filed_append (old : Option (List TemplateClass)) (first later : List TemplateClass) :
    filed (filed old first) later = filed old (first ++ later) := by
  cases first with
  | nil => rfl
  | cons c rest =>
    cases later with
    | nil => rw [List.append_nil]; rfl
    | cons c' rest' => simp [filed]

/-- An entry only changes for the classes of its model. -/
theorem get?_fileTemplates_eq_filed (templates : Table (List TemplateClass))
    (classes : List TemplateClass) (model : String) :
    (fileTemplates templates classes).get? model =
      filed (templates.get? model) (classes.filter (·.target == model)) := by
  induction classes generalizing templates with
  | nil => rfl
  | cons c rest ih =>
    have hstep : fileTemplates templates (c :: rest) =
        fileTemplates (fileTemplate templates (c.target, c)) rest := rfl
    rw [hstep, ih, fileTemplate, Table.get?_insert]
    by_cases hmodel : c.target = model
    · subst hmodel
      rw [List.filter_cons_of_pos (by simp), if_pos rfl]
      exact filed_append (templates.get? c.target) [c] _
    · rw [List.filter_cons_of_neg (by simp [hmodel]), if_neg hmodel]

theorem getD_filed (old : Option (List TemplateClass)) (classes : List TemplateClass) :
    (filed old classes).getD [] = old.getD [] ++ classes := by
  cases classes with
  | nil => exact (List.append_nil _).symm
  | cons c rest => rfl

/-- Filing classes adds those of a model behind the ones that it has. -/
theorem get?_fileTemplates (templates : Table (List TemplateClass)) (classes : List TemplateClass)
    (model : String) :
    ((fileTemplates templates classes).get? model).getD [] =
      (templates.get? model).getD [] ++ classes.filter (·.target == model) := by
  rw [get?_fileTemplates_eq_filed, getD_filed]

theorem addTemplates_eq (r : Registry) (classes : List TemplateClass) :
    r.addTemplates classes =
      match classes.find? (·.lacksModel) with
      | some c => .error (.missingModel c.name)
      | none => .ok { r with templates := fileTemplates r.templates classes } := by
  unfold addTemplates
  rw [mapM_targetOf]
  cases classes.find? (·.lacksModel) with
  | some c => rfl
  | none =>
    -- The targets are those of the classes, so each is zipped with its own.
    have hzip : (classes.map (·.target)).zip classes = classes.map fun c => (c.target, c) :=
      List.map_prod_right_eq_zip.symm
    simp only [bind, Except.bind, pure, Except.pure, hzip, List.foldl_map, fileTemplates]

end Registry

/-! ## One contribution -/

/-- The violation that a contribution is refused for. -/
def Contribution.violation? : Contribution → Option Violation
  | .searchIndexes indexes =>
    (indexes.find? (·.label.isEmpty)).map fun i => .searchIndexWithoutModel i.fieldsText
  | .templates classes => (classes.find? (·.lacksModel)).map fun c => .missingModel c.name
  | _ => none

/-- The registry with a contribution of the plugin `d` in its store. -/
def Registry.store (d : Descriptor) (r : Registry) : Contribution → Registry
  | .searchIndexes indexes =>
    { r with search := r.search.insertAll (indexes.map fun i => (i.label, i)) }
  | .templates classes => { r with templates := fileTemplates r.templates classes }
  | .menu menu => r.addMenu menu
  | .menuItems items => r.addMenuItems d.displayName items
  | .graphqlSchema schema => r.addSchema schema
  | .preferences preferences => r.addPreferences d.shortName preferences

namespace Descriptor

theorem register_of_violation {d : Descriptor} {r : Registry} {c : Contribution} {v : Violation}
    (h : c.violation? = some v) : d.register r c = .error v := by
  cases c with
  | searchIndexes indexes =>
    obtain ⟨index, hfind, rfl⟩ := Option.map_eq_some_iff.mp h
    simp [register, Registry.addSearchIndexes, hfind, bind, Except.bind]
  | templates classes =>
    obtain ⟨c, hfind, rfl⟩ := Option.map_eq_some_iff.mp h
    simp [register, Registry.addTemplates_eq, hfind, bind, Except.bind]
  | menu menu => cases h
  | menuItems items => cases h
  | graphqlSchema schema => cases h
  | preferences preferences => cases h

theorem register_of_clean {d : Descriptor} {c : Contribution} (r : Registry)
    (h : c.violation? = none) : ∃ log, d.register r c = .ok ⟨r.store d c, log⟩ := by
  cases c with
  | searchIndexes indexes =>
    have hfind := Option.map_eq_none_iff.mp h
    simp [register, Registry.addSearchIndexes, hfind, bind, Except.bind, pure, Except.pure,
      Registry.store]
  | templates classes =>
    have hfind := Option.map_eq_none_iff.mp h
    simp [register, Registry.addTemplates_eq, hfind, bind, Except.bind, pure, Except.pure,
      Registry.store]
  | menu menu => exact ⟨_, rfl⟩
  | menuItems items => exact ⟨_, rfl⟩
  | graphqlSchema schema => exact ⟨_, rfl⟩
  | preferences preferences => exact ⟨_, rfl⟩

end Descriptor

/-! ## All contributions of a plugin -/

/-- The violation that stops a list of contributions: the first one in it. -/
def firstViolation : List (Except Violation Contribution) → Option Violation
  | [] => none
  | .error v :: _ => some v
  | .ok c :: rest => c.violation?.or (firstViolation rest)

/-- The contributions that are registered: those before the first violation. -/
def registered : List (Except Violation Contribution) → List Contribution
  | [] => []
  | .error _ :: _ => []
  | .ok c :: rest => if c.violation?.isSome then [] else c :: registered rest

theorem firstViolation_append (front back : List (Except Violation Contribution)) :
    firstViolation (front ++ back) = (firstViolation front).or (firstViolation back) := by
  induction front with
  | nil => rfl
  | cons head rest ih =>
    cases head with
    | error v => rfl
    | ok c =>
      show c.violation?.or (firstViolation (rest ++ back)) = _
      rw [ih, ← Option.or_assoc]
      rfl

/-- What follows a part is registered only if the part has no violation. -/
theorem registered_append (front back : List (Except Violation Contribution)) :
    registered (front ++ back) =
      registered front ++ if (firstViolation front).isNone then registered back else [] := by
  induction front with
  | nil => rfl
  | cons head rest ih =>
    cases head with
    | error v => rfl
    | ok c =>
      rw [List.cons_append, registered, registered, firstViolation, ih]
      cases c.violation? with
      | some v => rfl
      | none => rfl

/-- The first violation is that of the first part with one. -/
theorem firstViolation_flatMap {β : Type} (parts : List β)
    (f : β → List (Except Violation Contribution)) :
    firstViolation (parts.flatMap f) = parts.findSome? fun part => firstViolation (f part) := by
  induction parts with
  | nil => rfl
  | cons part rest ih =>
    rw [List.flatMap_cons, firstViolation_append, ih, List.findSome?_cons]
    cases firstViolation (f part) <;> rfl

/-- Without a violation, everything is registered. -/
theorem registered_of_clean {contributions : List (Except Violation Contribution)}
    (h : firstViolation contributions = none) :
    contributions = (registered contributions).map .ok ∧
      ∀ c ∈ registered contributions, c.violation? = none := by
  induction contributions with
  | nil => simp [registered]
  | cons head rest ih =>
    cases head with
    | error v => cases h
    | ok c =>
      obtain ⟨hc, hrest⟩ := Option.or_eq_none_iff.mp h
      obtain ⟨hall, hclean⟩ := ih hrest
      have hhead : registered (.ok c :: rest) = c :: registered rest := by simp [registered, hc]
      rw [hhead]
      constructor
      · rw [List.map_cons, ← hall]
      · intro c' hc'
        rcases List.mem_cons.mp hc' with rfl | hmem
        · exact hc
        · exact hclean c' hmem

namespace Descriptor

theorem registerAll_violation (d : Descriptor) (r : Registry)
    (contributions : List (Except Violation Contribution)) :
    (d.registerAll r contributions).violation = firstViolation contributions := by
  induction contributions generalizing r with
  | nil => rfl
  | cons head rest ih =>
    cases head with
    | error v => rfl
    | ok c =>
      cases hv : c.violation? with
      | some v => simp [registerAll, firstViolation, register_of_violation hv, hv]
      | none =>
        obtain ⟨log, hstep⟩ := register_of_clean (d := d) r hv
        simp [registerAll, firstViolation, hstep, hv, ih]

theorem registerAll_registry (d : Descriptor) (r : Registry)
    (contributions : List (Except Violation Contribution)) :
    (d.registerAll r contributions).registry =
      (registered contributions).foldl (Registry.store d) r := by
  induction contributions generalizing r with
  | nil => rfl
  | cons head rest ih =>
    cases head with
    | error v => rfl
    | ok c =>
      cases hv : c.violation? with
      | some v => simp [registerAll, registered, register_of_violation hv, hv]
      | none =>
        obtain ⟨log, hstep⟩ := register_of_clean (d := d) r hv
        simp [registerAll, registered, hstep, hv, ih]

end Descriptor

namespace Plugin

/-- The violation that stops a plugin when it registers what it contributes.
    It is the same in every registry (`ready_violation`). -/
def violation (p : Plugin) : Option Violation := (p.ready Registry.empty).violation

theorem violation_eq (p : Plugin) : p.violation = firstViolation p.contributions :=
  Descriptor.registerAll_violation p.descriptor Registry.empty p.contributions

theorem ready_violation (p : Plugin) (r : Registry) : (p.ready r).violation = p.violation := by
  rw [violation_eq]
  exact Descriptor.registerAll_violation p.descriptor r p.contributions

theorem ready_registry (p : Plugin) (r : Registry) :
    (p.ready r).registry = (registered p.contributions).foldl (Registry.store p.descriptor) r :=
  Descriptor.registerAll_registry p.descriptor r p.contributions

end Plugin

/-! ## All plugins -/

namespace Loader

/-- The error of a plugin that cannot register what it contributes. -/
def readyError (p : Plugin) : Option LoadError :=
  p.violation.map fun v => ⟨p.name, .contract v⟩

/-- Initialising ends with the error of the first plugin that has one. -/
theorem initialise_error (plugins : List Plugin) (r : Registry) :
    (initialise r plugins).error = plugins.findSome? readyError := by
  induction plugins generalizing r with
  | nil => rfl
  | cons p rest ih =>
    have hready := p.ready_violation r
    cases hv : p.violation with
    | some v =>
      rw [hv] at hready
      simp [initialise, hready, readyError, hv]
    | none =>
      rw [hv] at hready
      simp [initialise, hready, readyError, hv, ih]

/-- No plugin has such an error if none has a violation. -/
theorem readyErrors_eq_none_iff {plugins : List Plugin} :
    plugins.findSome? readyError = none ↔ ∀ p ∈ plugins, p.violation = none := by
  rw [List.findSome?_eq_none_iff]
  simp only [readyError, Option.map_eq_none_iff]

/-- Behind a plugin without a violation it is the turn of the others. -/
theorem initialise_cons {p : Plugin} (h : p.violation = none) (rest : List Plugin)
    (r : Registry) :
    initialise r (p :: rest) =
      { initialise (p.ready r).registry rest with
        log := (p.ready r).log ++ (initialise (p.ready r).registry rest).log
        started := p.name :: (initialise (p.ready r).registry rest).started } := by
  have hready := (p.ready_violation r).trans h
  rw [initialise, hready]

/-- Without an error every plugin has registered what it contributes. -/
theorem initialise_registry (plugins : List Plugin) (r : Registry)
    (h : plugins.findSome? readyError = none) :
    (initialise r plugins).registry = plugins.foldl (fun r p => (p.ready r).registry) r := by
  induction plugins generalizing r with
  | nil => rfl
  | cons p rest ih =>
    rw [readyErrors_eq_none_iff, List.forall_mem_cons] at h
    rw [initialise_cons h.1]
    exact ih _ (readyErrors_eq_none_iff.mpr h.2)

end Loader

end PluginHost
