import PluginHost.Proofs.Registration
import PluginHost.Proofs.Text.Lowercase
import PluginHost.Proofs.Text.Trimming

/-! # Keys of the registry

    Models are brought to a normal form twice: when something is registered
    for them and when it is looked up.  Both agree because a normal form is its
    own normal form (`Text.trim_trim`, `SearchIndex.labelOf_labelOf`), and
    because every registration files what it stores under the normal form
    (`Keyed`), whether earlier ones were refused or not.  No registration takes
    away what can be looked up.

    Main theorem: `lookups_of_built`. -/

namespace PluginHost

/-! ## Labels -/

namespace SearchIndex

/-- A label is its own label. -/
theorem labelOf_labelOf (model : String) : labelOf (labelOf model) = labelOf model := by
  have htrimmed : Text.trim (labelOf model) = labelOf model := by
    have hends := Text.trimmed_trimChars model.toList
    rw [labelOf, Text.lowercase, Text.trim, String.toList_ofList, Text.trim,
      String.toList_ofList]
    congr 1
    exact Text.trimChars_of_trimmed
      ⟨Text.stops_lowerChars hends.1, Text.stops_reverse_lowerChars hends.2⟩
  rw [labelOf, htrimmed]
  exact Text.lowercase_lowercase _

-- The last sigma of a word has a letter of its own, which stays as it is.
example : labelOf " ΟΔΟΣ " = "οδος" ∧ labelOf "οδος" = "οδος" := by decide +kernel

end SearchIndex

/-! ## Calls -/

namespace Registry

/-- A call to a registry that is being built.  The caller names the section of
    menu items and the plugin of preferences. -/
inductive Call where
  | templates (classes : List TemplateClass)
  | menu (menu : Menu)
  | menuItems (title : String) (items : List MenuItem)
  | graphqlSchema (schema : GraphQlSchema)
  | preferences (plugin : String) (preferences : PreferenceSet)
  | searchIndexes (indexes : List SearchIndex)

/-- Carry out a call. -/
def call (r : Registry) : Call → Except Violation (Logged Registry)
  | .templates classes => do pure ⟨← r.addTemplates classes, []⟩
  | .menu menu => .ok ⟨r.addMenu menu, []⟩
  | .menuItems title items => .ok ⟨r.addMenuItems title items, r.replacementEvents title⟩
  | .graphqlSchema schema => .ok ⟨r.addSchema schema, []⟩
  | .preferences plugin preferences => .ok ⟨r.addPreferences plugin preferences, []⟩
  | .searchIndexes indexes => do pure ⟨← r.addSearchIndexes indexes, []⟩

/-- The registry after a call; one that is refused leaves it as it is. -/
def after (r : Registry) (c : Call) : Registry :=
  match r.call c with
  | .ok step => step.value
  | .error _ => r

/-- The registry that calls build one after the other. -/
def built (calls : List Call) : Registry := calls.foldl after empty

/-! ## What is filed where -/

/-- Classes are filed under a model: there are some, and each of them declares
    the model, blanks around it apart. -/
structure FiledUnder (model : String) (classes : List TemplateClass) : Prop where
  model_ne_empty : model ≠ ""
  trimmed        : Text.trim model = model
  classes_ne_nil : classes ≠ []
  declared       : ∀ c ∈ classes, ∃ own, c.model = some own ∧ Text.trim own = model

/-- An index is filed under its label. -/
structure IndexedUnder (label : String) (index : SearchIndex) : Prop where
  label_ne_empty : label ≠ ""
  label_eq       : index.label = label

/-- Whatever has a normal form as its key is filed under it. -/
structure Keyed (r : Registry) : Prop where
  templates : r.templates.All FiledUnder
  search    : r.search.All IndexedUnder

variable {r : Registry} {classes : List TemplateClass} {c : TemplateClass} {model label : String}
  {index : SearchIndex}

theorem keyed_empty : Keyed empty := ⟨Table.all_empty, Table.all_empty⟩

/-! ## One call -/

/-- A class that has a model is filed under it, behind those that are there. -/
theorem filedUnder_target (hmodel : c.lacksModel = false)
    (hold : ∀ d ∈ classes, ∃ own, d.model = some own ∧ Text.trim own = c.target) :
    FiledUnder c.target (classes ++ [c]) := by
  have hblank : ¬Text.isBlank (c.model.getD "") = true := by
    unfold TemplateClass.lacksModel at hmodel
    simp [hmodel]
  constructor
  · intro hempty
    exact hblank ((Text.trim_eq_empty_iff _).mp hempty)
  · exact Text.trim_trim _
  · simp
  · intro d hd
    rcases List.mem_append.mp hd with hd | hd
    · exact hold d hd
    · obtain rfl := List.mem_singleton.mp hd
      cases hown : d.model with
      | none => exact absurd rfl (hown ▸ hblank)
      | some own => exact ⟨own, rfl, by rw [TemplateClass.target, hown]; rfl⟩

theorem all_fileTemplates {templates : Table (List TemplateClass)}
    (h : templates.All FiledUnder) (hclasses : ∀ c ∈ classes, c.lacksModel = false) :
    (fileTemplates templates classes).All FiledUnder := by
  induction classes generalizing templates with
  | nil => exact h
  | cons c rest ih =>
    rw [List.forall_mem_cons] at hclasses
    refine ih (h.insert (filedUnder_target hclasses.1 ?_)) hclasses.2
    intro d hd
    cases hget : templates.get? c.target with
    | none => simp [hget] at hd
    | some old =>
      rw [hget] at hd
      exact (h.of_get? hget).declared d hd

theorem after_templates (r : Registry) (classes : List TemplateClass) :
    r.after (.templates classes) =
      match classes.find? (·.lacksModel) with
      | some _ => r
      | none => { r with templates := fileTemplates r.templates classes } := by
  rw [after, call, addTemplates_eq]
  cases classes.find? (·.lacksModel) <;> rfl

theorem after_searchIndexes (r : Registry) (indexes : List SearchIndex) :
    r.after (.searchIndexes indexes) =
      match indexes.find? (·.label.isEmpty) with
      | some _ => r
      | none => { r with search := r.search.insertAll (indexes.map fun i => (i.label, i)) } := by
  rw [after, call, addSearchIndexes]
  cases indexes.find? (·.label.isEmpty) <;> rfl

/-- A call keeps everything under its key, and so does one that is refused. -/
theorem Keyed.after (h : r.Keyed) (c : Call) : (r.after c).Keyed := by
  cases c with
  | templates classes =>
    rw [after_templates]
    cases hfind : classes.find? (·.lacksModel) with
    | some lacking => exact h
    | none =>
      refine ⟨all_fileTemplates h.templates fun c hc => ?_, h.search⟩
      simpa using List.find?_eq_none.mp hfind c hc
  | menu menu => exact ⟨h.templates, h.search⟩
  | menuItems title items => exact ⟨h.templates, h.search⟩
  | graphqlSchema schema => exact ⟨h.templates, h.search⟩
  | preferences plugin preferences => exact ⟨h.templates, h.search⟩
  | searchIndexes indexes =>
    rw [after_searchIndexes]
    cases hfind : indexes.find? (·.label.isEmpty) with
    | some blank => exact h
    | none =>
      refine ⟨h.templates, h.search.insertAll fun pair hpair => ?_⟩
      obtain ⟨index, hindex, rfl⟩ := List.mem_map.mp hpair
      have hlabel := List.find?_eq_none.mp hfind index hindex
      exact ⟨by simpa using hlabel, rfl⟩

/-- No call takes away a class that was filed. -/
theorem mem_templatesFor_after (h : c ∈ r.templatesFor model) (step : Call) :
    c ∈ (r.after step).templatesFor model := by
  cases step with
  | templates classes =>
    rw [after_templates]
    cases classes.find? (·.lacksModel) with
    | some lacking => exact h
    | none =>
      show c ∈ ((fileTemplates r.templates classes).get? (Text.trim model)).getD []
      rw [get?_fileTemplates]
      exact List.mem_append_left _ h
  | searchIndexes indexes =>
    rw [after_searchIndexes]
    cases indexes.find? (·.label.isEmpty) <;> exact h
  | _ => exact h

/-- And none takes away the index of a model, but may replace it. -/
theorem searchIndex?_after (h : (r.searchIndex? model).isSome = true) (step : Call) :
    ((r.after step).searchIndex? model).isSome = true := by
  cases step with
  | templates classes =>
    rw [after_templates]
    cases classes.find? (·.lacksModel) <;> exact h
  | searchIndexes indexes =>
    rw [after_searchIndexes]
    cases indexes.find? (·.label.isEmpty) with
    | some blank => exact h
    | none =>
      show ((r.search.insertAll _).get? (SearchIndex.labelOf model)).isSome = true
      rw [Table.isSome_get?_insertAll_iff]
      exact .inr h
  | _ => exact h

/-- A class that has a model is found for it, once its call was carried out. -/
theorem mem_templatesFor_after_templates (hclasses : ∀ c ∈ classes, c.lacksModel = false)
    (hc : c ∈ classes) (r : Registry) :
    c ∈ (r.after (.templates classes)).templatesFor (c.model.getD "") := by
  have hfind : classes.find? (·.lacksModel) = none := by
    simpa using hclasses
  rw [after_templates, hfind]
  show c ∈ ((fileTemplates r.templates classes).get? c.target).getD []
  rw [get?_fileTemplates]
  apply List.mem_append_right
  simpa using hc

/-- For the model of an index something is found, once its call was carried out. -/
theorem searchIndex?_after_searchIndexes {indexes : List SearchIndex}
    (hindexes : ∀ i ∈ indexes, i.label ≠ "") (hindex : index ∈ indexes) (r : Registry) :
    ((r.after (.searchIndexes indexes)).searchIndex? index.model).isSome = true := by
  have hfind : indexes.find? (·.label.isEmpty) = none := by
    simpa using hindexes
  rw [after_searchIndexes, hfind]
  show ((r.search.insertAll _).get? index.label).isSome = true
  rw [Table.isSome_get?_insertAll_iff]
  left
  exact ⟨(index.label, index), List.mem_map_of_mem hindex, rfl⟩

/-! ## All calls -/

/-- What every call keeps holds after any number of them. -/
theorem foldl_after_keeps {P : Registry → Prop} (hkeep : ∀ r step, P r → P (r.after step))
    (h : P r) (calls : List Call) : P (calls.foldl Registry.after r) := by
  induction calls generalizing r with
  | nil => exact h
  | cons step rest ih => exact ih (hkeep r step h)

/-- What one of the calls brings about and every call keeps holds in the end. -/
theorem built_of_mem {P : Registry → Prop} {calls : List Call} {step : Call}
    (hstep : step ∈ calls) (hdone : ∀ r : Registry, P (r.after step))
    (hkeep : ∀ r step, P r → P (r.after step)) : P (built calls) := by
  obtain ⟨front, back, rfl⟩ := List.append_of_mem hstep
  unfold built
  rw [List.foldl_append, List.foldl_cons]
  exact foldl_after_keeps hkeep (hdone _) back

/-- Calls keep everything under its key. -/
theorem keyed_built (calls : List Call) : (built calls).Keyed :=
  foldl_after_keeps (P := Keyed) (fun _ step h => h.after step) keyed_empty calls

/-! ## Lookups -/

/-- The classes that are listed for a model are found for it. -/
theorem Keyed.templatesFor_eq (h : r.Keyed) (hmem : (model, classes) ∈ r.templates.entries) :
    r.templatesFor model = classes := by
  have htrimmed : Text.trim model = model := (h.templates _ hmem).trimmed
  rw [templatesFor, htrimmed, Table.mem_entries_iff.mp hmem]
  rfl

/-- The index that is listed under a label is found for it. -/
theorem Keyed.searchIndex?_eq (h : r.Keyed) (hmem : (label, index) ∈ r.search.entries) :
    r.searchIndex? label = some index := by
  have hlabel : index.label = label := (h.search _ hmem).label_eq
  have hsame : SearchIndex.labelOf label = label := by
    rw [← hlabel]
    exact SearchIndex.labelOf_labelOf index.model
  rw [searchIndex?, hsame]
  exact Table.mem_entries_iff.mp hmem

/-- What is found for a model has the label of the model. -/
theorem Keyed.label_of_found (h : r.Keyed) (hfound : r.searchIndex? model = some index) :
    index.label = SearchIndex.labelOf model :=
  (h.search.of_get? hfound).label_eq

/-- When nothing is found for a model, no index has its label. -/
theorem Keyed.label_ne_of_not_found (h : r.Keyed) (hnone : r.searchIndex? model = none)
    (hmem : (label, index) ∈ r.search.entries) : index.label ≠ SearchIndex.labelOf model := by
  intro heq
  have hlabel : index.label = label := (h.search _ hmem).label_eq
  rw [searchIndex?, ← heq, hlabel, Table.mem_entries_iff.mp hmem] at hnone
  cases hnone

/-! ## Main theorem -/

/-- **Keys and lookups agree.**  Whatever calls a registry is built by, its
    template extensions are listed and found under their trimmed models and
    its search indexes under their labels, and a lookup by any model answers
    with the index that has its label, if there is one.  What was accepted is
    found by the model that it was registered for. -/
theorem lookups_of_built (calls : List Call) :
    (∀ e ∈ (built calls).templates.entries,
      FiledUnder e.1 e.2 ∧ (built calls).templatesFor e.1 = e.2) ∧
    (∀ e ∈ (built calls).search.entries,
      IndexedUnder e.1 e.2 ∧ (built calls).searchIndex? e.1 = some e.2) ∧
    (∀ model index, (built calls).searchIndex? model = some index →
      index.label = Text.lowercase (Text.trim model)) ∧
    (∀ model, (built calls).searchIndex? model = none →
      ∀ e ∈ (built calls).search.entries, e.2.label ≠ Text.lowercase (Text.trim model)) ∧
    (∀ classes, Call.templates classes ∈ calls → (∀ c ∈ classes, c.lacksModel = false) →
      ∀ c ∈ classes, c ∈ (built calls).templatesFor (c.model.getD "")) ∧
    (∀ indexes, Call.searchIndexes indexes ∈ calls → (∀ i ∈ indexes, i.label ≠ "") →
      ∀ i ∈ indexes, ((built calls).searchIndex? i.model).isSome = true) := by
  have hkeyed := keyed_built calls
  refine ⟨fun e he => ⟨hkeyed.templates e he, hkeyed.templatesFor_eq he⟩,
    fun e he => ⟨hkeyed.search e he, hkeyed.searchIndex?_eq he⟩, ?_, ?_, ?_, ?_⟩
  · intro model index hfound
    exact hkeyed.label_of_found hfound
  · intro model hnone e he
    exact hkeyed.label_ne_of_not_found hnone he
  · intro classes hcall hclasses c hc
    exact built_of_mem (P := fun r => c ∈ r.templatesFor (c.model.getD "")) hcall
      (mem_templatesFor_after_templates hclasses hc) fun _ step h => mem_templatesFor_after h step
  · intro indexes hcall hindexes i hi
    exact built_of_mem (P := fun r => (r.searchIndex? i.model).isSome = true) hcall
      (searchIndex?_after_searchIndexes hindexes hi) fun _ step h => searchIndex?_after h step

/-! ### Calls of which one is refused -/

/-- A class with a blank in front of its model. -/
def shown : TemplateClass := { name := "Shown", model := some " dcim.site" }

/-- Calls for a class without a model, for one with a model, and for an index
    in capitals. -/
def greekCalls : List Call :=
  [.templates [{ name := "Lost" }],
   .templates [shown],
   .searchIndexes [{ model := " ΟΔΟΣ ", displayAttrs := ["name"] }]]

/-- What was accepted is found, by a model in any spelling. -/
theorem lookups_of_built_greek :
    (built greekCalls).templates.entries.map (fun e => (e.1, e.2.map (·.name))) =
        [("dcim.site", ["Shown"])] ∧
      ((built greekCalls).searchIndex? "οδοΣ").map (·.displayAttrs) = some ["name"] ∧
      (∀ index, (built greekCalls).searchIndex? "οδοΣ" = some index → index.label = "οδος") ∧
      shown ∈ (built greekCalls).templatesFor " dcim.site" := by
  obtain ⟨-, -, hlabel, -, hclasses, -⟩ := lookups_of_built greekCalls
  refine ⟨by decide +kernel, by decide +kernel, fun index hfound => ?_, ?_⟩
  · have hlower : Text.lowercase (Text.trim "οδοΣ") = "οδος" := by decide +kernel
    rw [hlabel "οδοΣ" index hfound, hlower]
  · have hmodel : ∀ c ∈ [shown], c.lacksModel = false := by decide +kernel
    have hcall : Call.templates [shown] ∈ greekCalls := by simp [greekCalls]
    exact hclasses [shown] hcall hmodel shown List.mem_cons_self

end Registry

end PluginHost
