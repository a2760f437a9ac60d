import PluginHost.Proofs.ManifestSections

/-! # Registering batches

    Template extensions and search indexes come in batches, and a registry
    that is held is written to while a batch is registered.  What a step has
    written is not taken back when a later one fails.  So a batch that is
    refused leaves everything as it was only because all of it is judged
    before the first of it is stored.

    A class is stored under the model that was read off it in the first pass;
    the two passes are joined by position, and none of the classes is lost,
    repeated or filed under the model of another.

    Main theorem: `batches_atomic`. -/

namespace PluginHost

namespace Registry

variable {α β : Type} {r : Registry}

/-! ## A registry that is held -/

/-- A step on the registry that is held.  It may fail, and what was stored
    until then stays. -/
abbrev HeldStep : Type → Type := ExceptT Violation (StateM Registry)

/-- A judgement neither reads nor writes what is held. -/
def judge (verdict : Except Violation α) : HeldStep α := ExceptT.mk (pure verdict)

/-- Store one element after the other. -/
def storeEach (store : Registry → β → Registry) : List β → HeldStep Unit
  | [] => pure ()
  | b :: rest => do
    modify fun held => store held b
    storeEach store rest

/-- Read the models off the classes, up to the first class without one. -/
def readTargets : List TemplateClass → HeldStep (List String)
  | [] => pure []
  | c :: rest => do
    let target ← judge (targetOf c)
    let targets ← readTargets rest
    pure (target :: targets)

/-- File a class under a model. -/
def fileClass (held : Registry) (e : String × TemplateClass) : Registry :=
  { held with templates := fileTemplate held.templates e }

/-- Put an index under its label. -/
def putIndex (held : Registry) (index : SearchIndex) : Registry :=
  { held with search := held.search.insert index.label index }

/-- The first index whose label is empty is at fault. -/
def judgeIndexes (indexes : List SearchIndex) : Except Violation Unit :=
  match indexes.find? (·.label.isEmpty) with
  | some index => .error (.searchIndexWithoutModel index.fieldsText)
  | none => .ok ()

/-- The steps for a batch of template extensions. -/
def templatesSteps (classes : List TemplateClass) : HeldStep Unit := do
  let targets ← readTargets classes
  storeEach fileClass (targets.zip classes)

/-- The steps for a batch of search indexes. -/
def indexesSteps (indexes : List SearchIndex) : HeldStep Unit := do
  judge (judgeIndexes indexes)
  storeEach putIndex indexes

/-- Register template extensions in the registry that is held: the outcome,
    and the registry that is held then. -/
def registerTemplates (r : Registry) (classes : List TemplateClass) :
    Except Violation Unit × Registry :=
  (templatesSteps classes).run.run r

/-- Register search indexes in the registry that is held. -/
def registerIndexes (r : Registry) (indexes : List SearchIndex) :
    Except Violation Unit × Registry :=
  (indexesSteps indexes).run.run r

/-! ### What the steps come to -/

/-- Later steps run, on the same registry, only if the judgement is sound. -/
theorem judge_bind (verdict : Except Violation α) (later : α → HeldStep β) (r : Registry) :
    (judge verdict >>= later).run.run r =
      match verdict with
      | .ok a => (later a).run.run r
      | .error v => (.error v, r) := by
  cases verdict with
  | error v => rfl
  | ok a => rfl

/-- Every element finds what the ones in front of it have stored. -/
theorem storeEach_run (store : Registry → β → Registry) (batch : List β) (r : Registry) :
    (storeEach store batch).run.run r = (.ok (), batch.foldl store r) := by
  induction batch generalizing r with
  | nil => rfl
  | cons b rest ih => exact ih (store r b)

/-- Reading the models is a judgement on the classes as a whole. -/
theorem readTargets_eq (classes : List TemplateClass) :
    readTargets classes = judge (classes.mapM targetOf) := by
  induction classes with
  | nil => rfl
  | cons c rest ih =>
    rw [readTargets, ih, List.mapM_cons]
    cases targetOf c with
    | error v => rfl
    | ok target => cases rest.mapM targetOf <;> rfl

theorem foldl_fileClass (filings : List (String × TemplateClass)) (r : Registry) :
    filings.foldl fileClass r =
      { r with templates := filings.foldl fileTemplate r.templates } := by
  induction filings generalizing r with
  | nil => rfl
  | cons e rest ih => exact ih (fileClass r e)

theorem foldl_putIndex (indexes : List SearchIndex) (r : Registry) :
    indexes.foldl putIndex r =
      { r with search := r.search.insertAll (indexes.map fun i => (i.label, i)) } := by
  induction indexes generalizing r with
  | nil => rfl
  | cons index rest ih => exact ih (putIndex r index)

/-- What is held after an outcome: the registry that it gives, or the one that
    was there. -/
def settle (r : Registry) : Except Violation Registry → Except Violation Unit × Registry
  | .ok after => (.ok (), after)
  | .error v => (.error v, r)

/-- Held or handed over, a registry gets the same template extensions, and what
    is held only changes when all of them are accepted. -/
theorem registerTemplates_eq (r : Registry) (classes : List TemplateClass) :
    r.registerTemplates classes = r.settle (r.addTemplates classes) := by
  unfold registerTemplates templatesSteps addTemplates
  rw [readTargets_eq, judge_bind]
  cases classes.mapM targetOf with
  | error v => rfl
  | ok targets =>
    show (storeEach fileClass (targets.zip classes)).run.run r = _
    rw [storeEach_run, foldl_fileClass]
    rfl

/-- And the same search indexes. -/
theorem registerIndexes_eq (r : Registry) (indexes : List SearchIndex) :
    r.registerIndexes indexes = r.settle (r.addSearchIndexes indexes) := by
  unfold registerIndexes indexesSteps addSearchIndexes judgeIndexes
  rw [judge_bind]
  cases indexes.find? (·.label.isEmpty) with
  | some index => rfl
  | none =>
    show (storeEach putIndex indexes).run.run r = _
    rw [storeEach_run, foldl_putIndex]
    rfl

/-! ## What becomes of a batch -/

/-- What may become of a batch: it is refused for its first element at fault,
    and everything is as it was; or nothing in it is at fault, and it is
    stored. -/
inductive BatchVerdict (faulty : β → Bool) (violation : β → Violation)
    (Stored : Registry → Prop) (r : Registry) (batch : List β) :
    Except Violation Unit × Registry → Prop where
  | refused {front back : List β} {b : β} (hbatch : batch = front ++ b :: back)
      (hfront : ∀ c ∈ front, faulty c = false) (hfault : faulty b = true) :
      BatchVerdict faulty violation Stored r batch (.error (violation b), r)
  | stored {after : Registry} (hclean : ∀ b ∈ batch, faulty b = false)
      (hstored : Stored after) :
      BatchVerdict faulty violation Stored r batch (.ok (), after)

/-- The registry `after` is `r` with the classes of a batch behind those that
    their models have. -/
structure TemplatesStored (r : Registry) (classes : List TemplateClass) (after : Registry) :
    Prop where
  /-- A model is asked for in any spelling that trims to the same. -/
  found  : ∀ model, after.templatesFor model =
    r.templatesFor model ++
      classes.filter fun c => c.model.map Text.trim == some (Text.trim model)
  /-- Only models of the batch have another entry than before. -/
  kept   : ∀ model, (∀ c ∈ classes, c.model.map Text.trim ≠ some model) →
    after.templates.get? model = r.templates.get? model
  others : after = { r with templates := after.templates }

/-- The registry `after` is `r` with the indexes of a batch, each instead of
    the one that its label has. -/
structure IndexesStored (r : Registry) (indexes : List SearchIndex) (after : Registry) :
    Prop where
  found  : ∀ model, after.searchIndex? model =
    ((indexes.filter (·.label == Text.lowercase (Text.trim model))).getLast?).or
      (r.searchIndex? model)
  /-- Only labels of the batch have another entry than before. -/
  kept   : ∀ label, (∀ i ∈ indexes, i.label ≠ label) →
    after.search.get? label = r.search.get? label
  others : after = { r with search := after.search }

/-- The outcome for a batch is settled by its first element at fault. -/
theorem batchVerdict_settle {faulty : β → Bool} {violation : β → Violation}
    {Stored : Registry → Prop} {batch : List β} {outcome : Except Violation Registry}
    (hrefused : ∀ b, batch.find? faulty = some b → outcome = .error (violation b))
    (hstored : batch.find? faulty = none → ∃ after, outcome = .ok after ∧ Stored after) :
    BatchVerdict faulty violation Stored r batch (r.settle outcome) := by
  cases hfind : batch.find? faulty with
  | some b =>
    obtain ⟨hfault, front, back, hbatch, hfront⟩ := List.find?_eq_some_iff_append.mp hfind
    rw [hrefused b hfind]
    exact .refused hbatch (fun c hc => by simpa using hfront c hc) hfault
  | none =>
    obtain ⟨after, houtcome, hafter⟩ := hstored hfind
    rw [houtcome]
    exact .stored (fun b hb => by simpa using List.find?_eq_none.mp hfind b hb) hafter

/-- Classes that have a model each are stored under their models. -/
theorem templatesStored_fileTemplates {classes : List TemplateClass}
    (hclasses : ∀ c ∈ classes, c.lacksModel = false) :
    TemplatesStored r classes { r with templates := fileTemplates r.templates classes } := by
  -- The model that a class is filed under is the one that it declares.
  have htarget : ∀ model, ∀ c ∈ classes,
      (c.target == model) = (c.model.map Text.trim == some model) := by
    intro model c hc
    exact TemplateClass.target_beq (by simp [hclasses c hc]) model
  refine ⟨fun model => ?_, fun model hmodel => ?_, rfl⟩
  · rw [← List.filter_congr (htarget (Text.trim model))]
    exact get?_fileTemplates r.templates classes (Text.trim model)
  · have hnone : classes.filter (·.target == model) = [] := by
      rw [List.filter_congr (htarget model), List.filter_eq_nil_iff]
      intro c hc
      simpa using hmodel c hc
    show (fileTemplates r.templates classes).get? model = _
    rw [get?_fileTemplates_eq_filed, hnone]
    rfl

theorem indexesStored_insertAll (r : Registry) (indexes : List SearchIndex) :
    IndexesStored r indexes
      { r with search := r.search.insertAll (indexes.map fun i => (i.label, i)) } := by
  refine ⟨fun model => get?_insertAll_indexes r.search indexes _, fun label hlabel => ?_, rfl⟩
  have hnone : indexes.filter (·.label == label) = [] := by
    rw [List.filter_eq_nil_iff]
    intro i hi
    simpa using hlabel i hi
  show (r.search.insertAll _).get? label = _
  rw [get?_insertAll_indexes, hnone]
  rfl

/-! ## Main theorem -/

/-- **A batch is registered as a whole, or not at all.**  A batch of template
    extensions is refused for its first class without a model or with a blank
    one, and a batch of search indexes for its first index with a blank model;
    then every store is as it was.  Any other batch is stored: classes behind
    those of their models, in the order of the batch, and indexes under their
    labels, the last one of a label in front of any earlier; then every other
    store is as it was. -/
theorem batches_atomic (r : Registry) :
    (∀ classes, r.registerTemplates classes = r.settle (r.addTemplates classes) ∧
      BatchVerdict (·.lacksModel) (fun c => .missingModel c.name) (TemplatesStored r classes)
        r classes (r.registerTemplates classes)) ∧
    (∀ indexes, r.registerIndexes indexes = r.settle (r.addSearchIndexes indexes) ∧
      BatchVerdict (fun i => Text.isBlank i.model)
        (fun i => .searchIndexWithoutModel i.fieldsText) (IndexesStored r indexes)
        r indexes (r.registerIndexes indexes)) := by
  constructor
  · intro classes
    refine ⟨registerTemplates_eq r classes, ?_⟩
    rw [registerTemplates_eq, addTemplates_eq]
    apply batchVerdict_settle
    · intro c hfind
      rw [hfind]
    · intro hfind
      have hclasses : ∀ c ∈ classes, c.lacksModel = false := by
        intro c hc
        simpa using List.find?_eq_none.mp hfind c hc
      rw [hfind]
      exact ⟨_, rfl, templatesStored_fileTemplates hclasses⟩
  · intro indexes
    refine ⟨registerIndexes_eq r indexes, ?_⟩
    rw [registerIndexes_eq, addSearchIndexes]
    simp only [SearchIndex.isEmpty_label]
    apply batchVerdict_settle
    · intro index hfind
      rw [hfind]
    · intro hfind
      rw [hfind]
      exact ⟨_, rfl, indexesStored_insertAll r indexes⟩

/-- The class in front of one without a model is not stored either. -/
example :
    let refused := empty.registerTemplates
      [{ name := "Panel", model := some "dcim.site" }, { name := "Lost", model := some " " }]
    refused.1 = .error (.missingModel "Lost") ∧ refused.2.templatesFor "dcim.site" = [] :=
  ⟨rfl, rfl⟩

end Registry

end PluginHost
