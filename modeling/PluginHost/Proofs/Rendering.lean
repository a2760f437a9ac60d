import PluginHost.Proofs.Contents
import PluginHost.Proofs.Steps
import PluginHost.Proofs.Toml.Documents

/-! # What a slot shows

    The content of a slot is put together from the template extensions of the
    page's model.  The pieces are rendered one after the other, and the first
    one that fails is the answer: a list of pieces is all there, or there is a
    first one that is missing (`all_or_first_error`).

    Main theorem (`slots_of_load`): after a load of manifests that were read, a
    slot shows what the enabled ones declare for it, in the order of the plugins
    and of their definitions.  What a definition declares is said field by field
    (`TemplateClass.declared`). -/

namespace PluginHost

open Toml (Settings Shape Item Value)

/-! ## The classes of a model -/

section

variable {renderer : Renderer} {context : Context} {slot : Slot}

/-- The pieces that classes put into a slot, rendered. -/
def renderedPieces (renderer : Renderer) (context : Context) (slot : Slot)
    (classes : List TemplateClass) : List (Except RenderError String) :=
  classes.filterMap fun c => (c.source slot).map (·.render renderer context)

/-- A class that leaves the slot empty adds nothing. -/
theorem renderClasses_cons_none {c : TemplateClass} (h : c.source slot = none)
    (rest : List TemplateClass) :
    Registry.renderClasses renderer context slot (c :: rest) =
      Registry.renderClasses renderer context slot rest := by
  rw [Registry.renderClasses, TemplateClass.render, h]
  cases Registry.renderClasses renderer context slot rest with
  | error e => rfl
  | ok later => simp [bind, Except.bind, pure, Except.pure]

theorem renderClasses_cons_some {c : TemplateClass} {source : SlotSource}
    (h : c.source slot = some source) (rest : List TemplateClass) :
    Registry.renderClasses renderer context slot (c :: rest) =
      (source.render renderer context).bind fun text =>
        (Registry.renderClasses renderer context slot rest).map (text ++ ·) := by
  rw [Registry.renderClasses, TemplateClass.render, h]
  simp only
  cases source.render renderer context with
  | error e => rfl
  | ok text => rfl

theorem renderedPieces_cons_some {c : TemplateClass} {source : SlotSource}
    (h : c.source slot = some source) (rest : List TemplateClass) :
    renderedPieces renderer context slot (c :: rest) =
      source.render renderer context :: renderedPieces renderer context slot rest := by
  simp [renderedPieces, h]

/-- The content of a slot is its pieces, if they are all there. -/
theorem renderClasses_eq (classes : List TemplateClass) :
    Registry.renderClasses renderer context slot classes =
      ((renderedPieces renderer context slot classes).mapM id).map String.join := by
  induction classes with
  | nil => rfl
  | cons c rest ih =>
    cases hsource : c.source slot with
    | none =>
      rw [renderClasses_cons_none hsource, ih, renderedPieces, renderedPieces,
        List.filterMap_cons_none (by rw [hsource]; rfl)]
    | some source =>
      rw [renderClasses_cons_some hsource, ih, renderedPieces_cons_some hsource, mapM_id_cons]
      cases source.render renderer context with
      | error e => rfl
      | ok text =>
        cases (renderedPieces renderer context slot rest).mapM id with
        | error e => rfl
        | ok parts => simp [Except.map, Except.bind]

end

/-! ## Templates of manifests -/

/-- What a definition puts into a slot: its HTML as it is, or its template
    rendered with the page's own context. -/
def SlotSource.content (renderer : Renderer) (context : Context) :
    SlotSource → Except RenderError String
  | .html text => .ok text
  | .template name _ => renderer name context

/-- What a definition declares for each slot of a page. -/
def TemplateClass.declared (c : TemplateClass) (renderer : Renderer) (context : Context) :
    Slot → Option (Except RenderError String)
  | .leftPage => c.leftPage.map (·.content renderer context)
  | .rightPage => c.rightPage.map (·.content renderer context)
  | .fullWidthPage => c.fullWidthPage.map (·.content renderer context)
  | .buttons => c.buttons.map (·.content renderer context)

/-- Templates are named without a context of their own, as manifests name
    them. -/
def TemplateClass.Plain (c : TemplateClass) : Prop :=
  ∀ slot name extra, c.source slot = some (.template name extra) → extra = Table.empty

/-- The definitions of a manifest say of templates nothing but their names. -/
def Manifest.Plain (m : Manifest) : Prop := ∀ c ∈ m.templates.getD [], c.Plain

theorem TemplateClass.Plain.congr {c c' : TemplateClass} (hc : c.Plain)
    (h : ∀ slot, c'.source slot = c.source slot) : c'.Plain := by
  intro slot name extra hsource
  exact hc slot name extra ((h slot).symm.trans hsource)

theorem TemplateClass.Plain.render_eq {c : TemplateClass} (h : c.Plain) {slot : Slot}
    {source : SlotSource} (hsource : c.source slot = some source) (renderer : Renderer)
    (context : Context) : source.render renderer context = source.content renderer context := by
  cases source with
  | html text => rfl
  | template name extra =>
    rw [h slot name extra hsource]
    rfl

/-- What is rendered for a slot is what the definition declares for it. -/
theorem TemplateClass.Plain.rendered_eq_declared {c : TemplateClass} (h : c.Plain)
    (renderer : Renderer) (context : Context) (slot : Slot) :
    (c.source slot).map (·.render renderer context) = c.declared renderer context slot := by
  have hcontent : (c.source slot).map (·.render renderer context) =
      (c.source slot).map (·.content renderer context) :=
    Option.map_congr fun source hsource => h.render_eq hsource renderer context
  rw [hcontent]
  cases slot <;> rfl

/-! ### Manifests that are read -/

section

variable {α : Type} {shape : Shape α} {P : α → Prop}

/-- Reading the field keeps what holds of the record. -/
def FieldKeeps (P : α → Prop) (field : Toml.Field α) : Prop :=
  ∀ item a b, P a → field.read item a = .ok b → P b

/-- A field keeps what holds whichever value is set. -/
theorem fieldKeeps_optional {β : Type} {name : String} {decode : Toml.Decoder β}
    {set : β → α → α} (h : ∀ item v a, P a → decode item = .ok v → P (set v a)) :
    FieldKeeps P (.optional name decode set) := by
  intro item a b ha hread
  obtain ⟨v, hv, hb⟩ := bind_eq_ok hread
  cases hb
  exact h item v a ha hv

theorem fieldKeeps_needed {β : Type} {name : String} {decode : Toml.Decoder β}
    {set : β → α → α} (h : ∀ item v a, P a → decode item = .ok v → P (set v a)) :
    FieldKeeps P (.needed name decode set) := by
  have hoptional : FieldKeeps P (.optional name decode set) := fieldKeeps_optional h
  exact hoptional

/-- What every field keeps holds of a record that is read from a table. -/
theorem ofEntries_preserves {entries : Entries Item} {a : α} (hblank : P shape.blank)
    (hfields : ∀ field ∈ shape.fields, FieldKeeps P field)
    (h : shape.ofEntries entries = .ok a) : P a := by
  obtain ⟨b, hread, hend⟩ := bind_eq_ok h
  have hb : P b := by
    refine foldlM_preserves (fun a e b ha hentry => ?_) hblank hread
    unfold Shape.readEntry at hentry
    split at hentry
    · rename_i field hfield
      exact hfields field (List.mem_of_find?_eq_some hfield) e.2 a b ha hentry
    · -- An entry that no field names leaves the record as it is.
      cases hignored : e.2.ignore with
      | error fault =>
        rw [hignored] at hentry
        cases hentry
      | ok _ =>
        rw [hignored] at hentry
        cases hentry
        exact ha
  split at hend
  · cases hend
  · cases hend
    exact hb

/-- And of one that is read from an array. -/
theorem ofItems_preserves {items : List Item} {a : α} (hblank : P shape.blank)
    (hfields : ∀ field ∈ shape.fields, FieldKeeps P field)
    (h : shape.ofItems items = .ok a) : P a := by
  have hall : ∀ (position : Nat) (fields : List (Toml.Field α)) (items : List Item) (a b : α),
      (∀ field ∈ fields, field ∈ shape.fields) → P a →
      shape.readFields position fields items a = .ok b → P b := by
    intro position fields items a
    fun_induction Shape.readFields shape position fields items a with
    | case1 position items a =>
      intro b _ ha hread
      cases hread
      exact ha
    | case2 position field fields a hrequired =>
      intro b _ _ hread
      cases hread
    | case3 position field fields a hrequired ih =>
      intro b hsub ha hread
      exact ih b (fun f hf => hsub f (List.mem_cons_of_mem field hf)) ha hread
    | case4 position field fields item items a ih =>
      intro b hsub ha hread
      obtain ⟨a', hfield, hrest⟩ := bind_eq_ok hread
      have ha' : P a' := hfields field (hsub field List.mem_cons_self) item a a' ha hfield
      exact ih a' b (fun f hf => hsub f (List.mem_cons_of_mem field hf)) ha' hrest
  exact hall 0 shape.fields items shape.blank a (fun _ hf => hf) hblank h

theorem decode_preserves {item : Item} {a : α} (hblank : P shape.blank)
    (hfields : ∀ field ∈ shape.fields, FieldKeeps P field)
    (h : shape.decode item = .ok a) : P a := by
  unfold Shape.decode at h
  split at h
  · exact ofItems_preserves hblank hfields h
  · split at h
    · exact ofEntries_preserves hblank hfields h
    · cases h

end

theorem extra_of_decode {item : Item} {name : String} {extra : Context}
    (h : SlotSource.decode item = .ok (.template name extra)) : extra = Table.empty := by
  unfold SlotSource.decode at h
  obtain ⟨-, -, h⟩ := bind_eq_ok h
  split at h
  · cases h
  · split at h
    · cases h
      rfl
    · cases h
  · cases h

/-- A slot that is filled with what was decoded names no context either. -/
theorem TemplateClass.Plain.fill {c c' : TemplateClass} (hc : c.Plain) (slot : Slot)
    {source : SlotSource} {item : Item} (hdecode : SlotSource.decode item = .ok source)
    (hfill : ∀ other, c'.source other = if other = slot then some source else c.source other) :
    c'.Plain := by
  intro other name extra hsource
  rw [hfill] at hsource
  split at hsource
  · cases hsource
    exact extra_of_decode hdecode
  · exact hc other name extra hsource

theorem plain_of_decode {item : Item} {c : TemplateClass}
    (h : TemplateClass.shape.decode item = .ok c) : c.Plain := by
  refine decode_preserves (P := TemplateClass.Plain) ?_ ?_ h
  · intro slot name extra hsource
    cases slot <;> cases hsource
  · intro field hfield
    simp only [TemplateClass.shape, List.mem_cons, List.not_mem_nil, or_false] at hfield
    rcases hfield with rfl | rfl | rfl | rfl | rfl | rfl
    -- The name and the model fill no slot; each other field fills one.
    · exact fieldKeeps_needed fun item v c hc _ => hc.congr fun slot => by cases slot <;> rfl
    · exact fieldKeeps_optional fun item v c hc _ => hc.congr fun slot => by cases slot <;> rfl
    · exact fieldKeeps_optional fun item v c hc hv =>
        hc.fill .leftPage hv fun slot => by cases slot <;> rfl
    · exact fieldKeeps_optional fun item v c hc hv =>
        hc.fill .rightPage hv fun slot => by cases slot <;> rfl
    · exact fieldKeeps_optional fun item v c hc hv =>
        hc.fill .fullWidthPage hv fun slot => by cases slot <;> rfl
    · exact fieldKeeps_optional fun item v c hc hv =>
        hc.fill .buttons hv fun slot => by cases slot <;> rfl

theorem plain_of_decodeList {item : Item} {classes : List TemplateClass}
    (h : Toml.Decoder.list TemplateClass.shape.decode item = .ok classes) :
    ∀ c ∈ classes, c.Plain := by
  unfold Toml.Decoder.list at h
  split at h
  · intro c hc
    obtain ⟨item, -, hitem⟩ := mem_of_mapM_eq_ok h hc
    exact plain_of_decode hitem
  · cases h

/-- A manifest that is read says of templates nothing but their names. -/
theorem Manifest.plain_of_parse {text : String} {m : Manifest} (h : Manifest.parse text = .ok m) :
    m.Plain := by
  obtain ⟨entries, hm⟩ : ∃ entries, Manifest.shape.ofEntries entries = .ok m := by
    unfold parse Toml.readAs at h
    split at h
    · cases h
    · rename_i entries _
      split at h
      · rename_i m' hm
        cases h
        exact ⟨entries, hm⟩
      · split at h <;> cases h
  refine ofEntries_preserves (P := Manifest.Plain) ?_ ?_ hm
  · intro c hc
    cases hc
  · intro field hfield
    simp only [Manifest.shape, List.mem_cons, List.not_mem_nil, or_false] at hfield
    rcases hfield with rfl | rfl | rfl | rfl | rfl | rfl | rfl
    · exact fieldKeeps_needed fun item v m hm _ => hm
    · exact fieldKeeps_optional fun item v m hm _ => hm
    · exact fieldKeeps_optional fun item v m hm _ => hm
    · refine fieldKeeps_optional fun item classes m hm hclasses => ?_
      exact plain_of_decodeList hclasses
    · exact fieldKeeps_optional fun item v m hm _ => hm
    · exact fieldKeeps_optional fun item v m hm _ => hm
    · exact fieldKeeps_optional fun item v m hm _ => hm

/-- What the definitions of manifests put into a slot on the pages of a model,
    those of earlier manifests first. -/
def declaredContents (ms : List Manifest) (renderer : Renderer) (model : String) (slot : Slot)
    (context : Context) : List (Except RenderError String) :=
  (declaredTemplates ms (Text.trim model)).filterMap (·.declared renderer context slot)

theorem renderedPieces_declared {ms : List Manifest} (h : ∀ m ∈ ms, m.Plain)
    (renderer : Renderer) (model : String) (slot : Slot) (context : Context) :
    renderedPieces renderer context slot (declaredTemplates ms (Text.trim model)) =
      declaredContents ms renderer model slot context := by
  unfold renderedPieces declaredContents
  apply List.filterMap_congr
  intro c hc
  -- Every class is a definition of one of the manifests.
  obtain ⟨m, hm, hmem⟩ := List.mem_flatMap.mp (List.mem_of_mem_filter hc)
  exact (h m hm c hmem).rendered_eq_declared renderer context slot

/-! ## Main theorem -/

namespace Loader

variable {host : String} {available : List Manifest} {enabled : List String}
  {config : Table Settings}

theorem mem_available_of_selected {ms : List Manifest} {m : Manifest}
    (h : enabled.map (manifest? available) = ms.map some) (hm : m ∈ ms) : m ∈ available := by
  have hmem : some m ∈ enabled.map (manifest? available) := h ▸ List.mem_map_of_mem hm
  obtain ⟨name, -, hname⟩ := List.mem_map.mp hmem
  exact List.mem_of_find?_eq_some hname

/-- **What a slot shows.**  After a load of manifests that were read, a slot on
    the pages of a model shows the pieces that the enabled manifests declare for
    it, joined in the order of the plugins and of their definitions, and it
    fails exactly with the first piece that does. -/
theorem slots_of_load {loaded : Loaded}
    (h : ((ofManifests host available).load enabled config).outcome = .ok loaded)
    (hread : ∀ m ∈ available, ∃ text, Manifest.parse text = .ok m) :
    ∃ ms, enabled.map (manifest? available) = ms.map some ∧
      ∀ (renderer : Renderer) (model : String) (slot : Slot) (context : Context),
        (∀ html, loaded.registry.renderSlot renderer model slot context = .ok html ↔
          ∃ parts, declaredContents ms renderer model slot context = parts.map .ok ∧
            html = String.join parts) ∧
        (∀ e, loaded.registry.renderSlot renderer model slot context = .error e ↔
          ∃ (parts : List String) (later : List (Except RenderError String)),
            declaredContents ms renderer model slot context =
              parts.map .ok ++ .error e :: later) := by
  obtain ⟨ms, hms, hdeclared⟩ := declaredBy_of_load h
  refine ⟨ms, hms, fun renderer model slot context => ?_⟩
  have hplain : ∀ m ∈ ms, m.Plain := by
    intro m hm
    obtain ⟨text, htext⟩ := hread m (mem_available_of_selected hms hm)
    exact Manifest.plain_of_parse htext
  -- The slot is put together from the pieces of the declared definitions.
  have hrender : loaded.registry.renderSlot renderer model slot context =
      ((declaredContents ms renderer model slot context).mapM id).map String.join := by
    have hclasses : loaded.registry.templatesFor model = declaredTemplates ms (Text.trim model) :=
      hdeclared.templates (Text.trim model)
    rw [Registry.renderSlot, hclasses, renderClasses_eq, renderedPieces_declared hplain]
  rw [hrender]
  refine ⟨fun html => ?_, fun e => ?_⟩
  · simp only [← mapM_id_eq_ok_iff]
    cases (declaredContents ms renderer model slot context).mapM id <;>
      simp [Except.map, eq_comm]
  · rw [← mapM_id_eq_error_iff]
    cases (declaredContents ms renderer model slot context).mapM id <;> simp [Except.map]

/-! ### A page that two plugins extend -/

/-- A banner before the left side of a site's page, with a button. -/
def banner (vendor : String) : Table Value where
  entries :=
    [("buttons", .string (vendor ++ "!")), ("left_page", .string (vendor ++ ";")),
     ("model", .string "dcim.site "), ("name", .string "Banner")]
  ordered := Entries.ordered_iff_keys.mpr
    (show ["buttons", "left_page", "model", "name"].Pairwise (· < ·) by decide)

/-- A table with one text. -/
def textTable (key text : String) : Table Value where
  entries := [(key, .string text)]
  ordered := List.pairwise_singleton _ _

/-- A panel on both sides of a site's page. -/
def panel (template : String) : Table Value where
  entries :=
    [("left_page", .ofTable (textTable "template" template)), ("model", .string " dcim.site"),
     ("name", .string "Panel"),
     ("right_page", .ofTable (textTable "template" (template ++ "2")))]
  ordered := Entries.ordered_iff_keys.mpr
    (show ["left_page", "model", "name", "right_page"].Pairwise (· < ·) by decide)

/-- Something for another page. -/
def other : Table Value where
  entries :=
    [("full_width_page", .string "no"), ("model", .string "dcim.rack"), ("name", .string "Other")]
  ordered := by decide

/-- A manifest with all three. -/
def paneledTable (vendor template : String) : Table Value where
  entries :=
    [("plugin", .ofTable (textTable "name" vendor)),
     ("template_extensions",
      .array [.ofTable (banner vendor), .ofTable (panel template), .ofTable other])]
  ordered := Entries.ordered_iff_keys.mpr
    (show ["plugin", "template_extensions"].Pairwise (· < ·) by decide)

theorem legible_paneledTable (vendor template : String) :
    ∀ e ∈ (paneledTable vendor template).entries, e.2.Legible 1 := by
  have htext : ∀ (key text : String) (keys : Nat), keys ≤ Toml.nestingLimit →
      (Value.ofTable (textTable key text)).Legible keys := fun key text keys hkeys =>
    Toml.legible_table hkeys (List.forall_mem_singleton.mpr (Toml.legible_string text))
  refine List.forall_mem_cons.mpr ⟨htext "name" vendor 1 (by decide),
    List.forall_mem_singleton.mpr (Toml.legible_tables rfl ?_)⟩
  simp only [List.forall_mem_cons, List.not_mem_nil, false_implies, implies_true, and_true]
  refine ⟨Toml.legible_table (by decide) ?_, Toml.legible_table (by decide) ?_,
    Toml.legible_table (by decide) ?_⟩
  · simp [banner, Toml.legible_string]
  · have htemplate : ∀ name, (Value.ofTable (textTable "template" name)).Legible 2 :=
      fun name => htext "template" name 2 (by decide)
    simp [panel, Toml.legible_string, htemplate]
  · simp [other, Toml.legible_string]

/-- The manifest that its text is read as. -/
def paneled (vendor template : String) : Manifest where
  plugin := { name := vendor }
  templates := some
    [{ name := "Banner", model := some "dcim.site ", leftPage := some (.html (vendor ++ ";")),
       buttons := some (.html (vendor ++ "!")) },
     { name := "Panel", model := some " dcim.site", leftPage := some (.template template),
       rightPage := some (.template (template ++ "2")) },
     { name := "Other", model := some "dcim.rack", fullWidthPage := some (.html "no") }]

theorem parse_paneledTable (vendor template : String) :
    Manifest.parse (Toml.documentText (paneledTable vendor template).entries) =
      .ok (paneled vendor template) := by
  have hdecode : Manifest.shape.ofEntries
      ((paneledTable vendor template).entries.map Toml.sectionEntry) =
        .ok (paneled vendor template) := by
    simp only [paneledTable, banner, panel, other, textTable, Value.ofTable, List.map_cons,
      List.map_nil, Toml.sectionEntry, Value.sectionItem, Value.item]
    rfl
  rw [Manifest.parse, Toml.readAs, Toml.readDocument_documentText (.refl _)
    (paneledTable vendor template).ordered (legible_paneledTable vendor template)]
  simp only [hdecode]

/-- The slots of a site's page: left, right, full width, buttons. -/
def sitePage (registry : Registry) (renderer : Renderer) : List (Except RenderError String) :=
  [Slot.leftPage, .rightPage, .fullWidthPage, .buttons].map fun slot =>
    registry.renderSlot renderer "dcim.site" slot Table.empty

/-- A renderer that shows which template it was asked for. -/
def showing : Renderer := fun name _ => .ok ("<" ++ name ++ ">")

/-- A renderer without templates. -/
def failing : Renderer := fun name _ => .error ⟨name, "gone"⟩

/-- The pieces of both plugins stand in the order of the enabled names, each in
    its own slot; the full width is left empty.  Without templates the slots
    with a panel fail at the panel of the first plugin. -/
theorem slots_of_load_paneled :
    ∃ loaded, ((ofManifests "4.1.0" [paneled "a" "x", paneled "b" "y"]).load
        ["b", "a"] Table.empty).outcome = .ok loaded ∧
      (∀ m ∈ [paneled "a" "x", paneled "b" "y"], ∃ text, Manifest.parse text = .ok m) ∧
      sitePage loaded.registry showing =
        [.ok "b;<y>a;<x>", .ok "<y2><x2>", .ok "", .ok "b!a!"] ∧
      sitePage loaded.registry failing =
        [.error ⟨"y", "gone"⟩, .error ⟨"y2", "gone"⟩, .ok "", .ok "b!a!"] ∧
      ∃ ms, ["b", "a"].map (manifest? [paneled "a" "x", paneled "b" "y"]) = ms.map some ∧
        ∀ (renderer : Renderer) (model : String) (slot : Slot) (context : Context),
          (∀ html, loaded.registry.renderSlot renderer model slot context = .ok html ↔
            ∃ parts, declaredContents ms renderer model slot context = parts.map .ok ∧
              html = String.join parts) ∧
          (∀ e, loaded.registry.renderSlot renderer model slot context = .error e ↔
            ∃ (parts : List String) (later : List (Except RenderError String)),
              declaredContents ms renderer model slot context =
                parts.map .ok ++ .error e :: later) := by
  have hread : ∀ m ∈ [paneled "a" "x", paneled "b" "y"], ∃ text, Manifest.parse text = .ok m := by
    refine List.forall_mem_cons.mpr ⟨⟨_, parse_paneledTable "a" "x"⟩, ?_⟩
    exact List.forall_mem_singleton.mpr ⟨_, parse_paneledTable "b" "y"⟩
  exact ⟨_, rfl, hread, by decide +kernel, by decide +kernel,
    @slots_of_load "4.1.0" [paneled "a" "x", paneled "b" "y"] ["b", "a"] Table.empty _ rfl hread⟩

end Loader

end PluginHost
