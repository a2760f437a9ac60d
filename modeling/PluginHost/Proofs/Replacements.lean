import PluginHost.Proofs.Contents
import PluginHost.Proofs.Lookups

/-! # Sections that are replaced

    Menu items are put under the title of their section, in the place of those
    that are there, and then the section is reported as replaced.  So every
    call for items makes the sections one more or the reports one more
    (`Table.length_overwritten_add_size`), and no section is lost without a
    report.

    What is done and reported is the same whether a caller names the section
    or a plugin registers the items in its scope; in between there are other
    calls, which leave the sections as they are.  So one relation describes
    all of it (`Registry.Puts`): one lemma for each kind of step, and one for
    steps that follow each other.

    Main theorem: `sections_accounted`. -/

namespace PluginHost

open Toml (Settings Value)

universe u

/-! ## Keys that are put in again -/

namespace Table

variable {α : Type u} {t : Table α} {pairs : List (String × α)} {pair : String × α}

/-- The keys under which there is something already when the pairs are put into
    the table, one after the other. -/
def overwritten (t : Table α) : List (String × α) → List String
  | [] => []
  | pair :: rest =>
    (if t.contains pair.1 then [pair.1] else []) ++ overwritten (t.insert pair.1 pair.2) rest

theorem overwritten_append (t : Table α) (first later : List (String × α)) :
    t.overwritten (first ++ later) = t.overwritten first ++ (t.insertAll first).overwritten later := by
  induction first generalizing t with
  | nil => rfl
  | cons pair rest ih =>
    rw [List.cons_append, overwritten, overwritten, insertAll_cons, ih, List.append_assoc]

theorem contains_insert (t : Table α) (pair : String × α) (key : String) :
    (t.insert pair.1 pair.2).contains key = true ↔ pair.1 = key ∨ t.contains key = true := by
  rw [contains, get?_insert]
  by_cases hkey : pair.1 = key
  · simp [hkey]
  · simp [hkey, contains]

/-- Every pair makes the table larger, or its key has been there. -/
theorem length_overwritten_add_size (t : Table α) (pairs : List (String × α)) :
    (t.overwritten pairs).length + (t.insertAll pairs).size = t.size + pairs.length := by
  induction pairs generalizing t with
  | nil => exact Nat.zero_add t.size
  | cons pair rest ih =>
    -- The rest finds the table as the first pair leaves it.
    have hrest := ih (t.insert pair.1 pair.2)
    rw [size_insert] at hrest
    rw [overwritten, insertAll_cons, List.length_append, List.length_cons]
    by_cases hkey : t.contains pair.1 = true
    · rw [if_pos hkey] at hrest
      rw [if_pos hkey, List.length_singleton]
      omega
    · rw [if_neg hkey] at hrest
      rw [if_neg hkey, List.length_nil]
      omega

/-- None has been there if the keys are new and come only once. -/
theorem overwritten_eq_nil_iff :
    t.overwritten pairs = [] ↔
      (pairs.map (·.1)).Nodup ∧ ∀ key ∈ pairs.map (·.1), ¬t.contains key = true := by
  induction pairs generalizing t with
  | nil => simp [overwritten]
  | cons pair rest ih =>
    rw [overwritten, List.append_eq_nil_iff, ih, List.map_cons, List.nodup_cons,
      List.forall_mem_cons]
    simp only [contains_insert, not_or]
    constructor
    · rintro ⟨hfirst, hnodup, hnew⟩
      refine ⟨⟨fun hmem => (hnew _ hmem).1 rfl, hnodup⟩, ?_, fun key hkey => (hnew key hkey).2⟩
      intro hthere
      rw [if_pos hthere] at hfirst
      cases hfirst
    · rintro ⟨⟨hfirst, hnodup⟩, hnew, hrest⟩
      refine ⟨if_neg hnew, hnodup, fun key hkey => ⟨?_, hrest key hkey⟩⟩
      rintro rfl
      exact hfirst hkey

end Table

/-! ## Reports -/

/-- The section that an event reports as replaced. -/
def Event.replaced? : Event → Option String
  | .sectionReplaced title => some title
  | _ => none

/-- The sections that a log reports as replaced. -/
def replacedIn (log : List Event) : List String := log.filterMap Event.replaced?

@[simp] theorem replacedIn_append (log later : List Event) :
    replacedIn (log ++ later) = replacedIn log ++ replacedIn later :=
  List.filterMap_append

theorem replacedIn_eq_nil_iff {log : List Event} :
    replacedIn log = [] ↔ ∀ title, .sectionReplaced title ∉ log := by
  rw [replacedIn, List.filterMap_eq_nil_iff]
  constructor
  · intro h title hmem
    cases h _ hmem
  · intro h event hmem
    cases event with
    | sectionReplaced title => exact absurd hmem (h title)
    | _ => rfl

/-! ## Calls -/

namespace Registry

/-- The items that a call registers, with the title of their section. -/
def Call.sections : Call → List (String × List MenuItem)
  | .menuItems title items => [(title, items)]
  | _ => []

/-- What a call reports; one that is refused reports nothing. -/
def reported (r : Registry) (c : Call) : List Event :=
  match r.call c with
  | .ok step => step.log
  | .error _ => []

/-- Calls that are carried out one after the other, each with what it reports. -/
def record (r : Registry) : List Call → List (Call × List Event)
  | [] => []
  | c :: rest => (c, r.reported c) :: (r.after c).record rest

/-- The log of calls that are carried out one after the other. -/
def logOf (r : Registry) (calls : List Call) : List Event := (r.record calls).flatMap (·.2)

/-- Items were put into the sections, one list after the other, and the log
    reports the sections that were replaced. -/
structure Puts (r : Registry) (sections : List (String × List MenuItem)) (after : Registry)
    (log : List Event) : Prop where
  menuItems : after.menuItems = r.menuItems.insertAll sections
  replaced  : replacedIn log = r.menuItems.overwritten sections

variable {r after last : Registry} {first later sections : List (String × List MenuItem)}
  {log log' : List Event} {c : Call} {calls : List Call} {title : String}

theorem Puts.nothing (h : after.menuItems = r.menuItems) (hlog : replacedIn log = []) :
    r.Puts [] after log := ⟨h, hlog⟩

theorem Puts.trans (h : r.Puts first after log) (h' : after.Puts later last log') :
    r.Puts (first ++ later) last (log ++ log') where
  menuItems := by rw [h'.menuItems, h.menuItems, Table.insertAll_append]
  replaced := by
    rw [replacedIn_append, h.replaced, h'.replaced, h.menuItems, Table.overwritten_append]

/-- The section of the items is replaced if there are items under its title. -/
theorem replacedIn_replacementEvents (r : Registry) (title : String) (items : List MenuItem) :
    replacedIn (r.replacementEvents title) = r.menuItems.overwritten [(title, items)] := by
  unfold replacementEvents Table.overwritten
  split <;> rfl

/-- Only a call for items reports something. -/
theorem reported_eq (r : Registry) (c : Call) :
    r.reported c =
      match c with
      | .menuItems title _ => r.replacementEvents title
      | _ => [] := by
  cases c with
  | templates classes =>
    rw [reported, call]
    cases r.addTemplates classes <;> rfl
  | searchIndexes indexes =>
    rw [reported, call]
    cases r.addSearchIndexes indexes <;> rfl
  | _ => rfl

/-- And only such a call puts any into a section. -/
theorem puts_call (r : Registry) (c : Call) : r.Puts c.sections (r.after c) (r.reported c) := by
  rw [reported_eq]
  cases c with
  | menuItems title items => exact ⟨rfl, replacedIn_replacementEvents r title items⟩
  | templates classes =>
    refine .nothing ?_ rfl
    rw [after_templates]
    cases classes.find? (·.lacksModel) <;> rfl
  | searchIndexes indexes =>
    refine .nothing ?_ rfl
    rw [after_searchIndexes]
    cases indexes.find? (·.label.isEmpty) <;> rfl
  | _ => exact .nothing rfl rfl

/-- What is reported is that the section of the call was replaced. -/
theorem mem_reported {event : Event} (h : event ∈ r.reported c) :
    ∃ title items, c = .menuItems title items ∧ event = .sectionReplaced title := by
  rw [reported_eq] at h
  cases c with
  | menuItems title items =>
    have hevent : event ∈ r.replacementEvents title := h
    unfold replacementEvents at hevent
    split at hevent
    · exact ⟨title, items, rfl, List.mem_singleton.mp hevent⟩
    · cases hevent
  | _ => cases h

/-- Calls put their items into the sections, one list after the other. -/
theorem puts_record (r : Registry) (calls : List Call) :
    r.Puts (calls.flatMap Call.sections) (calls.foldl Registry.after r) (r.logOf calls) := by
  induction calls generalizing r with
  | nil => exact .nothing rfl rfl
  | cons c rest ih => exact (puts_call r c).trans (ih (r.after c))

theorem map_record (r : Registry) (calls : List Call) : (r.record calls).map (·.1) = calls := by
  induction calls generalizing r with
  | nil => rfl
  | cons c rest ih => rw [record, List.map_cons, ih]

/-- Every report in a record is that of its call. -/
theorem mem_record {entry : Call × List Event} {event : Event} (h : entry ∈ r.record calls)
    (hevent : event ∈ entry.2) :
    ∃ title items, entry.1 = .menuItems title items ∧ event = .sectionReplaced title := by
  induction calls generalizing r with
  | nil => cases h
  | cons c rest ih =>
    rcases List.mem_cons.mp h with rfl | hrest
    · exact mem_reported hevent
    · exact ih hrest

/-! ## What the log and the sections tell -/

/-- The sections and the reports together are as many as the lists of items. -/
theorem Puts.length_add_size (h : empty.Puts sections after log) :
    (replacedIn log).length + after.menuItems.size = sections.length := by
  rw [h.replaced, h.menuItems, Table.length_overwritten_add_size]
  exact Nat.zero_add sections.length

/-- A section holds the last list of items that was put into it. -/
theorem Puts.get?_eq (h : empty.Puts sections after log) (title : String) :
    after.menuItems.get? title = (sections.filter (·.1 == title)).getLast?.map (·.2) := by
  rw [h.menuItems, Table.get?_insertAll]
  exact Option.or_none

/-- Nothing is reported if the titles are all different. -/
theorem Puts.silent_iff (h : empty.Puts sections after log) :
    (∀ title, .sectionReplaced title ∉ log) ↔ (sections.map (·.1)).Nodup := by
  rw [← replacedIn_eq_nil_iff, h.replaced, Table.overwritten_eq_nil_iff]
  constructor
  · exact And.left
  · intro hnodup
    exact ⟨hnodup, fun key _ => Bool.false_ne_true⟩

end Registry

/-! ## Plugins -/

open Registry (Call Puts)

/-- The call for a contribution of a plugin: its items are for the section with
    its name for people, its preferences are under its short name. -/
def Contribution.call (d : Descriptor) : Contribution → Call
  | .searchIndexes indexes => .searchIndexes indexes
  | .templates classes => .templates classes
  | .menu own => .menu own
  | .menuItems items => .menuItems d.displayName items
  | .graphqlSchema schema => .graphqlSchema schema
  | .preferences set => .preferences d.shortName set

/-- The items of a contribution, with the title of their section. -/
def Contribution.sections (d : Descriptor) (c : Contribution) : List (String × List MenuItem) :=
  (c.call d).sections

namespace Descriptor

variable {d : Descriptor} {r : Registry} {c : Contribution} {step : Logged Registry}

/-- To register a contribution is to make its call, and to note that in the log. -/
theorem register_eq_call (d : Descriptor) (r : Registry) (c : Contribution) :
    ∃ note : Event, note.replaced? = none ∧
      d.register r c =
        (r.call (c.call d)).map fun step => ⟨step.value, step.log ++ [note]⟩ := by
  cases c with
  | searchIndexes indexes =>
    refine ⟨.searchIndexesRegistered d.name indexes.length, rfl, ?_⟩
    rw [register, Contribution.call, Registry.call]
    cases r.addSearchIndexes indexes <;> rfl
  | templates classes =>
    refine ⟨.templatesRegistered d.name (classes.map (·.name)), rfl, ?_⟩
    rw [register, Contribution.call, Registry.call]
    cases r.addTemplates classes <;> rfl
  | menu menu => exact ⟨_, rfl, rfl⟩
  | menuItems items => exact ⟨_, rfl, rfl⟩
  | graphqlSchema schema => exact ⟨_, rfl, rfl⟩
  | preferences set => exact ⟨_, rfl, rfl⟩

theorem puts_register (h : d.register r c = .ok step) :
    r.Puts (c.sections d) step.value step.log := by
  obtain ⟨note, hnote, hregister⟩ := register_eq_call d r c
  have hputs := Registry.puts_call r (c.call d)
  rw [hregister] at h
  unfold Registry.after Registry.reported at hputs
  cases hcall : r.call (c.call d) with
  | error v =>
    rw [hcall] at h
    cases h
  | ok made =>
    rw [hcall] at h hputs
    cases h
    -- The note changes nothing, and it is no report about a section.
    have hnoted : made.value.Puts [] made.value [note] :=
      .nothing rfl (List.filterMap_cons_none hnote)
    simpa [Contribution.sections] using hputs.trans hnoted

/-- A plugin puts in the items that it registers before a violation. -/
theorem puts_registerAll (d : Descriptor) (r : Registry)
    (contributions : List (Except Violation Contribution)) :
    r.Puts ((registered contributions).flatMap (Contribution.sections d))
      (d.registerAll r contributions).registry (d.registerAll r contributions).log := by
  induction contributions generalizing r with
  | nil => exact .nothing rfl rfl
  | cons head rest ih =>
    cases head with
    | error v => exact .nothing rfl rfl
    | ok c =>
      cases hv : c.violation? with
      | some v =>
        rw [registerAll, register_of_violation hv, registered, hv]
        exact .nothing rfl rfl
      | none =>
        obtain ⟨log, hstep⟩ := register_of_clean (d := d) r hv
        rw [registerAll, hstep, registered, hv]
        exact (puts_register hstep).trans (ih (r.store d c))

end Descriptor

namespace Loader

variable {plugins : List Plugin}

/-- Plugins put their items into the sections, one after the other. -/
theorem puts_initialise (r : Registry) (h : plugins.findSome? readyError = none) :
    r.Puts ((registrations plugins).flatMap fun e => e.2.sections e.1)
      (initialise r plugins).registry (initialise r plugins).log := by
  induction plugins generalizing r with
  | nil => exact .nothing rfl rfl
  | cons p rest ih =>
    rw [readyErrors_eq_none_iff, List.forall_mem_cons] at h
    have hputs := p.descriptor.puts_registerAll r p.contributions
    rw [initialise_cons h.1, registrations, List.flatMap_cons, List.flatMap_append,
      List.flatMap_map]
    exact hputs.trans (ih _ (readyErrors_eq_none_iff.mpr h.2))

/-- A load whose plugins all register what they contribute puts the items of
    all of them into the sections, and reports nothing more about sections. -/
theorem puts_load {l : Loader} {enabled : List String} {config : Table Settings} {loaded : Loaded}
    (h : (l.load enabled config).outcome = .ok loaded) :
    ∃ plugins, enabled.map l.get? = plugins.map some ∧ plugins.findSome? readyError = none ∧
      Registry.empty.Puts ((registrations plugins).flatMap fun e => e.2.sections e.1)
        loaded.registry (l.load enabled config).log := by
  obtain ⟨plugins, hselect, hready, rfl⟩ := load_ok h
  obtain ⟨-, hplugins⟩ := loadable_of_selected hselect hready
  have hputs := puts_initialise Registry.empty hready
  have hlog : (l.load enabled config).log = (initialise Registry.empty plugins).log ++
      plugins.map fun p => .pluginLoaded p.name p.descriptor.version := by
    have hnone := (initialise_error plugins Registry.empty).trans hready
    simp [load, hselect, hnone]
  -- What is logged at the end only names the plugins.
  have hquiet : replacedIn (plugins.map fun p => .pluginLoaded p.name p.descriptor.version) = [] :=
    List.filterMap_eq_nil_iff.mpr (by simp [Event.replaced?])
  rw [initialise_registry plugins Registry.empty hready] at hputs
  refine ⟨plugins, hplugins, hready, ?_⟩
  rw [hlog]
  have hall := hputs.trans (.nothing rfl hquiet)
  rwa [List.append_nil] at hall

end Loader

/-! ## Manifests -/

namespace Manifest

variable {m : Manifest} {items : Option (List MenuItem)}

/-- The manifest has a list of menu items, and there is something in it. -/
def listsItems (m : Manifest) : Bool :=
  match m.menuItems.bind Value.array? with
  | some (_ :: _) => true
  | _ => false

/-- Items that could be converted make a section exactly if there are any. -/
theorem isSome_eq_listsItems (h : m.section? = items.map .ok) : items.isSome = m.listsItems := by
  have hsome : items.isSome = m.section?.isSome := by rw [h, Option.isSome_map]
  rw [hsome]
  unfold section? sectionOf PluginHost.menuItems at h ⊢
  unfold listsItems
  cases hvalue : m.menuItems with
  | none => rfl
  | some value =>
    cases harray : value.array? with
    | none =>
      -- What is no list could not have been converted.
      rw [hvalue, Option.bind_some, harray] at h
      cases items <;> simp at h
    | some list =>
      rw [Option.bind_some, Option.bind_some, harray]
      cases list <;> rfl

/-- A manifest puts its items under its name for people, if it lists any. -/
theorem titles_given (h : firstViolation m.contributions = none) :
    (m.given Contribution.sections).map (·.1) =
      if m.listsItems then [m.plugin.displayName] else [] := by
  obtain ⟨menu, items, -, hitems, hall⟩ := registered_eq h
  rw [given, hall, flatMap_converted, ← isSome_eq_listsItems hitems]
  cases items <;> simp [Contribution.sections, Contribution.call, Call.sections]

end Manifest

/-- The titles of manifests that list items, in their order. -/
theorem titles_registrations {ms : List Manifest}
    (h : ∀ m ∈ ms, firstViolation m.contributions = none) :
    ((registrations (ms.map Manifest.toPlugin)).flatMap fun e => e.2.sections e.1).map (·.1) =
      (ms.filter (·.listsItems)).map (·.plugin.displayName) := by
  have hgiven := flatMap_registrations Contribution.sections ms
  rw [hgiven, List.map_flatMap]
  induction ms with
  | nil => rfl
  | cons m rest ih =>
    rw [List.forall_mem_cons] at h
    rw [List.flatMap_cons, Manifest.titles_given h.1,
      ih h.2 (flatMap_registrations Contribution.sections rest)]
    by_cases hlists : m.listsItems = true
    · rw [if_pos hlists, List.filter_cons_of_pos hlists]
      rfl
    · rw [if_neg hlists, List.filter_cons_of_neg hlists]
      rfl

/-- The titles of the sections that a load fills are those of the enabled
    manifests that list items. -/
theorem Loader.puts_of_manifests {host : String} {available : List Manifest}
    {enabled : List String} {config : Table Settings} {loaded : Loader.Loaded}
    (h : ((Loader.ofManifests host available).load enabled config).outcome = .ok loaded) :
    ∃ (ms : List Manifest) (sections : List (String × List MenuItem)),
      enabled.map (Loader.manifest? available) = ms.map some ∧
      sections.map (·.1) = (ms.filter (·.listsItems)).map (·.plugin.displayName) ∧
      Registry.empty.Puts sections loaded.registry
        ((Loader.ofManifests host available).load enabled config).log := by
  obtain ⟨plugins, hplugins, hready, hputs⟩ := Loader.puts_load h
  obtain ⟨ms, hms, rfl⟩ := Loader.manifests_of_selected hplugins
  exact ⟨ms, _, hms, titles_registrations (Loader.clean_of_ready hready), hputs⟩

/-! ## Main theorem -/

open Registry (built)
open Loader (ofManifests manifest?)

/-- **No section is lost without a report.**  Whatever calls a registry is built
    by, every report is about the section of its own call, the reports and the
    sections together are as many as the calls for items, and each section
    holds the items of the last call for it.  So the reports of a load and its
    sections are as many as the enabled plugins with items, and nothing is
    reported exactly if no two of these plugins have the same name for
    people. -/
theorem sections_accounted :
    (∀ calls : List Call,
      (Registry.empty.record calls).map (·.1) = calls ∧
      (∀ entry ∈ Registry.empty.record calls, ∀ event ∈ entry.2,
        ∃ title items, entry.1 = .menuItems title items ∧ event = .sectionReplaced title ∧
          event.line = "WARN Menu items for section '" ++ title ++ "' were replaced") ∧
      (replacedIn (Registry.empty.logOf calls)).length + (built calls).menuItems.size =
        (calls.flatMap Call.sections).length ∧
      ∀ title, (built calls).menuItems.get? title =
        ((calls.flatMap Call.sections).filter (·.1 == title)).getLast?.map (·.2)) ∧
    ∀ host available enabled config loaded,
      ((ofManifests host available).load enabled config).outcome = .ok loaded →
      ∃ ms : List Manifest, enabled.map (manifest? available) = ms.map some ∧
        (replacedIn ((ofManifests host available).load enabled config).log).length +
          loaded.registry.menuItems.size = (ms.filter (·.listsItems)).length ∧
        ((∀ title,
            .sectionReplaced title ∉ ((ofManifests host available).load enabled config).log) ↔
          ms.Pairwise fun m m' => m.listsItems = true → m'.listsItems = true →
            m.plugin.displayName ≠ m'.plugin.displayName) := by
  constructor
  · intro calls
    have hputs := Registry.puts_record Registry.empty calls
    refine ⟨Registry.map_record Registry.empty calls, ?_, hputs.length_add_size, hputs.get?_eq⟩
    intro entry hentry event hevent
    obtain ⟨title, items, hcall, rfl⟩ := Registry.mem_record hentry hevent
    exact ⟨title, items, hcall, rfl, rfl⟩
  · intro host available enabled config loaded hload
    obtain ⟨ms, sections, hms, htitles, hputs⟩ := Loader.puts_of_manifests hload
    have hlength : sections.length = (ms.filter (·.listsItems)).length := by
      simpa using congrArg List.length htitles
    refine ⟨ms, hms, hputs.length_add_size.trans hlength, ?_⟩
    rw [hputs.silent_iff, htitles, List.nodup_iff_pairwise_ne, List.pairwise_map,
      List.pairwise_filter]

/-! ### Two plugins with one name for people -/

/-- A load of two plugins that have the same name for people. -/
def sharedLoad : Loader.Load :=
  (ofManifests "4.1.0" [Loader.sharing "a", Loader.sharing "b"]).load ["a.maps", "b.maps"]
    Table.empty

/-- The items of the first plugin give way to those of the second one, and the
    log reports that. -/
theorem sections_accounted_shared :
    ∃ loaded, sharedLoad.outcome = .ok loaded ∧ .sectionReplaced "Maps" ∈ sharedLoad.log ∧
      ∃ ms : List Manifest, ["a.maps", "b.maps"].map
          (manifest? [Loader.sharing "a", Loader.sharing "b"]) = ms.map some ∧
        1 + loaded.registry.menuItems.size = (ms.filter (·.listsItems)).length ∧
        ¬ms.Pairwise fun m m' => m.listsItems = true → m'.listsItems = true →
          m.plugin.displayName ≠ m'.plugin.displayName := by
  have hreplaced : .sectionReplaced "Maps" ∈ sharedLoad.log := by decide
  obtain ⟨ms, hms, hcount, hsilent⟩ := sections_accounted.2 "4.1.0"
    [Loader.sharing "a", Loader.sharing "b"] ["a.maps", "b.maps"] Table.empty _ rfl
  refine ⟨_, rfl, hreplaced, ms, hms, hcount, ?_⟩
  rw [← hsilent]
  intro hquiet
  exact hquiet "Maps" hreplaced

end PluginHost
