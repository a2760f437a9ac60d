import PluginHost.Proofs.EnablingOrder

/-! # What a load collects

    A load goes through the selected plugins once and collects the apps to
    install, the middleware and the queues.  Apps that were seen before are
    left out, whichever plugin brought them; nothing else is.  Each plugin
    only adds behind what is there (`Collection.extends_add`), so what the
    plugins in front bring does not depend on the ones that follow.

    The same holds of the stores of the registry that append, and of the
    records of the plugins.  So a load of more names lists first what a load
    of the names in front lists.

    Main theorem: `load_collects`. -/

namespace PluginHost

open Toml (Settings)

namespace Loader

variable {l : Loader} {config : Table Settings} {enabled front : List String} {name : String}
  {p : Plugin} {plugins done : List Plugin} {loaded whole : Loaded}

/-! ## One pass over the plugins -/

/-- What was collected, and which apps were seen on the way. -/
structure Collection where
  seen       : List String := []
  apps       : List String := []
  middleware : List String := []
  queues     : List String := []

namespace Collection

variable {c c' c'' : Collection}

/-- Collect an app, unless it was seen. -/
def addApp (c : Collection) (app : String) : Collection :=
  if app ∈ c.seen then c else { c with seen := app :: c.seen, apps := c.apps ++ [app] }

/-- Collect what a plugin brings: the apps it depends on, itself, its
    middleware and its queues. -/
def add (c : Collection) (p : Plugin) : Collection :=
  let c := (p.descriptor.dependentApps ++ [p.name]).foldl addApp c
  { c with
    middleware := c.middleware ++ p.descriptor.middleware
    queues := c.queues ++ p.descriptor.queues.map (p.name ++ "." ++ ·) }

/-- Collect what the plugins bring, one after the other. -/
def ofPlugins (plugins : List Plugin) : Collection := plugins.foldl add {}

/-! ### What a step keeps -/

/-- What was collected first stands in front, in all three lists. -/
structure Extends (c c' : Collection) : Prop where
  apps       : c.apps <+: c'.apps
  middleware : c.middleware <+: c'.middleware
  queues     : c.queues <+: c'.queues

theorem Extends.refl (c : Collection) : Extends c c :=
  ⟨List.prefix_rfl, List.prefix_rfl, List.prefix_rfl⟩

theorem Extends.trans (h : Extends c c') (h' : Extends c' c'') : Extends c c'' :=
  ⟨h.apps.trans h'.apps, h.middleware.trans h'.middleware, h.queues.trans h'.queues⟩

theorem extends_addApp (c : Collection) (app : String) : Extends c (c.addApp app) := by
  unfold addApp
  by_cases hseen : app ∈ c.seen
  · rw [if_pos hseen]
    exact Extends.refl c
  · rw [if_neg hseen]
    exact ⟨List.prefix_append c.apps [app], List.prefix_rfl, List.prefix_rfl⟩

/-- What every step extends is extended by any number of steps. -/
theorem extends_foldl {α : Type} {step : Collection → α → Collection}
    (hstep : ∀ c a, Extends c (step c a)) (c : Collection) (l : List α) :
    Extends c (l.foldl step c) := by
  induction l generalizing c with
  | nil => exact Extends.refl c
  | cons a rest ih => exact (hstep c a).trans (ih (step c a))

theorem extends_add (c : Collection) (p : Plugin) : Extends c (c.add p) := by
  have happs := extends_foldl extends_addApp c (p.descriptor.dependentApps ++ [p.name])
  constructor
  · exact happs.apps
  · exact happs.middleware.trans (List.prefix_append _ _)
  · exact happs.queues.trans (List.prefix_append _ _)

/-- What the plugins in front bring stands in front. -/
theorem extends_ofPlugins (front back : List Plugin) :
    Extends (ofPlugins front) (ofPlugins (front ++ back)) := by
  unfold ofPlugins
  rw [List.foldl_append]
  exact extends_foldl extends_add _ back

end Collection

/-! ### What the pass comes to -/

/-- Only whether an app was seen counts, not when. -/
theorem distinct_congr {seen seen' : List String} (h : ∀ app, app ∈ seen ↔ app ∈ seen')
    (apps : List String) : distinct seen apps = distinct seen' apps := by
  induction apps generalizing seen seen' with
  | nil => rfl
  | cons a rest ih =>
    have hmore : ∀ app, app ∈ a :: seen ↔ app ∈ a :: seen' := by
      intro app
      rw [List.mem_cons, List.mem_cons, h]
    by_cases ha : a ∈ seen
    · simp [distinct, ha, (h a).mp ha, ih h]
    · have ha' : a ∉ seen' := fun hmem => ha ((h a).mpr hmem)
      simp [distinct, ha, ha', ih hmore]

/-- Later apps are kept unless they were seen, or stand in front. -/
theorem distinct_append (seen front back : List String) :
    distinct seen (front ++ back) = distinct seen front ++ distinct (front ++ seen) back := by
  induction front generalizing seen with
  | nil => rfl
  | cons a front ih =>
    by_cases ha : a ∈ seen
    · have hseen : ∀ app, app ∈ front ++ seen ↔ app ∈ a :: front ++ seen := by
        intro app
        simp only [List.cons_append, List.mem_cons, List.mem_append]
        constructor
        · exact .inr
        · rintro (rfl | hmem)
          · exact .inr ha
          · exact hmem
      simp [distinct, ha, ih, distinct_congr hseen]
    · have hseen : ∀ app, app ∈ front ++ a :: seen ↔ app ∈ a :: front ++ seen := by
        intro app
        simp [or_left_comm]
      simp [distinct, ha, ih, distinct_congr hseen]

theorem broughtApps_concat (done : List Plugin) (p : Plugin) :
    broughtApps (done ++ [p]) =
      broughtApps done ++ (p.descriptor.dependentApps ++ [p.name]) := by
  simp [broughtApps]

theorem installedApps_concat (done : List Plugin) (p : Plugin) :
    installedApps (done ++ [p]) =
      installedApps done ++
        distinct (broughtApps done) (p.descriptor.dependentApps ++ [p.name]) := by
  have happs : ∀ plugins, installedApps plugins = distinct [] (broughtApps plugins) :=
    fun _ => rfl
  rw [happs, broughtApps_concat, distinct_append, List.append_nil, ← happs]

namespace Collection

theorem apps_foldl_addApp (apps : List String) (c : Collection) :
    (apps.foldl addApp c).apps = c.apps ++ distinct c.seen apps := by
  induction apps generalizing c with
  | nil => exact (List.append_nil _).symm
  | cons a rest ih =>
    rw [List.foldl_cons, ih]
    by_cases ha : a ∈ c.seen <;> simp [addApp, distinct, ha]

theorem mem_seen_foldl_addApp {app : String} (apps : List String) (c : Collection) :
    app ∈ (apps.foldl addApp c).seen ↔ app ∈ apps ∨ app ∈ c.seen := by
  induction apps generalizing c with
  | nil => simp
  | cons a rest ih =>
    rw [List.foldl_cons, ih, List.mem_cons]
    by_cases ha : a ∈ c.seen
    · rw [addApp, if_pos ha]
      constructor
      · rintro (hrest | hseen)
        · exact .inl (.inr hrest)
        · exact .inr hseen
      · rintro ((rfl | hrest) | hseen)
        · exact .inr ha
        · exact .inl hrest
        · exact .inr hseen
    · rw [addApp, if_neg ha, List.mem_cons]
      simp only [or_left_comm, or_assoc]

/-- Apps are collected beside the other lists. -/
theorem others_foldl_addApp (apps : List String) (c : Collection) :
    (apps.foldl addApp c).middleware = c.middleware ∧
      (apps.foldl addApp c).queues = c.queues := by
  induction apps generalizing c with
  | nil => exact ⟨rfl, rfl⟩
  | cons a rest ih =>
    rw [List.foldl_cons, (ih _).1, (ih _).2, addApp]
    split <;> exact ⟨rfl, rfl⟩

/-- What was collected from the plugins `done`: an app was seen if one of them
    brought it, it was kept where it came first, and the other lists are
    complete. -/
structure Collected (done : List Plugin) (c : Collection) : Prop where
  seen       : ∀ app, app ∈ c.seen ↔ app ∈ broughtApps done
  apps       : c.apps = installedApps done
  middleware : c.middleware = Loader.middleware done
  queues     : c.queues = Loader.queues done

theorem collected_nil : Collected [] {} := ⟨fun _ => Iff.rfl, rfl, rfl, rfl⟩

/-- One more plugin. -/
theorem Collected.add {c : Collection} (h : Collected done c) (p : Plugin) :
    Collected (done ++ [p]) (c.add p) := by
  obtain ⟨hmiddleware, hqueues⟩ :=
    others_foldl_addApp (p.descriptor.dependentApps ++ [p.name]) c
  constructor
  · intro app
    rw [broughtApps_concat, List.mem_append, ← h.seen, or_comm]
    exact mem_seen_foldl_addApp (p.descriptor.dependentApps ++ [p.name]) c
  · show ((p.descriptor.dependentApps ++ [p.name]).foldl addApp c).apps = _
    rw [apps_foldl_addApp, h.apps, installedApps_concat, distinct_congr h.seen]
  · show _ ++ p.descriptor.middleware = _
    rw [hmiddleware, h.middleware]
    simp [Loader.middleware]
  · show _ ++ p.descriptor.queues.map (p.name ++ "." ++ ·) = _
    rw [hqueues, h.queues]
    simp [Loader.queues]

theorem Collected.foldl {c : Collection} (h : Collected done c) (plugins : List Plugin) :
    Collected (done ++ plugins) (plugins.foldl Collection.add c) := by
  induction plugins generalizing done c with
  | nil => rwa [List.append_nil]
  | cons p rest ih =>
    have hrest := ih (h.add p)
    rwa [List.append_assoc] at hrest

/-- The pass collects what has to be installed. -/
theorem collected_ofPlugins (plugins : List Plugin) : Collected plugins (ofPlugins plugins) :=
  collected_nil.foldl plugins

end Collection

/-- The lists for the plugins in front stand in front. -/
theorem prefixes_append (front back : List Plugin) :
    installedApps front <+: installedApps (front ++ back) ∧
      middleware front <+: middleware (front ++ back) ∧
      queues front <+: queues (front ++ back) := by
  have hextends := Collection.extends_ofPlugins front back
  have hfront := Collection.collected_ofPlugins front
  have hall := Collection.collected_ofPlugins (front ++ back)
  rw [← hfront.apps, ← hall.apps, ← hfront.middleware, ← hall.middleware, ← hfront.queues,
    ← hall.queues]
  exact ⟨hextends.apps, hextends.middleware, hextends.queues⟩

/-! ## The names in front -/

theorem Loadable.sublist (h : l.Loadable config enabled) (hsub : front.Sublist enabled) :
    l.Loadable config front where
  distinct := hsub.nodup h.distinct
  installed name hname := h.installed name (hsub.subset hname)
  accepted name hname := h.accepted name (hsub.subset hname)
  registers name hname := h.registers name (hsub.subset hname)

/-- The settings that a load leaves to an enabled plugin are the completed ones
    of the start. -/
theorem settings_of_load (h : (l.load enabled config).outcome = .ok loaded)
    (hname : name ∈ enabled) (hp : l.get? name = some p) :
    p.descriptor.validate (settingsFor config name) l.hostVersion =
      .ok (settingsFor (l.load enabled config).config name) := by
  obtain ⟨q, s, hq, hs, hentry⟩ := (get?_config_of_load h name).1 hname
  rw [hp, Option.some.injEq] at hq
  subst hq
  rw [settingsFor_of_get? hentry, hs]

/-- So two loads record a plugin alike. -/
theorem loadedPlugin_of_loads {enabled' : List String} {loaded' : Loaded}
    (h : (l.load enabled config).outcome = .ok loaded)
    (h' : (l.load enabled' config).outcome = .ok loaded') (hp : l.get? p.name = some p)
    (hname : p.name ∈ enabled) (hname' : p.name ∈ enabled') :
    loadedPlugin (l.load enabled config).config p =
      loadedPlugin (l.load enabled' config).config p := by
  have hsettings := settings_of_load h hname hp
  rw [settings_of_load h' hname' hp, Except.ok.injEq] at hsettings
  unfold loadedPlugin
  rw [hsettings]

/-- A store that appends lists first what the plugins in front contribute. -/
theorem appends_ready {α : Type} {view : Registry → List α}
    {given : Descriptor → Contribution → List α} (h : Registry.Appends view given)
    (front back : List Plugin) :
    view (front.foldl (fun r p => (p.ready r).registry) Registry.empty) <+:
      view ((front ++ back).foldl (fun r p => (p.ready r).registry) Registry.empty) := by
  rw [List.foldl_append, storeAll_registrations back, h.storeAll]
  exact List.prefix_append _ _

/-! ## Main theorem -/

/-- What a load collects from the plugins of the enabled names. -/
structure Collects (l : Loader) (enabled : List String) (loaded : Loaded) : Prop where
  distinct   : loaded.installedApps.Nodup
  apps       : ∀ app, app ∈ loaded.installedApps ↔
    app ∈ enabled ∨ ∃ p ∈ l.enabledPlugins enabled, app ∈ p.descriptor.dependentApps
  /-- Apps are in the order in which the plugins first bring them. -/
  order      : ∀ a ∈ loaded.installedApps, ∀ b ∈ loaded.installedApps,
    loaded.installedApps.idxOf a < loaded.installedApps.idxOf b ↔
      (broughtApps (l.enabledPlugins enabled)).idxOf a <
        (broughtApps (l.enabledPlugins enabled)).idxOf b
  middleware : loaded.middleware =
    (l.enabledPlugins enabled).flatMap fun p => p.descriptor.middleware
  queues     : loaded.queues = (l.enabledPlugins enabled).flatMap fun p =>
    p.descriptor.queues.map fun queue => p.name ++ "." ++ queue

/-- Everything that is listed in the order of the plugins is listed first in
    `whole`. -/
structure Leads (loaded whole : Loaded) : Prop where
  plugins       : loaded.plugins <+: whole.plugins
  installedApps : loaded.installedApps <+: whole.installedApps
  middleware    : loaded.middleware <+: whole.middleware
  queues        : loaded.queues <+: whole.queues
  menus         : loaded.registry.menus <+: whole.registry.menus
  schemas       : loaded.registry.graphqlSchemas <+: whole.registry.graphqlSchemas

theorem names_of_selected (h : enabled.map l.get? = plugins.map some) :
    plugins.map (·.name) = enabled := by
  have hpairs := forall₂_get?_iff.mp h
  rw [← List.forall₂_eq_eq_eq, List.forall₂_map_left_iff]
  exact (hpairs.imp fun name p hp => name_of_get? hp).flip

theorem collects_of_selected (h : enabled.map l.get? = plugins.map some)
    (after : Table Settings) : l.Collects enabled (assembled after plugins) := by
  have hplugins := enabledPlugins_of_selected h
  constructor
  · exact nodup_distinct [] (broughtApps plugins)
  · intro app
    rw [hplugins, ← names_of_selected h]
    show app ∈ distinct [] (broughtApps plugins) ↔ _
    rw [mem_distinct, broughtApps, List.mem_flatMap]
    simp only [List.mem_append, List.mem_singleton, List.mem_map, List.not_mem_nil,
      not_false_eq_true, and_true]
    constructor
    · rintro ⟨p, hp, hdepends | rfl⟩
      · exact .inr ⟨p, hp, hdepends⟩
      · exact .inl ⟨p, hp, rfl⟩
    · rintro (⟨p, hp, rfl⟩ | ⟨p, hp, hdepends⟩)
      · exact ⟨p, hp, .inr rfl⟩
      · exact ⟨p, hp, .inl hdepends⟩
  · intro a _ b hb
    rw [hplugins]
    exact idxOf_installedApps_lt_iff ((mem_distinct [] _).mp hb).1
  · rw [hplugins]
    rfl
  · rw [hplugins]
    rfl

/-- The load of the names in front succeeds too, and lists first what the load
    of all names lists. -/
theorem leads_of_load {back : List String}
    (h : (l.load (front ++ back) config).outcome = .ok whole) :
    ∃ loaded, (l.load front config).outcome = .ok loaded ∧ Leads loaded whole := by
  obtain ⟨loaded, hfront⟩ :=
    ((loadable_of_load h).sublist (List.sublist_append_left front back)).load
  refine ⟨loaded, hfront, ?_⟩
  -- The plugins of all names are those of the names in front, and more.
  obtain ⟨plugins, hselect, hready, hloaded⟩ := load_ok hfront
  obtain ⟨all, hselect', hready', hwhole⟩ := load_ok h
  have hnames := (loadable_of_selected hselect hready).2
  have hnames' := (loadable_of_selected hselect' hready').2
  rw [List.map_append, hnames] at hnames'
  obtain ⟨others, hothers⟩ : ∃ others, all = plugins ++ others := by
    obtain ⟨first, others, hall, hfirst, -⟩ := List.map_eq_append_iff.mp hnames'.symm
    have hsame : first = plugins := List.map_injective_iff.mpr (fun _ _ => Option.some.inj) hfirst
    exact ⟨others, by rw [hall, hsame]⟩
  subst hothers
  obtain ⟨happs, hmiddleware, hqueues⟩ := prefixes_append plugins others
  rw [hloaded, hwhole]
  refine ⟨?_, happs, hmiddleware, hqueues, appends_ready Registry.appends_menus plugins others,
    appends_ready Registry.appends_schemas plugins others⟩
  -- Both loads complete the same settings for a plugin in front.
  have hrecords : plugins.map (loadedPlugin (l.load front config).config) =
      plugins.map (loadedPlugin (l.load (front ++ back) config).config) := by
    apply List.map_congr_left
    intro p hp
    obtain ⟨hname, hget⟩ := mem_of_selected hnames hp
    exact loadedPlugin_of_loads hfront h hget hname (List.mem_append_left back hname)
  show plugins.map (loadedPlugin (l.load front config).config) <+: _
  rw [hrecords]
  exact (List.prefix_append plugins others).map _

/-- **What a load collects.**  The apps to install are the enabled names and
    all apps that their plugins depend on, without repetition and in the order
    in which they first come; middleware and queues are those of the plugins
    one after the other.  The load of any names in front succeeds too, and
    what it lists is what the whole load lists first. -/
theorem load_collects (h : (l.load enabled config).outcome = .ok loaded) :
    enabled.map l.get? = (l.enabledPlugins enabled).map some ∧
      l.Collects enabled loaded ∧
      ∀ front back, enabled = front ++ back →
        ∃ first, (l.load front config).outcome = .ok first ∧ Leads first loaded := by
  refine ⟨?_, ?_, ?_⟩
  · obtain ⟨plugins, hselect, hready, -⟩ := load_ok h
    have hplugins := (loadable_of_selected hselect hready).2
    rw [enabledPlugins_of_selected hplugins, hplugins]
  · obtain ⟨plugins, hselect, hready, rfl⟩ := load_ok h
    exact collects_of_selected (loadable_of_selected hselect hready).2 _
  · rintro front back rfl
    exact leads_of_load h

/-! ### A host whose plugins share an app -/

/-- Both plugins depend on an app of their own and on a shared one, and have a
    queue of the same name. -/
def sharedHost : Loader :=
  ⟨"4.1.0",
    [⟨{ name := "a", dependentApps := ["base", "ui"], queues := ["jobs"],
        middleware := ["auth"] }, []⟩,
     ⟨{ name := "b", dependentApps := ["a", "base", "db"], queues := ["jobs"],
        middleware := ["auth"] }, [.ok (.menu { label := "B", groups := [] })]⟩]⟩

/-- The shared app is installed once, at its first place, and middleware that
    both have is run twice.  Without the second plugin the lists end earlier. -/
theorem load_collects_shared :
    ∃ loaded, (sharedHost.load ["a", "b"] Table.empty).outcome = .ok loaded ∧
      loaded.installedApps = ["base", "ui", "a", "db", "b"] ∧
      loaded.middleware = ["auth", "auth"] ∧ loaded.queues = ["a.jobs", "b.jobs"] ∧
      sharedHost.Collects ["a", "b"] loaded ∧
      ∃ first, (sharedHost.load ["a"] Table.empty).outcome = .ok first ∧
        first.installedApps = ["base", "ui", "a"] ∧ Leads first loaded := by
  obtain ⟨-, hcollects, hleads⟩ := @load_collects sharedHost Table.empty ["a", "b"] _ rfl
  obtain ⟨first, hfirst, hfront⟩ := hleads ["a"] ["b"] rfl
  refine ⟨_, rfl, by decide, rfl, rfl, hcollects, first, hfirst, ?_, hfront⟩
  obtain rfl := Except.ok.inj hfirst
  decide

end Loader

end PluginHost
