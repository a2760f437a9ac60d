import PluginHost.Proofs.Loading
import Mathlib.Logic.Relation

/-! # The order of the installed apps

    The apps to install are collected in one pass over the enabled plugins:
    for each plugin the apps it depends on, then the plugin itself, and only
    the first occurrence of an app counts.  A plugin that is mentioned as
    somebody's dependency is therefore installed at that place, whether or not
    its own dependencies stand before it.

    Main theorem (`dependencies_first_iff`): dependencies come first exactly
    when no plugin is mentioned ahead of what it depends on.  That no plugin
    depends on itself is not enough (`dependency_after_dependent`). -/

namespace PluginHost

namespace Loader

variable {l : Loader} {config : Table Toml.Settings} {enabled : List String}
  {plugins : List Plugin}

/-! ## First occurrences -/

theorem mem_distinct {a : String} (seen apps : List String) :
    a ∈ distinct seen apps ↔ a ∈ apps ∧ a ∉ seen := by
  induction apps generalizing seen with
  | nil => simp [distinct]
  | cons b rest ih =>
    by_cases hb : b ∈ seen
    · have hskip : distinct seen (b :: rest) = distinct seen rest := by simp [distinct, hb]
      rw [hskip, ih]
      constructor
      · rintro ⟨hrest, hnew⟩
        exact ⟨List.mem_cons_of_mem _ hrest, hnew⟩
      · rintro ⟨hmem, hnew⟩
        rcases List.mem_cons.mp hmem with rfl | hrest
        · exact absurd hb hnew
        · exact ⟨hrest, hnew⟩
    · have hkeep : distinct seen (b :: rest) = b :: distinct (b :: seen) rest := by
        simp [distinct, hb]
      rw [hkeep, List.mem_cons, ih]
      by_cases hab : a = b
      · subst hab
        simp [hb]
      · simp [hab]

/-- What stands in front of a first occurrence is kept in front of it. -/
theorem distinct_append_cons {b : String} (seen : List String) {front : List String}
    (rest : List String) (hfront : b ∉ front) (hseen : b ∉ seen) :
    ∃ tail, distinct seen (front ++ b :: rest) = distinct seen front ++ b :: tail := by
  induction front generalizing seen with
  | nil => exact ⟨distinct (b :: seen) rest, by simp [distinct, hseen]⟩
  | cons c front ih =>
    rw [List.mem_cons, not_or] at hfront
    by_cases hc : c ∈ seen
    · obtain ⟨tail, htail⟩ := ih _ hfront.2 hseen
      exact ⟨tail, by simp [distinct, hc, htail]⟩
    · have hseen' : b ∉ c :: seen := by
        rw [List.mem_cons, not_or]
        exact ⟨hfront.1, hseen⟩
      obtain ⟨tail, htail⟩ := ih _ hfront.2 hseen'
      exact ⟨tail, by simp [distinct, hc, htail]⟩

/-- What comes before a first occurrence is what stands in front of it. -/
theorem idxOf_lt_idxOf_iff {a b : String} {front rest : List String} (hfront : b ∉ front) :
    (front ++ b :: rest).idxOf a < (front ++ b :: rest).idxOf b ↔ a ∈ front := by
  have hb : (front ++ b :: rest).idxOf b = front.length := by
    rw [List.idxOf_append_of_notMem hfront, List.idxOf_cons_self, Nat.add_zero]
  rw [hb]
  constructor
  · intro hlt
    by_contra hmem
    rw [List.idxOf_append_of_notMem hmem] at hlt
    omega
  · intro hmem
    rw [List.idxOf_append_of_mem hmem]
    exact List.idxOf_lt_length_of_mem hmem

/-- Without repetitions, apps are in the order of their first occurrences. -/
theorem idxOf_distinct_lt_iff {a b : String} {apps : List String} (hb : b ∈ apps) :
    (distinct [] apps).idxOf a < (distinct [] apps).idxOf b ↔ apps.idxOf a < apps.idxOf b := by
  obtain ⟨front, rest, rfl, hfront⟩ := List.eq_append_cons_of_mem hb
  obtain ⟨tail, htail⟩ := distinct_append_cons [] rest hfront List.not_mem_nil
  have hkept : b ∉ distinct [] front := fun h => hfront ((mem_distinct [] front).mp h).1
  rw [htail, idxOf_lt_idxOf_iff hkept, idxOf_lt_idxOf_iff hfront, mem_distinct]
  simp

/-! ## Mentions -/

/-- The apps as the plugins bring them along, repetitions included. -/
def broughtApps (plugins : List Plugin) : List String :=
  plugins.flatMap fun p => p.descriptor.dependentApps ++ [p.name]

/-- No plugin is mentioned ahead of what it depends on: where a plugin first
    appears as a dependency, everything it depends on has appeared already. -/
def MentionedLate (plugins : List Plugin) : Prop :=
  ∀ front q back earlier p later,
    plugins = front ++ q :: back →
    q.descriptor.dependentApps = earlier ++ p.name :: later →
    p ∈ plugins → p.name ∉ broughtApps front ++ earlier →
    ∀ d ∈ p.descriptor.dependentApps, d ∈ broughtApps front ++ earlier

/-- A first occurrence is brought along by some plugin, as a dependency or as
    the plugin itself. -/
theorem broughtApps_eq_append_cons {a : String} {front rest : List String}
    (h : broughtApps plugins = front ++ a :: rest) (hfirst : a ∉ front) :
    ∃ done q back, plugins = done ++ q :: back ∧
      ((q.name = a ∧ front = broughtApps done ++ q.descriptor.dependentApps) ∨
        ∃ earlier later, q.descriptor.dependentApps = earlier ++ a :: later ∧
          front = broughtApps done ++ earlier) := by
  induction plugins generalizing front with
  | nil => simp [broughtApps] at h
  | cons q back ih =>
    have hcons : broughtApps (q :: back) =
        q.descriptor.dependentApps ++ (q.name :: broughtApps back) := by
      simp [broughtApps]
    rw [hcons] at h
    rcases List.append_eq_append_iff.mp h with ⟨middle, hfront, hback⟩ | ⟨middle, hdeps, htail⟩
    · -- The occurrence comes after the dependencies of `q`.
      cases middle with
      | nil =>
        have hname : q.name = a := by simpa using (List.cons.inj hback).1
        exact ⟨[], q, back, rfl, .inl ⟨hname, by simpa [broughtApps] using hfront⟩⟩
      | cons b middle =>
        obtain ⟨rfl, hback'⟩ := List.cons.inj hback
        have hmiddle : a ∉ middle := fun hmem => hfirst (by rw [hfront]; simp [hmem])
        obtain ⟨done, q', back', rfl, hwhere⟩ := ih hback' hmiddle
        refine ⟨q :: done, q', back', rfl, ?_⟩
        have hdone : broughtApps (q :: done) =
            q.descriptor.dependentApps ++ (q.name :: broughtApps done) := by
          simp [broughtApps]
        rcases hwhere with ⟨hname, hm⟩ | ⟨earlier, later, hdeps, hm⟩
        · exact .inl ⟨hname, by rw [hfront, hm, hdone]; simp⟩
        · exact .inr ⟨earlier, later, hdeps, by rw [hfront, hm, hdone]; simp⟩
    · -- The occurrence is among the dependencies of `q`, or right behind them.
      cases middle with
      | nil =>
        have hname : q.name = a := ((List.cons.inj htail).1).symm
        exact ⟨[], q, back, rfl, .inl ⟨hname, by simpa [broughtApps] using hdeps.symm⟩⟩
      | cons b later =>
        obtain ⟨rfl, -⟩ := List.cons.inj htail
        exact ⟨[], q, back, rfl, .inr ⟨front, later, hdeps, by simp [broughtApps]⟩⟩

/-- Dependencies come first in the apps exactly when they come first in what
    the plugins bring along. -/
theorem idxOf_installedApps_lt_iff {a b : String} (hb : b ∈ broughtApps plugins) :
    (installedApps plugins).idxOf a < (installedApps plugins).idxOf b ↔
      (broughtApps plugins).idxOf a < (broughtApps plugins).idxOf b :=
  idxOf_distinct_lt_iff hb

theorem name_mem_broughtApps {p : Plugin} (h : p ∈ plugins) : p.name ∈ broughtApps plugins :=
  List.mem_flatMap.mpr ⟨p, h, by simp⟩

/-! ## Dependencies first -/

/-- With distinct names, dependencies come first exactly when no plugin is
    mentioned ahead of what it depends on. -/
theorem broughtApps_order_iff
    (hnames : ∀ p ∈ plugins, ∀ q ∈ plugins, p.name = q.name → p = q) :
    (∀ p ∈ plugins, ∀ d ∈ p.descriptor.dependentApps,
        (broughtApps plugins).idxOf d < (broughtApps plugins).idxOf p.name) ↔
      MentionedLate plugins := by
  constructor
  · intro h front q back earlier p later hplugins hdeps hp hfirst d hd
    -- The mention is the first occurrence, so only what stands in front counts.
    have hsplit : broughtApps plugins = (broughtApps front ++ earlier) ++
        p.name :: (later ++ q.name :: broughtApps back) := by
      rw [hplugins]
      simp [broughtApps, hdeps]
    have hlt := h p hp d hd
    rw [hsplit] at hlt
    exact (idxOf_lt_idxOf_iff hfirst).mp hlt
  · intro h p hp d hd
    obtain ⟨front, rest, hsplit, hfirst⟩ :=
      List.eq_append_cons_of_mem (name_mem_broughtApps hp)
    rw [hsplit, idxOf_lt_idxOf_iff hfirst]
    obtain ⟨done, q, back, hplugins, hwhere⟩ := broughtApps_eq_append_cons hsplit hfirst
    rcases hwhere with ⟨hname, hfront⟩ | ⟨earlier, later, hdeps, hfront⟩
    · -- The plugin appears as itself, behind its own dependencies.
      have hq : q ∈ plugins := by
        rw [hplugins]
        simp
      have heq : q = p := hnames q hq p hp hname
      subst heq
      rw [hfront]
      exact List.mem_append_right _ hd
    · rw [hfront] at hfirst ⊢
      exact h done q back earlier p later hplugins hdeps hp hfirst d hd

/-- Every plugin is enabled after the enabled plugins that it depends on. -/
def EnabledInOrder (plugins : List Plugin) : Prop :=
  ∀ front q back, plugins = front ++ q :: back →
    ∀ p ∈ plugins, p.name ∈ q.descriptor.dependentApps → p ∈ front

/-- Plugins that are enabled after the plugins they depend on are never
    mentioned early. -/
theorem EnabledInOrder.mentionedLate (h : EnabledInOrder plugins) : MentionedLate plugins := by
  intro front q back earlier p later hplugins hdeps hp hfirst
  have hmentioned : p.name ∈ q.descriptor.dependentApps := by
    rw [hdeps]
    simp
  have hfront := h front q back hplugins p hp hmentioned
  exact absurd (List.mem_append_left _ (name_mem_broughtApps hfront)) hfirst

/-! ## Main theorem -/

/-- App `a` is installed strictly before app `b`. -/
def InstalledBefore (apps : List String) (a b : String) : Prop :=
  b ∈ apps ∧ apps.idxOf a < apps.idxOf b

/-- **Dependencies first.**  After a load, every app that an enabled plugin
    depends on is installed before the plugin exactly when no enabled plugin is
    mentioned ahead of what it depends on.  Enabling plugins after those they
    depend on is enough for that. -/
theorem dependencies_first_iff {loaded : Loaded}
    (h : (l.load enabled config).outcome = .ok loaded) :
    ((∀ p ∈ l.enabledPlugins enabled, ∀ d ∈ p.descriptor.dependentApps,
        InstalledBefore loaded.installedApps d p.name) ↔
      MentionedLate (l.enabledPlugins enabled)) ∧
    (EnabledInOrder (l.enabledPlugins enabled) → MentionedLate (l.enabledPlugins enabled)) := by
  obtain ⟨plugins, hselect, hready, rfl⟩ := load_ok h
  obtain ⟨-, hplugins⟩ := loadable_of_selected hselect hready
  rw [enabledPlugins_of_selected hplugins, assembled]
  refine ⟨?_, EnabledInOrder.mentionedLate⟩
  -- Both plugins are the ones that the loader has under their name.
  have hnames : ∀ p ∈ plugins, ∀ q ∈ plugins, p.name = q.name → p = q := by
    intro p hp q hq hname
    have hget := (mem_of_selected hplugins hp).2
    rw [hname, (mem_of_selected hplugins hq).2] at hget
    exact (Option.some.inj hget).symm
  rw [← broughtApps_order_iff hnames]
  constructor
  · intro hfirst p hp d hd
    exact (idxOf_installedApps_lt_iff (name_mem_broughtApps hp)).mp (hfirst p hp d hd).2
  · intro hfirst p hp d hd
    have hbrought := name_mem_broughtApps hp
    exact ⟨(mem_distinct [] _).mpr ⟨hbrought, List.not_mem_nil⟩,
      (idxOf_installedApps_lt_iff hbrought).mpr (hfirst p hp d hd)⟩

/-! ### A chain of dependencies -/

/-- Plugin `a` depends on plugin `b`. -/
def chainStart : Plugin := ⟨{ name := "a", dependentApps := ["b"] }, []⟩

/-- Plugin `b` depends on an app `c`. -/
def chainMiddle : Plugin := ⟨{ name := "b", dependentApps := ["c"] }, []⟩

/-- A host with both plugins. -/
def chain : Loader := ⟨"4.1.0", [chainStart, chainMiddle]⟩

/-- Enabled in order, the chain is installed from its end. -/
theorem dependencies_first_chain :
    ∃ loaded, (chain.load ["b", "a"] Table.empty).outcome = .ok loaded ∧
      loaded.installedApps = ["c", "b", "a"] ∧
      ((∀ p ∈ chain.enabledPlugins ["b", "a"], ∀ d ∈ p.descriptor.dependentApps,
          InstalledBefore loaded.installedApps d p.name) ↔
        MentionedLate (chain.enabledPlugins ["b", "a"])) ∧
      (EnabledInOrder (chain.enabledPlugins ["b", "a"]) →
        MentionedLate (chain.enabledPlugins ["b", "a"])) :=
  ⟨_, rfl, rfl, dependencies_first_iff rfl⟩

/-- An enabled plugin depends directly on an app. -/
def DependsOn (l : Loader) (enabled : List String) (name app : String) : Prop :=
  ∃ p ∈ l.enabledPlugins enabled, p.name = name ∧ app ∈ p.descriptor.dependentApps

/-- No plugin reaches itself when every dependency lies deeper. -/
theorem acyclic_of_depth (depth : String → Nat)
    (h : ∀ name app, l.DependsOn enabled name app → depth name < depth app) (name : String) :
    ¬Relation.TransGen (l.DependsOn enabled) name name := by
  have hpath : ∀ first last, Relation.TransGen (l.DependsOn enabled) first last →
      depth first < depth last := by
    intro first last hpath
    induction hpath with
    | single hstep => exact h _ _ hstep
    | tail _ hstep ih => exact Nat.lt_trans ih (h _ _ hstep)
  intro hcycle
  exact Nat.lt_irrefl _ (hpath name name hcycle)

/-- How deep an app lies in the chain. -/
def chainDepth (app : String) : Nat := if app = "a" then 0 else if app = "b" then 1 else 2

/-- Enabled in the other order, the chain is still without cycles.  But `a`
    mentions `b` first, and so `b` is installed ahead of `c`, on which it
    depends. -/
theorem dependency_after_dependent :
    ∃ loaded, (chain.load ["a", "b"] Table.empty).outcome = .ok loaded ∧
      (∀ name, ¬Relation.TransGen (chain.DependsOn ["a", "b"]) name name) ∧
      chain.DependsOn ["a", "b"] "b" "c" ∧
      loaded.installedApps = ["b", "a", "c"] ∧
      ¬InstalledBefore loaded.installedApps "c" "b" := by
  have hplugins : chain.enabledPlugins ["a", "b"] = [chainStart, chainMiddle] := rfl
  refine ⟨_, rfl, acyclic_of_depth chainDepth ?_, ?_, rfl, ?_⟩
  · rintro name app ⟨p, hp, rfl, happ⟩
    rw [hplugins] at hp
    rcases List.mem_cons.mp hp with rfl | hp
    · obtain rfl : app = "b" := List.mem_singleton.mp happ
      decide
    · obtain rfl := List.mem_singleton.mp hp
      obtain rfl : app = "c" := List.mem_singleton.mp happ
      decide
  · exact ⟨chainMiddle, by rw [hplugins]; simp, rfl, List.mem_singleton.mpr rfl⟩
  · rintro ⟨-, hlt⟩
    revert hlt
    decide

end Loader

end PluginHost
