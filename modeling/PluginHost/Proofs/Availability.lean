import PluginHost.Proofs.Selection
import Mathlib.Data.List.Nodup

/-! # Making plugins available

    A plugin becomes available if its name is new, behind the others.  So the
    names of a loader stay distinct (`Built.nodup`), and a series of
    registrations goes on until a name comes a second time
    (`registerAll_cases`).

    `registered_registerAll` says what a series comes to on a loader that has no plugins
    yet. -/

namespace PluginHost.Loader

variable {l l' : Loader} {p : Plugin} {plugins front back : List Plugin} {host : String}

/-- The loader with more plugins behind those that it has. -/
def extended (l : Loader) (plugins : List Plugin) : Loader :=
  { l with plugins := l.plugins ++ plugins }

@[simp] theorem available_extended (l : Loader) (plugins : List Plugin) :
    (l.extended plugins).available = l.available ++ plugins.map (·.name) :=
  List.map_append

@[simp] theorem extended_nil (l : Loader) : l.extended [] = l := by
  rw [extended, List.append_nil]

theorem extended_extended (l : Loader) (front back : List Plugin) :
    (l.extended front).extended back = l.extended (front ++ back) := by
  unfold extended
  rw [List.append_assoc]

/-- Of plugins with distinct names, each is found by its own. -/
theorem get?_of_mem (hnames : l.available.Nodup) (h : p ∈ l.plugins) :
    l.get? p.name = some p := by
  have hsome : (l.get? p.name).isSome = true := get?_isSome_iff.mpr (List.mem_map_of_mem h)
  obtain ⟨q, hq⟩ := Option.isSome_iff_exists.mp hsome
  have hsame : q.name = p.name := name_of_get? hq
  have hqmem : q ∈ l.plugins := List.mem_of_find?_eq_some hq
  rw [hq, List.inj_on_of_nodup_map hnames hqmem h hsame]

/-- And no other has that name. -/
theorem filter_name_eq_singleton (hnames : l.available.Nodup) (hp : p ∈ l.plugins) :
    l.plugins.filter (·.name == p.name) = [p] := by
  unfold available at hnames
  obtain ⟨front, back, hsplit⟩ := List.append_of_mem hp
  rw [hsplit, List.map_append, List.map_cons, List.nodup_append] at hnames
  obtain ⟨-, hback, hfront⟩ := hnames
  have hfront' : front.filter (·.name == p.name) = [] := by
    rw [List.filter_eq_nil_iff]
    intro q hq
    have hne := hfront q.name (List.mem_map_of_mem hq) p.name List.mem_cons_self
    simpa using hne
  have hback' : back.filter (·.name == p.name) = [] := by
    rw [List.filter_eq_nil_iff]
    intro q hq hname
    rw [beq_iff_eq] at hname
    exact (List.nodup_cons.mp hback).1 (hname ▸ List.mem_map_of_mem hq)
  rw [hsplit, List.filter_append, hfront', List.filter_cons_of_pos (by simp), hback']
  rfl

/-! ## One registration -/

theorem register_of_new (h : p.name ∉ l.available) : l.register p = .ok (l.extended [p]) := by
  rw [register, get?_eq_none_iff.mpr h]
  rfl

theorem register_of_mem (h : p.name ∈ l.available) :
    l.register p = .error ⟨p.name, .duplicate⟩ := by
  obtain ⟨q, hq⟩ := Option.isSome_iff_exists.mp (get?_isSome_iff.mpr h)
  rw [register, hq]

theorem register_eq_ok_iff :
    l.register p = .ok l' ↔ p.name ∉ l.available ∧ l' = l.extended [p] := by
  by_cases hname : p.name ∈ l.available
  · rw [register_of_mem hname]
    simp [hname]
  · rw [register_of_new hname, Except.ok.injEq]
    simp [hname, eq_comm]

theorem nodup_extended (hnames : l.available.Nodup) (hp : p.name ∉ l.available) :
    (l.extended [p]).available.Nodup := by
  rw [available_extended]
  exact List.nodup_append_comm.mp (List.nodup_cons.mpr ⟨hp, hnames⟩)

/-- The loaders that come about: without plugins at first, and then one plugin
    is registered after the other. -/
inductive Built : Loader → Prop where
  | new (host : String) : Built ⟨host, []⟩
  | register {l l' : Loader} {p : Plugin} (hl : Built l) (hregister : l.register p = .ok l') :
      Built l'

/-- No two plugins of a loader have the same name. -/
theorem Built.nodup (h : l.Built) : l.available.Nodup := by
  induction h with
  | new host => exact List.nodup_nil
  | register _ hregister ih =>
    obtain ⟨hnew, rfl⟩ := register_eq_ok_iff.mp hregister
    exact nodup_extended ih hnew

/-! ## A series of registrations -/

/-- A series leaves such a loader, whether or not it stops early. -/
theorem Built.registerAll (h : l.Built) (plugins : List Plugin) :
    (l.registerAll plugins).loader.Built := by
  induction plugins generalizing l with
  | nil => exact h
  | cons p rest ih =>
    rw [Loader.registerAll]
    cases hregister : l.register p with
    | error e => exact h
    | ok l' => exact ih (h.register hregister)

/-- All plugins of a series became available. -/
structure TakesAll (l : Loader) (plugins : List Plugin) (done : Registration) : Prop where
  names  : (l.extended plugins).available.Nodup
  error  : done.error = none
  loader : done.loader = l.extended plugins

/-- The plugins `front` became available, and then `p` could not. -/
structure StopsAt (l : Loader) (front : List Plugin) (p : Plugin) (done : Registration) :
    Prop where
  names    : (l.extended front).available.Nodup
  repeated : p.name ∈ (l.extended front).available
  error    : done.error = some ⟨p.name, .duplicate⟩
  loader   : done.loader = l.extended front

/-- A series ends with its last plugin or with the first one whose name is not
    new, and the names are distinct either way. -/
theorem registerAll_cases (hnames : l.available.Nodup) (plugins : List Plugin) :
    TakesAll l plugins (l.registerAll plugins) ∨
      ∃ front p back, plugins = front ++ p :: back ∧
        StopsAt l front p (l.registerAll plugins) := by
  induction plugins generalizing l with
  | nil =>
    left
    exact ⟨by simpa using hnames, rfl, l.extended_nil.symm⟩
  | cons p rest ih =>
    by_cases hp : p.name ∈ l.available
    · right
      refine ⟨[], p, rest, rfl, ?_⟩
      rw [registerAll, register_of_mem hp]
      exact ⟨by simpa using hnames, by simpa using hp, rfl, l.extended_nil.symm⟩
    · have hmore := nodup_extended hnames hp
      rw [registerAll, register_of_new hp]
      rcases ih hmore with h | ⟨front, q, back, rfl, h⟩
      · left
        have hall := l.extended_extended [p] rest
        exact ⟨hall ▸ h.names, h.error, h.loader.trans hall⟩
      · right
        have hfront := l.extended_extended [p] front
        exact ⟨p :: front, q, back, rfl,
          ⟨hfront ▸ h.names, hfront ▸ h.repeated, h.error, h.loader.trans hfront⟩⟩

/-! ## A fresh loader -/

/-- A series of registrations on a fresh loader does what it should: it
    succeeds if the names are distinct, and otherwise ends with the first name
    that comes again, the plugins before it being available. -/
structure Registered (host : String) (plugins : List Plugin) (done : Registration) : Prop where
  error_eq_none_iff : done.error = none ↔ (plugins.map (·.name)).Nodup
  available : done.error = none → done.loader.available = plugins.map (·.name)
  get?      : done.error = none → ∀ p ∈ plugins, done.loader.get? p.name = some p
  stopped   : ∀ e, done.error = some e →
    ∃ front p back, plugins = front ++ p :: back ∧ (front.map (·.name)).Nodup ∧
      p.name ∈ front.map (·.name) ∧ e = ⟨p.name, .duplicate⟩ ∧ done.loader = ⟨host, front⟩

theorem TakesAll.registered {done : Registration} (h : TakesAll ⟨host, []⟩ plugins done) :
    Registered host plugins done where
  error_eq_none_iff := ⟨fun _ => h.names, fun _ => h.error⟩
  available _ := by
    rw [h.loader]
    rfl
  get? _ p hp := by
    rw [h.loader]
    exact get?_of_mem h.names hp
  stopped e he := by
    rw [h.error] at he
    cases he

theorem StopsAt.registered {done : Registration} (h : StopsAt ⟨host, []⟩ front p done)
    (hplugins : plugins = front ++ p :: back) : Registered host plugins done where
  error_eq_none_iff := by
    have hrepeated : ¬(plugins.map (·.name)).Nodup := by
      rw [hplugins, List.map_append, List.map_cons, List.nodup_append]
      intro hnames
      exact hnames.2.2 _ h.repeated _ List.mem_cons_self rfl
    rw [h.error]
    exact ⟨fun hnone => absurd hnone (by simp), fun hnames => absurd hnames hrepeated⟩
  available hnone := by
    rw [h.error] at hnone
    cases hnone
  get? hnone := by
    rw [h.error] at hnone
    cases hnone
  stopped e he := by
    rw [h.error] at he
    obtain rfl := Option.some.inj he
    exact ⟨front, p, back, hplugins, h.names, h.repeated, rfl, h.loader⟩

/-- Registrations on a fresh loader do what they should. -/
theorem registered_registerAll (host : String) (plugins : List Plugin) :
    Registered host plugins (registerAll ⟨host, []⟩ plugins) := by
  have hnone : (available ⟨host, []⟩).Nodup := List.nodup_nil
  rcases registerAll_cases hnone plugins with h | ⟨front, p, back, hplugins, h⟩
  · exact h.registered
  · exact h.registered hplugins

end PluginHost.Loader
