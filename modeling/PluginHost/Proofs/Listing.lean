import PluginHost.Program
import PluginHost.Proofs.Availability
import PluginHost.Proofs.Loading

/-! # The list of plugins

    The list has a row for each available plugin, with a mark for the enabled
    ones, and behind them a row for each enabled name that has no plugin.  So
    it accounts for all plugins and all names (`Accounts`), and shows which
    names are in the way of a load.

    But a host without any plugins prints a notice instead of the list, and
    enabled names go unmentioned then.  Main theorem (`list_accounts_iff`):
    this is the only exception. -/

namespace PluginHost

open Toml (Settings)

/-! ## Rows -/

namespace Report

/-- A row of the list. -/
inductive Row where
  /-- An available plugin, and whether it is enabled. -/
  | available (p : Plugin) (enabled : Bool)
  /-- An enabled name without a plugin. -/
  | missing (name : String)

/-- The name in a row. -/
def Row.name : Row → String
  | .available p _ => p.name
  | .missing name => name

/-- The line of a row. -/
def Row.text : Row → String
  | .available p enabled =>
    row p.name p.descriptor.version (if enabled then "enabled" else "disabled")
      ++ " " ++ p.descriptor.displayName
  | .missing name => row name "-" "missing"

/-- The lines above the rows. -/
def heading : List String :=
  [row "NAME" "VERSION" "STATUS" ++ " VERBOSE NAME", String.ofList (List.replicate 70 '-')]

/-- The lines show the rows: under a heading, or by a notice that there are
    none. -/
inductive Shows : List String → List Row → Prop where
  | table (rows : List Row) : Shows (heading ++ rows.map Row.text) rows
  | notice : Shows ["No plugins installed."] []

/-- The rows account for the available plugins and the enabled names. -/
structure Accounts (l : Loader) (enabled : List String) (rows : List Row) : Prop where
  /-- An available plugin has one row, with a mark if it is enabled. -/
  available : ∀ p ∈ l.plugins,
    rows.filter (·.name == p.name) = [.available p (decide (p.name ∈ enabled))]
  /-- An enabled name has a row of its own if it has no plugin. -/
  missing   : ∀ name, .missing name ∈ rows ↔ name ∈ enabled ∧ name ∉ l.available
  /-- All other rows are those of available plugins. -/
  only      : ∀ p status, .available p status ∈ rows → p ∈ l.plugins

variable {l : Loader} {enabled : List String} {rows : List Row} {name : String}

/-- The rows that the list has. -/
def listed (l : Loader) (enabled : List String) : List Row :=
  l.plugins.map (fun p => .available p (decide (p.name ∈ enabled)))
    ++ (enabled.filter fun name => (l.get? name).isNone).map .missing

theorem available_of_plugins (h : l.plugins ≠ []) (enabled : List String) :
    available l enabled = heading ++ (listed l enabled).map Row.text := by
  have hsome : l.plugins.isEmpty = false := by simpa using h
  have hrows : availableRow enabled = Row.text ∘
      fun p => Row.available p (decide (p.name ∈ enabled)) := by
    funext p
    simp [availableRow, Row.text]
  have hmissing : missingRow = Row.text ∘ Row.missing := rfl
  simp [available, listed, heading, hsome, hrows, hmissing]

theorem available_of_no_plugins (h : l.plugins = []) (enabled : List String) :
    available l enabled = ["No plugins installed."] := by
  simp [available, h]

theorem accounts_listed (hl : l.Built) (enabled : List String) :
    Accounts l enabled (listed l enabled) := by
  constructor
  · intro p hp
    have hplugins : (l.plugins.map fun p => Row.available p (decide (p.name ∈ enabled))).filter
        (·.name == p.name) = [.available p (decide (p.name ∈ enabled))] := by
      rw [List.filter_map]
      show (l.plugins.filter (·.name == p.name)).map _ = _
      rw [Loader.filter_name_eq_singleton hl.nodup hp]
      rfl
    -- The names behind the plugins have no plugin.
    have hothers : ((enabled.filter fun name => (l.get? name).isNone).map Row.missing).filter
        (·.name == p.name) = [] := by
      rw [List.filter_eq_nil_iff]
      intro r hr hname
      obtain ⟨name, hname', rfl⟩ := List.mem_map.mp hr
      obtain rfl : name = p.name := by simpa [Row.name] using hname
      have hget := (List.mem_filter.mp hname').2
      rw [Option.isNone_iff_eq_none, Loader.get?_eq_none_iff] at hget
      exact hget (List.mem_map_of_mem hp)
    rw [listed, List.filter_append, hplugins, hothers, List.append_nil]
  · intro name
    simp [listed, Loader.get?_eq_none_iff]
  · intro p status hmem
    have hrow : ∃ q ∈ l.plugins, q = p ∧ decide (q.name ∈ enabled) = status := by
      simpa [listed] using hmem
    obtain ⟨q, hq, rfl, -⟩ := hrow
    exact hq

/-- Rows that account for enabled names show the ones that a load misses. -/
theorem Accounts.missing_of_load (h : Accounts l enabled rows) {settings : Table Settings}
    (hload : (l.load enabled settings).outcome = .error ⟨name, .notInstalled⟩) :
    .missing name ∈ rows :=
  (h.missing name).mpr (Loader.missing_of_load hload)

/-- With such a row no load succeeds. -/
theorem Accounts.not_loaded (h : Accounts l enabled rows) (hname : .missing name ∈ rows)
    (settings : Table Settings) (loaded : Loader.Loaded) :
    (l.load enabled settings).outcome ≠ .ok loaded := by
  intro hload
  obtain ⟨henabled, hmissing⟩ := (h.missing name).mp hname
  exact hmissing ((Loader.loadable_of_load hload).installed name henabled)

/-- A notice in place of rows accounts for all enabled names if there are
    none. -/
theorem accounts_nil_iff (h : l.plugins = []) : Accounts l enabled [] ↔ enabled = [] := by
  have hnone : ∀ name, name ∉ l.available := by
    intro name
    simp [Loader.available, h]
  constructor
  · intro haccounts
    rw [List.eq_nil_iff_forall_not_mem]
    intro name hname
    exact absurd ((haccounts.missing name).mpr ⟨hname, hnone name⟩) List.not_mem_nil
  · rintro rfl
    exact ⟨by simp [h], by simp, nofun⟩

end Report

/-! ## Main theorem -/

namespace Program

open Report (Accounts Shows Row)

variable {l : Loader}

/-- **The list accounts for all plugins and all enabled names**, unless there are
    no plugins and some names are enabled; then there are no rows at all.
    Where it does, it has a row for a missing plugin exactly if some enabled
    name has none, the names that loads report are among those rows, and no
    load succeeds as long as there is one. -/
theorem list_accounts_iff (config : HostConfig) (hl : l.Built) :
    execute config l .list = { stdout := printed (Report.available l config.plugins) } ∧
    ((∃ rows, Shows (Report.available l config.plugins) rows ∧
        Accounts l config.plugins rows) ↔ (l.plugins = [] → config.plugins = [])) ∧
    (l.plugins = [] → ∀ rows, Shows (Report.available l config.plugins) rows → rows = []) ∧
    ∀ rows, Accounts l config.plugins rows →
      ((∃ name, .missing name ∈ rows) ↔ ∃ name ∈ config.plugins, name ∉ l.available) ∧
      (∀ settings name,
        (l.load config.plugins settings).outcome = .error ⟨name, .notInstalled⟩ →
          .missing name ∈ rows) ∧
      ∀ name, .missing name ∈ rows → ∀ settings loaded,
        (l.load config.plugins settings).outcome ≠ .ok loaded := by
  have hnotice : l.plugins = [] → ∀ rows,
      Shows (Report.available l config.plugins) rows → rows = [] := by
    intro hnone rows hshows
    rw [Report.available_of_no_plugins hnone] at hshows
    generalize hlines : ["No plugins installed."] = lines at hshows
    cases hshows with
    | table => simp [Report.heading] at hlines
    | notice => rfl
  refine ⟨rfl, ⟨?_, ?_⟩, hnotice, ?_⟩
  · rintro ⟨rows, hshows, haccounts⟩ hnone
    obtain rfl := hnotice hnone rows hshows
    exact (Report.accounts_nil_iff hnone).mp haccounts
  · intro hempty
    by_cases hnone : l.plugins = []
    · rw [Report.available_of_no_plugins hnone]
      exact ⟨[], .notice, (Report.accounts_nil_iff hnone).mpr (hempty hnone)⟩
    · rw [Report.available_of_plugins hnone]
      exact ⟨_, .table _, Report.accounts_listed hl config.plugins⟩
  · intro rows haccounts
    refine ⟨?_, fun settings name => haccounts.missing_of_load, fun name => haccounts.not_loaded⟩
    simp only [haccounts.missing]

/-! ### A host with a plugin, and one without -/

/-- A host with one plugin. -/
def stocked : Loader := ⟨"4.1.0", [⟨{ name := "acme", version := "1.2" }, []⟩]⟩

/-- A configuration that enables the plugin and another one. -/
def ghostly : HostConfig := { plugins := ["ghost", "acme"] }

/-- Both have a row, and no load succeeds. -/
theorem list_accounts_iff_stocked :
    stocked.Built ∧
      (∃ rows, Shows (Report.available stocked ghostly.plugins) rows ∧
        Accounts stocked ghostly.plugins rows ∧ .missing "ghost" ∈ rows) ∧
      ∀ settings loaded, (stocked.load ghostly.plugins settings).outcome ≠ .ok loaded := by
  have hbuilt : stocked.Built := (Loader.Built.new "4.1.0").registerAll stocked.plugins
  obtain ⟨-, haccounts, -, hloads⟩ := list_accounts_iff ghostly hbuilt
  obtain ⟨rows, hshows, hrows⟩ := haccounts.mpr (by simp [stocked])
  obtain ⟨-, -, hnever⟩ := hloads rows hrows
  have hghost : .missing "ghost" ∈ rows := (hrows.missing "ghost").mpr (by decide)
  exact ⟨hbuilt, ⟨rows, hshows, hrows, hghost⟩, hnever "ghost" hghost⟩

/-- Without plugins a load misses the enabled one, but the list has no row for
    it. -/
theorem missing_unlisted :
    Loader.Built ⟨"4.1.0", []⟩ ∧
      (Loader.load ⟨"4.1.0", []⟩ ghostly.plugins Table.empty).outcome =
        .error ⟨"ghost", .notInstalled⟩ ∧
      execute ghostly ⟨"4.1.0", []⟩ .list = { stdout := "No plugins installed.\n" } ∧
      ¬∃ rows, Shows (Report.available ⟨"4.1.0", []⟩ ghostly.plugins) rows ∧
        .missing "ghost" ∈ rows := by
  refine ⟨.new "4.1.0", rfl, rfl, ?_⟩
  rintro ⟨rows, hshows, hmem⟩
  generalize hlines : Report.available ⟨"4.1.0", []⟩ ghostly.plugins = lines at hshows
  cases hshows with
  | table rows =>
    have hlength := congrArg List.length hlines
    simp [Report.available, Report.heading] at hlength
  | notice => cases hmem

end Program

end PluginHost
