import PluginHost.HostConfig
import PluginHost.Proofs.FileTree
import PluginHost.Proofs.Toml.Documents

/-! # Configurations that were saved

    A configuration that is saved to a path that can be written is there again
    when it is loaded from the path (`load_save`).  Its settings must be made of
    values that a document can hold (`Value.Storable`): no table that starts
    with the key of date-times is one, as it comes back as a date-time
    (`reserved_key_not_kept`). -/

namespace PluginHost

open Toml (Settings Value Item sectionEntry)

/-! ## Tables as documents -/

namespace Toml

/-- A value that is the same again after it was written to a document, where it
    stands at a path of `keys` keys. -/
structure Value.Storable (keys : Nat) (v : Value) : Prop extends v.Legible keys where
  unreserved : v.Unreserved

/-- A table of a document decodes entry by entry. -/
theorem decodeTable_sectionItem {α : Type} {decode : Decoder α} (give : α → Value) (t : Table α)
    (h : ∀ e ∈ t.entries, decode (give e.2).sectionItem = .ok e.2) :
    Decoder.table decode (Value.ofTable (t.map give)).sectionItem = .ok t := by
  have hentries : (t.map give).entries.map sectionEntry =
      t.entries.map fun e => (e.1, (give e.2).sectionItem) := by
    rw [Table.map, List.map_map]
    rfl
  have hall := decodeEntries_map (fun a => (give a).sectionItem) t h
  rw [Value.ofTable, Value.sectionItem]
  change decodeEntries decode ((t.map give).entries.map sectionEntry) = .ok t
  rw [hentries]
  exact hall

/-- Settings as a table of a document. -/
theorem decodeSettings_sectionItem {settings : Settings}
    (h : ∀ e ∈ settings.entries, e.2.Plain ∧ e.2.Unreserved) :
    Decoder.settings (Value.ofTable settings).sectionItem = .ok settings := by
  have hsame : settings.map id = settings := Table.ext (List.map_id _)
  have hall : Decoder.table Decoder.value (Value.ofTable (settings.map id)).sectionItem =
      .ok settings :=
    decodeTable_sectionItem id settings fun e he =>
      Value.ofItem_sectionItem (h e he).1 (h e he).2
  rw [hsame] at hall
  exact hall

/-- Texts in a row. -/
theorem sectionItem_strings (texts : List String) :
    (Value.strings texts).sectionItem = .array false (texts.map fun s => .scalar (.string s)) := by
  -- An array of texts is no array of tables, even if it is empty.
  have hflat : (Value.strings texts).isNested = false := by
    cases texts with
    | nil => rfl
    | cons s rest => rfl
  rw [Value.sectionItem_of_inline hflat, Value.strings, Value.item, List.map_map]
  congr 1
  refine List.map_congr_left fun s _ => ?_
  simp [Value.item]

theorem decodeStrings (texts : List String) :
    Decoder.list Decoder.string (Value.strings texts).sectionItem = .ok texts := by
  rw [sectionItem_strings]
  exact mapM_map_eq_ok fun s _ => rfl

end Toml

/-! ## Configurations as documents -/

namespace HostConfig

variable {c : HostConfig}

/-- The entries of a configuration in the order of their keys. -/
def sortedEntries (c : HostConfig) : Entries Value :=
  ("host_version", .string c.hostVersion) :: (optionalEntry "log_dir" c.logDir
    ++ ("plugins", .strings c.plugins)
      :: ("plugins_config", Value.ofTable (c.pluginsConfig.map Value.ofTable))
      :: optionalEntry "plugins_dir" c.pluginsDir)

theorem perm_sortedEntries (c : HostConfig) : c.entries.Perm c.sortedEntries := by
  have hdirectories : (optionalEntry "plugins_dir" c.pluginsDir ++ optionalEntry "log_dir" c.logDir
      ++ [("plugins_config", Value.ofTable (c.pluginsConfig.map Value.ofTable))]).Perm
      (optionalEntry "log_dir" c.logDir
        ++ ("plugins_config", Value.ofTable (c.pluginsConfig.map Value.ofTable))
          :: optionalEntry "plugins_dir" c.pluginsDir) := by
    rw [List.append_assoc]
    refine List.perm_append_comm.trans (.of_eq ?_)
    simp
  have hentries : c.entries = ("host_version", .string c.hostVersion)
      :: ("plugins", .strings c.plugins)
      :: (optionalEntry "plugins_dir" c.pluginsDir ++ optionalEntry "log_dir" c.logDir
        ++ [("plugins_config", Value.ofTable (c.pluginsConfig.map Value.ofTable))]) := by
    simp [entries]
  rw [hentries, sortedEntries]
  exact (List.Perm.cons _ ((hdirectories.cons _).trans List.perm_middle.symm))

theorem ordered_sortedEntries (c : HostConfig) : c.sortedEntries.Ordered := by
  obtain ⟨hostVersion, plugins, pluginsDir, logDir, pluginsConfig⟩ := c
  -- With a directory left out, the keys are some of the five.
  have hall : ["host_version", "log_dir", "plugins", "plugins_config", "plugins_dir"].Pairwise
      (· < ·) := by decide
  refine Entries.ordered_iff_keys.mpr (hall.sublist ?_)
  cases pluginsDir <;> cases logDir <;> simp [sortedEntries, optionalEntry]

/-- The settings of every plugin are made of values that a document can hold;
    they stand at the path of the plugin's table and their own key. -/
def Storable (c : HostConfig) : Prop :=
  ∀ p ∈ c.pluginsConfig.entries, ∀ e ∈ p.2.entries, e.2.Storable 3

theorem sectionEntry_text (key text : String) :
    sectionEntry (key, .string text) = (key, .scalar (.string text)) := by
  rw [sectionEntry, Value.sectionItem, Value.item]

/-- A text that may be left out is read if it is there. -/
theorem readEntry_optional (key : String) (put : Option String → HostConfig)
    (hput : ∀ text, shape.readEntry (put none) (key, .scalar (.string text)) = .ok (put (some text)))
    (value : Option String) :
    ((optionalEntry key value).map sectionEntry).foldlM shape.readEntry (put none) =
      .ok (put value) := by
  cases value with
  | none => rfl
  | some text =>
    simp only [optionalEntry, Option.map_some, Option.toList_some, List.map_cons, List.map_nil,
      sectionEntry_text]
    exact foldlM_cons_ok (hput text)

theorem readEntry_hostVersion (c : HostConfig) (text : String) :
    shape.readEntry c (sectionEntry ("host_version", .string text)) =
      .ok { c with hostVersion := text } := by
  rw [sectionEntry_text]
  rfl

theorem readEntry_plugins (c : HostConfig) (texts : List String) :
    shape.readEntry c (sectionEntry ("plugins", .strings texts)) =
      .ok { c with plugins := texts } :=
  Toml.Field.read_optional (Toml.decodeStrings texts) c

theorem readEntry_pluginsConfig (c : HostConfig) {item : Item} {config : Table Settings}
    (h : Toml.Decoder.table .settings item = .ok config) :
    shape.readEntry c ("plugins_config", item) = .ok { c with pluginsConfig := config } :=
  Toml.Field.read_optional h c

theorem decode_pluginsConfig (hc : c.Storable) :
    Toml.Decoder.table .settings (Value.ofTable (c.pluginsConfig.map Value.ofTable)).sectionItem =
      .ok c.pluginsConfig :=
  Toml.decodeTable_sectionItem Value.ofTable c.pluginsConfig fun p hp =>
    Toml.decodeSettings_sectionItem fun e he => ⟨(hc p hp e he).plain, (hc p hp e he).unreserved⟩

/-- No entry of a configuration is needed. -/
theorem ofEntries_of_readEntries {entries : Entries Item}
    (h : entries.foldlM shape.readEntry shape.blank = .ok c) : shape.ofEntries entries = .ok c :=
  Toml.Shape.ofEntries_eq_ok h rfl

/-- The entries of a configuration decode to the configuration. -/
theorem decode_sortedEntries (hc : c.Storable) :
    shape.ofEntries (c.sortedEntries.map sectionEntry) = .ok c := by
  obtain ⟨hostVersion, plugins, pluginsDir, logDir, pluginsConfig⟩ := c
  -- The configuration as far as it is read after each entry.
  have hversion := readEntry_hostVersion {} hostVersion
  have hlog := readEntry_optional "log_dir" (fun dir => { hostVersion, logDir := dir })
    (fun _ => rfl) logDir
  have hplugins := readEntry_plugins { hostVersion, logDir } plugins
  have hconfig := readEntry_pluginsConfig { hostVersion, plugins, logDir } (decode_pluginsConfig hc)
  have hdir := readEntry_optional "plugins_dir"
    (fun dir => { hostVersion, plugins, pluginsDir := dir, logDir, pluginsConfig }) (fun _ => rfl)
    pluginsDir
  refine ofEntries_of_readEntries ?_
  rw [sortedEntries, List.map_cons, List.map_append, List.map_cons, List.map_cons]
  exact (foldlM_cons_ok hversion).trans ((foldlM_append_ok hlog).trans
    ((foldlM_cons_ok hplugins).trans ((foldlM_cons_ok hconfig).trans hdir)))

theorem legible_entries (hc : c.Storable) : ∀ e ∈ c.entries, e.2.Legible 1 := by
  have hoptional : ∀ key value, ∀ e ∈ optionalEntry key value, e.2.Legible 1 := by
    intro key value e he
    cases value with
    | none => cases he
    | some text =>
      obtain rfl : e = (key, .string text) := List.mem_singleton.mp he
      exact Toml.legible_string text
  have hconfig : (Value.ofTable (c.pluginsConfig.map Value.ofTable)).Legible 1 := by
    refine Toml.legible_table (by decide) fun d hd => ?_
    obtain ⟨p, hp, rfl⟩ := List.mem_map.mp hd
    exact Toml.legible_table (by decide) fun e he => (hc p hp e he).toLegible
  intro e he
  simp only [entries, List.mem_append, List.mem_cons, List.not_mem_nil, or_false] at he
  rcases he with (((rfl | rfl) | he) | he) | rfl
  · exact Toml.legible_string c.hostVersion
  · exact Toml.legible_strings c.plugins
  · exact hoptional _ _ e he
  · exact hoptional _ _ e he
  · exact hconfig

/-- **The text of a configuration is read as the configuration.** -/
theorem parse_text (hc : c.Storable) : parse c.text = .ok c := by
  have hread := Toml.readDocument_documentText (perm_sortedEntries c) (ordered_sortedEntries c)
    (legible_entries hc)
  rw [parse, text, Toml.readAs, hread]
  simp only [decode_sortedEntries hc]

/-! ## Files -/

/-- What is loaded after saving is what the text of the configuration says. -/
theorem load_of_save {tree after : Node} {path : String} {cwd : List String}
    (h : c.save tree path cwd = .ok after) :
    load path (after.find? path cwd) = (parse c.text).mapError (.invalid path) := by
  rw [Node.find?_write h, load]
  simp only [Node.readText_toUTF8]
  cases parse c.text <;> rfl

/-- **A configuration that is saved to a path that can be written is the same
    when it is loaded from there**, if its settings are storable.  The path is
    an absolute one, or one from the working directory. -/
theorem load_save {c : HostConfig} {tree : Node} {path : String} {cwd : List String}
    (hc : c.Storable) (hpath : tree.Writable path cwd) :
    ∃ after, c.save tree path cwd = .ok after ∧ load path (after.find? path cwd) = .ok c := by
  obtain ⟨after, hafter⟩ := hpath.write c.text.toUTF8
  refine ⟨after, hafter, ?_⟩
  rw [load_of_save hafter, parse_text hc]
  rfl

/-- Settings with an array of tables, empty tables and arrays, and texts and
    keys that need quotes. -/
def mixedSettings : Settings where
  entries :=
    [("hosts", .array [.table [("name", .string "a\"b")], .table []]),
     ("limits", .table [("", .integer (-5)), ("x.y", .table [])]),
     ("tags", .array [.string "it's\n\x01", .array []])]
  ordered := by decide

/-- A configuration with a plugin that has such settings, and one without. -/
def mixed : HostConfig where
  plugins := ["vendor.x", "acme"]
  logDir := some "logs"
  pluginsConfig := ⟨[("acme", Table.empty), ("vendor.x", mixedSettings)], by decide⟩

theorem storable_mixed : mixed.Storable := by
  have hplain : ∀ e ∈ mixedSettings.entries, e.2.Plain := by
    simp [mixedSettings, Value.Plain, Value.IsPlain]
  have hkeys : ∀ e ∈ mixedSettings.entries, e.2.Unreserved := by
    simp [mixedSettings, Value.Unreserved, Value.IsUnreserved, Toml.datetimeKey]
  have hordered : ∀ e ∈ mixedSettings.entries, e.2.Ordered := by
    refine List.forall_mem_cons.mpr ⟨?_, List.forall_mem_cons.mpr ⟨?_, ?_⟩⟩
    · exact ⟨⟨by decide, trivial, trivial⟩, ⟨by decide, trivial⟩, trivial⟩
    · exact ⟨by decide, trivial, ⟨by decide, trivial⟩, trivial⟩
    · exact List.forall_mem_singleton.mpr ⟨trivial, trivial, trivial⟩
  have hhosts : (Value.array [.table [("name", .string "a\"b")], .table []]).Fits 3 := by
    refine .elements rfl (List.forall_mem_cons.mpr ⟨.table (by decide) ?_, ?_⟩)
    · exact List.forall_mem_singleton.mpr (.inline rfl (.leaf rfl))
    · exact List.forall_mem_singleton.mpr (.table (by decide) (List.forall_mem_nil _))
  have hlimits : (Value.table [("", .integer (-5)), ("x.y", .table [])]).Fits 3 := by
    refine .table (by decide) (List.forall_mem_cons.mpr ⟨.inline rfl (.leaf rfl), ?_⟩)
    exact List.forall_mem_singleton.mpr (.table (by decide) (List.forall_mem_nil _))
  have htags : (Value.array [.string "it's\n\x01", .array []]).Fits 3 := by
    refine .inline rfl (.node (List.forall_mem_cons.mpr ⟨.leaf rfl, ?_⟩))
    exact List.forall_mem_singleton.mpr (.node (List.forall_mem_nil _))
  have hfits : ∀ e ∈ mixedSettings.entries, e.2.Fits 3 := by
    simp [mixedSettings, hhosts, hlimits, htags]
  refine List.forall_mem_cons.mpr ⟨List.forall_mem_nil _, List.forall_mem_singleton.mpr ?_⟩
  exact fun e he => ⟨⟨hplain e he, hordered e he, hfits e he⟩, hkeys e he⟩

/-- A machine with the home directory of a user, and another directory. -/
def machine : Node :=
  .directory [("home", .directory [("user", .directory [])]), ("work", .directory [])]

theorem writable_default : machine.Writable (defaultConfigPath "/home/user") ["work"] :=
  Node.writable_of_isFree rfl (by decide +kernel) (by decide +kernel) (by decide +kernel)

theorem writable_nested : machine.Writable "nested/dir/config.toml" ["work"] :=
  Node.writable_of_isFree rfl (by decide +kernel) (by decide +kernel) (by decide +kernel)

theorem writable_above : machine.Writable "../etc/config.toml" ["work"] :=
  Node.writable_of_isOk (by decide +kernel)

/-- The mixed configuration at the default place, which is an absolute path,
    below the working directory, and outside of it; all three times in
    directories that have to be made first. -/
theorem load_save_mixed :
    mixed.Storable ∧
      defaultConfigPath "/home/user" = "/home/user/.netbox-plugins/config.toml" ∧
      machine.Writable (defaultConfigPath "/home/user") ["work"] ∧
      (∃ after, mixed.save machine (defaultConfigPath "/home/user") ["work"] = .ok after ∧
        load (defaultConfigPath "/home/user")
          (after.find? (defaultConfigPath "/home/user") ["work"]) = .ok mixed) ∧
      machine.Writable "nested/dir/config.toml" ["work"] ∧
      (∃ after, mixed.save machine "nested/dir/config.toml" ["work"] = .ok after ∧
        load "nested/dir/config.toml" (after.find? "nested/dir/config.toml" ["work"]) =
          .ok mixed) ∧
      machine.Writable "../etc/config.toml" ["work"] ∧
      ∃ after, mixed.save machine "../etc/config.toml" ["work"] = .ok after ∧
        load "../etc/config.toml" (after.find? "../etc/config.toml" ["work"]) = .ok mixed :=
  ⟨storable_mixed, by decide +kernel, writable_default, load_save storable_mixed writable_default,
    writable_nested, load_save storable_mixed writable_nested,
    writable_above, load_save storable_mixed writable_above⟩

/-- Settings with a table that holds a text under the key of date-times. -/
def reservedSettings : Settings where
  entries := [("o", .table [(Toml.datetimeKey, .string "1979-05-27")])]
  ordered := by decide

def reserved : HostConfig where
  pluginsConfig := ⟨[("p", reservedSettings)], by decide⟩

theorem legible_reservedSettings : ∀ e ∈ reservedSettings.entries, e.2.Legible 3 := by
  refine List.forall_mem_singleton.mpr ⟨?_, ?_, .table (by decide) ?_⟩
  · simp [Value.Plain, Value.IsPlain]
  · exact ⟨by decide, trivial, trivial⟩
  · exact List.forall_mem_singleton.mpr (.inline rfl (.leaf rfl))

/-- A table with the key of date-times is plain, and legible, and yet not the
    same after it was saved: it comes back as a date-time. -/
theorem reserved_key_not_kept :
    (∀ p ∈ reserved.pluginsConfig.entries, ∀ e ∈ p.2.entries, e.2.Legible 3) ∧
      machine.Writable "nested/dir/config.toml" ["work"] ∧
      ¬∃ after, reserved.save machine "nested/dir/config.toml" ["work"] = .ok after ∧
        load "nested/dir/config.toml" (after.find? "nested/dir/config.toml" ["work"]) =
          .ok reserved := by
  refine ⟨List.forall_mem_singleton.mpr legible_reservedSettings, writable_nested, ?_⟩
  rintro ⟨after, hafter, hload⟩
  have hsame : reserved.same reserved = true := by decide +kernel
  have hother : (parse reserved.text).toOption.map (·.same reserved) = some false := by
    decide +kernel
  rw [load_of_save hafter] at hload
  cases hparse : parse reserved.text with
  | error e =>
    rw [hparse] at hload
    cases hload
  | ok c =>
    rw [hparse] at hload hother
    cases hload
    rw [Except.toOption, Option.map_some, hsame] at hother
    cases hother

end HostConfig

end PluginHost
