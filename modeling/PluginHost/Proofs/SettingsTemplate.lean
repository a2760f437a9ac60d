import PluginHost.Descriptor.SettingsTemplate
import PluginHost.Proofs.ConfigFiles
import PluginHost.Proofs.Settings
import PluginHost.Proofs.Toml.OneLine

/-! # Settings templates as configurations

    A settings template is the text of a configuration already: its comments
    say nothing, and its other lines give the plugin's table and the required
    settings.  Read as a configuration it has one plugin, whose settings are the
    required ones (`parse_settingsTemplate`); the other defaults are what is
    missing from them.

    The names that stand in the template must have no control characters, and
    the default values no line feeds (`Descriptor.Templatable`). -/

namespace PluginHost

open Toml (Settings Value Item IsKey IsLine ReadsBack Spells Statement Draft)

namespace SettingsTemplate

variable {d : Descriptor} {name : String}

/-! ## Keys -/

/-- No character of the text is an ASCII control character. -/
def ControlFree (text : String) : Prop := ∀ c ∈ text.toList, 0x20 ≤ c.toNat ∧ c.toNat ≠ 0x7F

instance (text : String) : Decidable (ControlFree text) :=
  decidable_of_iff (text.toList.all (fun c => 0x20 ≤ c.toNat ∧ c.toNat ≠ 0x7F) = true)
    (by simp [ControlFree])

theorem ControlFree.isLine (h : ControlFree name) : IsLine name.toList := by
  intro c hc
  simp only [Toml.isTextChar, Bool.or_eq_true, Bool.and_eq_true, decide_eq_true_eq, bne_iff_ne]
  exact .inr (h c hc)

theorem readsBack_escapeKeyChar {c : Char} (h : Toml.isTextChar c = true) :
    ReadsBack (escapeKeyChar c) c := by
  by_cases hslash : c = '\\'
  · rw [hslash]
    exact Toml.readsBack_escape (.short (by decide) (by decide) (by decide))
  · by_cases hquote : c = '"'
    · rw [hquote]
      exact Toml.readsBack_escape (.short (by decide) (by decide) (by decide))
    · have hself : escapeKeyChar c = [c] := by simp [escapeKeyChar, hslash, hquote]
      rw [hself]
      exact Toml.readsBack_self hquote hslash h

/-- **The key of a name is read as the name.** -/
theorem isKey_key (h : ControlFree name) : IsKey (key name).toList name := by
  rw [key]
  by_cases hbare : Toml.isBareKey name.toList = true
  · rw [if_pos hbare]
    exact Toml.isKey_bare hbare
  · rw [if_neg hbare, String.toList_ofList]
    exact Toml.isKey_double fun c hc => readsBack_escapeKeyChar (h.isLine c hc)

theorem isLine_key (h : ControlFree name) : IsLine (key name).toList := by
  rw [key]
  split
  · exact h.isLine
  · have hinner : IsLine (name.toList.flatMap escapeKeyChar) := by
      refine Toml.isLine_flatMap fun c hc => ?_
      rw [escapeKeyChar]
      split
      · exact Toml.isLine_cons.mpr ⟨by decide, Toml.isLine_cons.mpr ⟨h.isLine c hc, Toml.isLine_nil⟩⟩
      · exact Toml.isLine_cons.mpr ⟨h.isLine c hc, Toml.isLine_nil⟩
    simp [hinner, Toml.isTextChar]

/-! ## Lines -/

/-- The lines, each with its end. -/
def linesChars (lines : List String) : List Char := lines.flatMap fun line => line.toList ++ ['\n']

/-- An empty line at the end ends the line before it. -/
theorem toList_intercalate_lines (lines : List String) :
    ("\n".intercalate (lines ++ [""])).toList = linesChars lines := by
  rw [String.toList_intercalate, List.map_append]
  induction lines with
  | nil => rfl
  | cons line lines ih =>
    -- At least the empty line follows, so a line feed is put after this one.
    have hnext : ∃ next more, lines.map String.toList ++ [""].map String.toList = next :: more :=
      List.exists_cons_of_ne_nil (by simp)
    obtain ⟨next, more, hnext⟩ := hnext
    have hstep : List.intercalate ['\n'] (line.toList :: next :: more) =
        line.toList ++ '\n' :: List.intercalate ['\n'] (next :: more) := by
      simp [List.intercalate]
    have hend : "\n".toList = ['\n'] := rfl
    rw [hend, hnext] at ih
    rw [hend, List.map_cons, List.cons_append, hnext, hstep, ih]
    simp [linesChars]

/-- A line that says nothing. -/
structure IsComment (line : String) : Prop where
  mark : line.toList.head? = some '#'
  line : IsLine line.toList

variable {rest : List Char} {later : List Statement} {lines : List String}

theorem spells_comments (h : ∀ line ∈ lines, IsComment line) (hrest : Spells rest later) :
    Spells (linesChars lines ++ rest) later := by
  induction lines with
  | nil => exact hrest
  | cons line lines ih =>
    obtain ⟨hmark, hline⟩ := h line List.mem_cons_self
    obtain ⟨text, htext⟩ := List.head?_eq_some_iff.mp hmark
    have hlater := ih fun l hl => h l (List.mem_cons_of_mem line hl)
    have hchars : linesChars (line :: lines) ++ rest =
        '#' :: (text ++ '\n' :: (linesChars lines ++ rest)) := by
      simp [linesChars, htext]
    rw [hchars]
    rw [htext, Toml.isLine_cons] at hline
    exact hlater.comment hline.2

end SettingsTemplate

/-! ## Templates that are documents -/

open SettingsTemplate

/-- A descriptor whose names have no control characters, and whose default
    values can be written on one line and read back. -/
structure Descriptor.Templatable (d : Descriptor) : Prop where
  name       : ControlFree d.name
  minVersion : ∀ version ∈ d.minVersion, ControlFree version
  maxVersion : ∀ version ∈ d.maxVersion, ControlFree version
  required   : ∀ setting ∈ d.requiredSettings, ControlFree setting
  distinct   : d.requiredSettings.Nodup
  settings   : ∀ e ∈ d.defaultSettings.entries, ControlFree e.1
  defaults   : ∀ e ∈ d.defaultSettings.entries, e.2.Readable ∧ e.2.OneLine

namespace SettingsTemplate

variable {d : Descriptor} {setting : String} {rest : List Char} {later : List Statement}

theorem isComment_opening (hd : d.Templatable) : ∀ line ∈ opening d, IsComment line := by
  have hname := hd.name.isLine
  intro line hline
  simp only [opening, List.mem_append, List.mem_singleton, Option.mem_toList,
    Option.map_eq_some_iff] at hline
  rcases hline with (rfl | ⟨version, hversion, rfl⟩) | ⟨version, hversion, rfl⟩
  · exact ⟨by simp, by simp [hname, Toml.isTextChar]⟩
  · have hversion := (hd.minVersion version hversion).isLine
    exact ⟨by simp, by simp [hversion, Toml.isTextChar]⟩
  · have hversion := (hd.maxVersion version hversion).isLine
    exact ⟨by simp, by simp [hversion, Toml.isTextChar]⟩

theorem isComment_optionalLines (hd : d.Templatable) :
    ∀ line ∈ (optionalDefaults d).flatMap optionalLines, IsComment line := by
  intro line hline
  obtain ⟨e, he, hline⟩ := List.mem_flatMap.mp hline
  have hdefault := (List.mem_filter.mp he).1
  obtain ⟨-, honeLine⟩ := hd.defaults e hdefault
  have hkey := isLine_key (hd.settings e hdefault)
  have htext : IsLine e.2.text.toList := by
    rw [Value.text, String.toList_ofList]
    exact Toml.isLine_chars honeLine
  simp only [optionalLines, List.mem_cons, List.not_mem_nil, or_false] at hline
  rcases hline with rfl | rfl
  · exact ⟨by simp, by simp [htext, Toml.isTextChar]⟩
  · exact ⟨by simp, by simp [hkey, htext, Toml.isTextChar]⟩

/-! ## Required settings -/

/-- The value of a required setting: its default, or an empty text. -/
def requiredValue (d : Descriptor) (setting : String) : Value :=
  (d.defaultSettings.get? setting).getD (.string "")

/-- The required settings with their values. -/
def requiredEntries (d : Descriptor) : Entries Value :=
  d.requiredSettings.map fun setting => (setting, requiredValue d setting)

theorem toList_placeholder (d : Descriptor) (setting : String) :
    (placeholder d setting).toList = (requiredValue d setting).chars .compact := by
  rw [placeholder, requiredValue]
  cases d.defaultSettings.get? setting with
  | none =>
    rw [Option.getD_none, Value.chars]
    decide
  | some v => exact String.toList_ofList

theorem readable_requiredValue (hd : d.Templatable) (setting : String) :
    (requiredValue d setting).Readable := by
  rw [requiredValue]
  cases hget : d.defaultSettings.get? setting with
  | none => exact ⟨.leaf rfl, by simp [Value.Plain, Value.IsPlain], trivial⟩
  | some v => exact (hd.defaults (setting, v) (Entries.mem_of_get? hget)).1

theorem spells_requiredLines (hd : d.Templatable) (hsetting : ControlFree setting)
    (hrest : Spells rest later) :
    Spells (linesChars (requiredLines d setting) ++ rest)
      (.assignment ⟨[], setting⟩ (requiredValue d setting).item :: later) := by
  obtain ⟨hdepth, hplain, hordered⟩ := readable_requiredValue hd setting
  have hline := hrest.assignment (isKey_key hsetting)
    (Toml.readsAs_chars .compact hdepth hplain hordered)
  have hremark : IsLine " Required".toList := by simp [Toml.isTextChar]
  have hchars : linesChars (requiredLines d setting) ++ rest =
      '#' :: (" Required".toList ++ '\n' :: ((key setting).toList ++ [' ', '=', ' '] ++
        (requiredValue d setting).chars .compact ++ '\n' :: rest)) := by
    simp [linesChars, requiredLines, toList_placeholder]
  rw [hchars]
  exact hline.comment hremark

/-- What the lines of required settings say. -/
theorem spells_required (hd : d.Templatable) (hrest : Spells rest later) {settings : List String}
    (hsettings : ∀ setting ∈ settings, ControlFree setting) :
    Spells (linesChars (settings.flatMap (requiredLines d)) ++ rest)
      ((settings.map fun setting => .assignment ⟨[], setting⟩ (requiredValue d setting).item) ++
        later) := by
  induction settings with
  | nil => exact hrest
  | cons setting settings ih =>
    have hlater := ih fun s hs => hsettings s (List.mem_cons_of_mem setting hs)
    have hchars : linesChars ((setting :: settings).flatMap (requiredLines d)) ++ rest =
        linesChars (requiredLines d setting) ++
          (linesChars (settings.flatMap (requiredLines d)) ++ rest) := by
      simp [linesChars]
    rw [hchars]
    exact spells_requiredLines hd (hsettings setting List.mem_cons_self) hlater

/-! ## The whole template -/

/-- What the lines of the required settings say. -/
def requiredStatements (d : Descriptor) : List Statement :=
  d.requiredSettings.map fun setting => .assignment ⟨[], setting⟩ (requiredValue d setting).item

/-- What the template says: the header of the plugin's table, and the required
    settings. -/
def statements (d : Descriptor) : List Statement :=
  .tableHeader ⟨["plugins_config"], d.name⟩ :: requiredStatements d

/-- The header of the plugin's table. -/
theorem spells_header (hd : d.Templatable) (hrest : Spells rest later) :
    Spells (("[plugins_config." ++ key d.name ++ "]").toList ++ '\n' :: rest)
      (.tableHeader ⟨["plugins_config"], d.name⟩ :: later) := by
  have hparent : ControlFree "plugins_config" := by decide
  have hlength : (Toml.KeyPath.all ⟨["plugins_config"], d.name⟩).length ≤ Toml.nestingLimit :=
    Nat.le_add_left 2 78
  have hkeys : ∀ k ∈ Toml.KeyPath.all ⟨["plugins_config"], d.name⟩,
      IsKey ((fun k => (key k).toList) k) k :=
    List.forall_mem_cons.mpr ⟨isKey_key hparent, List.forall_mem_singleton.mpr (isKey_key hd.name)⟩
  -- The name of the section is a key without quotes.
  have hopening : "[plugins_config.".toList = ['['] ++ ((key "plugins_config").toList ++ ['.']) := by
    decide
  have hchars : ("[plugins_config." ++ key d.name ++ "]").toList ++ '\n' :: rest =
      ['['] ++ List.intercalate ['.'] ((Toml.KeyPath.all ⟨["plugins_config"], d.name⟩).map
        fun k => (key k).toList) ++ [']'] ++ '\n' :: rest := by
    simp only [String.toList_append, hopening]
    simp [Toml.KeyPath.all, List.intercalate]
  rw [hchars]
  exact hrest.tableHeader hlength hkeys

theorem spells_settingsTemplate (hd : d.Templatable) :
    Spells d.settingsTemplate.toList (statements d) := by
  have hremarks : Spells (linesChars ((optionalDefaults d).flatMap optionalLines)) [] := by
    have h := spells_comments (isComment_optionalLines hd) .nil
    rwa [List.append_nil] at h
  have hsettings := spells_required hd hremarks hd.required
  have hheader := spells_header hd hsettings
  have hall := spells_comments (isComment_opening hd) hheader.blank
  have htext : d.settingsTemplate.toList = linesChars (opening d) ++ '\n' ::
      (("[plugins_config." ++ key d.name ++ "]").toList ++ '\n' ::
        (linesChars (d.requiredSettings.flatMap (requiredLines d)) ++
          linesChars ((optionalDefaults d).flatMap optionalLines))) := by
    rw [Descriptor.settingsTemplate, lines, toList_intercalate_lines]
    simp [linesChars]
  rw [htext, statements, requiredStatements]
  simpa using hall

/-! ## The table of settings -/

/-- The required settings as a table. -/
def requiredTable (d : Descriptor) : Settings := Table.ofList (requiredEntries d)

theorem distinct_requiredEntries (h : d.requiredSettings.Nodup) : (requiredEntries d).Distinct :=
  List.pairwise_map.mpr h

theorem get?_requiredTable (h : d.requiredSettings.Nodup) (key : String) :
    (requiredTable d).get? key =
      if key ∈ d.requiredSettings then some (requiredValue d key) else none := by
  have hdistinct := distinct_requiredEntries h
  rw [requiredTable, Table.ofList, Table.get?_insertAll_of_distinct hdistinct, Table.get?_empty,
    Option.or_none]
  split
  · rename_i hmem
    exact Entries.get?_of_mem hdistinct (List.mem_map_of_mem hmem)
  · rename_i hmem
    rw [Entries.get?_eq_none_iff]
    rintro e he rfl
    obtain ⟨setting, hsetting, rfl⟩ := List.mem_map.mp he
    exact hmem hsetting

/-- The required settings make up the table of the plugin. -/
theorem run_requiredStatements (h : d.requiredSettings.Nodup) :
    Draft.run ⟨[], []⟩ (requiredStatements d) =
      some ⟨((requiredTable d).map Value.item).entries, []⟩ := by
  have hdistinct := distinct_requiredEntries h
  have hpairs := Draft.run_assignments (t := Table.empty) (hdistinct.map Value.item)
    fun e _ => Table.get?_empty e.1
  have hstatements : requiredStatements d =
      ((requiredEntries d).map fun e => (e.1, e.2.item)).map fun e => .assignment ⟨[], e.1⟩ e.2 := by
    rw [requiredEntries, List.map_map, List.map_map]
    rfl
  rw [hstatements, requiredTable, Table.map_ofList hdistinct]
  exact hpairs

theorem requiredStatements_under (d : Descriptor) (key : String) :
    (requiredStatements d).map (·.under key) = requiredStatements d := by
  simp [requiredStatements, Statement.under]

/-- The template has one table, under the plugin's name. -/
theorem assemble_statements (h : d.requiredSettings.Nodup) :
    Toml.assemble (statements d) = some [("plugins_config", .table .implied
      [(d.name, .table .defined ((requiredTable d).map Value.item).entries)])] := by
  have hheader : Draft.add ⟨[], []⟩ (.tableHeader ⟨["plugins_config"], d.name⟩) =
      some (Draft.under [] "plugins_config" (Item.table .implied)
        (Draft.under [] d.name (Item.table .defined) ⟨[], []⟩)) :=
    Draft.add_under_new rfl rfl (Draft.add_tableHeader [] rfl)
  -- The settings go to the plugin's table, which stands two keys deep.
  have hplugin : (Draft.under [] d.name (Item.table .defined) ⟨[], []⟩).run (requiredStatements d) =
      some (Draft.under [] d.name (Item.table .defined)
        ⟨((requiredTable d).map Value.item).entries, []⟩) := by
    rw [← requiredStatements_under d d.name]
    exact Draft.run_under (Toml.isPlace_table (by decide)) (run_requiredStatements h)
  have hconfig : (Draft.under [] "plugins_config" (Item.table .implied)
      (Draft.under [] d.name (Item.table .defined) ⟨[], []⟩)).run (requiredStatements d) =
        some (Draft.under [] "plugins_config" (Item.table .implied)
          (Draft.under [] d.name (Item.table .defined)
            ⟨((requiredTable d).map Value.item).entries, []⟩)) := by
    rw [← requiredStatements_under d "plugins_config"]
    exact Draft.run_under (Toml.isPlace_table (by decide)) hplugin
  have hall := Draft.run_cons ⟨[], []⟩ (.tableHeader ⟨["plugins_config"], d.name⟩)
    (requiredStatements d)
  rw [hheader, Option.bind_some, hconfig] at hall
  rw [Toml.assemble, ← Draft.run, statements, hall]
  rfl

/-! ## Reading -/

/-- Settings that stand in a document line by line. -/
theorem decodeSettings_item {settings : Settings}
    (h : ∀ e ∈ settings.entries, e.2.Plain ∧ e.2.Unreserved) :
    Toml.Decoder.settings (.table .defined (settings.map Value.item).entries) = .ok settings :=
  Toml.decodeEntries_map Value.item settings fun e he =>
    Value.ofItem_item (h e he).1 (h e he).2

/-- A configuration with the settings of one plugin. -/
def configOf (name : String) (settings : Settings) : HostConfig :=
  { pluginsConfig := Table.empty.insert name settings }

/-- A document that has the settings of one plugin only. -/
theorem ofEntries_settings {name : String} {settings : Settings}
    (h : ∀ e ∈ settings.entries, e.2.Plain ∧ e.2.Unreserved) :
    HostConfig.shape.ofEntries [("plugins_config", .table .implied
      [(name, .table .defined (settings.map Value.item).entries)])] =
        .ok (configOf name settings) := by
  have hplugins : Toml.Decoder.table .settings (.table .implied
      [(name, .table .defined (settings.map Value.item).entries)]) =
        .ok (Table.empty.insert name settings) := by
    refine Toml.decodeEntries_map (fun s : Settings => .table .defined (s.map Value.item).entries)
      (Table.empty.insert name settings) fun e he => ?_
    obtain rfl : e = (name, settings) := List.mem_singleton.mp he
    exact decodeSettings_item h
  refine HostConfig.ofEntries_of_readEntries ?_
  rw [foldlM_cons_ok (HostConfig.readEntry_pluginsConfig _ hplugins)]
  rfl

theorem mem_requiredTable (h : d.requiredSettings.Nodup) {e : String × Value}
    (he : e ∈ (requiredTable d).entries) :
    e.1 ∈ d.requiredSettings ∧ e.2 = requiredValue d e.1 := by
  have hget := Entries.get?_of_mem (requiredTable d).ordered.distinct he
  have hrequired := get?_requiredTable h e.1
  rw [Table.get?, hget] at hrequired
  split at hrequired
  · rename_i hmem
    exact ⟨hmem, Option.some.inj hrequired⟩
  · cases hrequired

/-- **The template is read as the required settings of the plugin**, if no
    table among their defaults is taken for a date-time. -/
theorem parse_template (hd : d.Templatable)
    (hkeys : ∀ setting ∈ d.requiredSettings, (requiredValue d setting).Unreserved) :
    HostConfig.parse d.settingsTemplate = .ok (configOf d.name (requiredTable d)) := by
  have hsettings : ∀ e ∈ (requiredTable d).entries, e.2.Plain ∧ e.2.Unreserved := by
    intro e he
    obtain ⟨hmem, hvalue⟩ := mem_requiredTable hd.distinct he
    rw [hvalue]
    exact ⟨(readable_requiredValue hd e.1).plain, hkeys e.1 hmem⟩
  rw [HostConfig.parse, Toml.readAs, (spells_settingsTemplate hd).readDocument,
    assemble_statements hd.distinct]
  simp only [ofEntries_settings hsettings]

end SettingsTemplate

namespace Descriptor

variable {d : Descriptor}

/-- The required settings as they stand in a template, and the defaults that
    complete them. -/
theorem get?_applyDefaults_requiredTable (h : d.requiredSettings.Nodup) (key : String) :
    (d.applyDefaults (requiredTable d)).get? key =
      if key ∈ d.requiredSettings then (requiredTable d).get? key
      else d.defaultSettings.get? key := by
  rw [get?_applyDefaults, get?_requiredTable h]
  split <;> simp

theorem checkRequired_requiredTable (h : d.requiredSettings.Nodup) :
    d.checkRequired (requiredTable d) = .ok () := by
  refine checkRequired_eq_ok_iff.mpr fun key hkey => ?_
  rw [Table.contains, get?_requiredTable h, if_pos hkey]
  rfl

/-- **The settings template of a plugin is a configuration**: it has the settings
    of this plugin only, and these are the required ones, each with its default
    or an empty text.  They pass the check, and what completes them are the
    other defaults. -/
theorem parse_settingsTemplate (hd : d.Templatable)
    (hkeys : ∀ e ∈ d.defaultSettings.entries, e.1 ∈ d.requiredSettings → e.2.Unreserved) :
    ∃ settings : Settings,
      HostConfig.parse d.settingsTemplate =
        .ok { pluginsConfig := Table.empty.insert d.name settings } ∧
      (∀ key, settings.get? key =
        if key ∈ d.requiredSettings then
          some ((d.defaultSettings.get? key).getD (.string ""))
        else none) ∧
      d.checkRequired settings = .ok () ∧
      ∀ key, (d.applyDefaults settings).get? key =
        if key ∈ d.requiredSettings then settings.get? key else d.defaultSettings.get? key := by
  have hvalues : ∀ setting ∈ d.requiredSettings, (requiredValue d setting).Unreserved := by
    intro setting hsetting
    rw [requiredValue]
    cases hget : d.defaultSettings.get? setting with
    | none => simp [Value.Unreserved, Value.IsUnreserved]
    | some v => exact hkeys (setting, v) (Entries.mem_of_get? hget) hsetting
  exact ⟨requiredTable d, parse_template hd hvalues, get?_requiredTable hd.distinct,
    checkRequired_requiredTable hd.distinct, get?_applyDefaults_requiredTable hd.distinct⟩

/-- A plugin with a required setting of each kind, and one that may be left out. -/
def vendored : Descriptor where
  name := "vendor.acme"
  minVersion := some "3.5"
  requiredSettings := ["hosts", "api \"key\""]
  defaultSettings :=
    ⟨[("hosts", .array [.table [("x.y", .string "it's\t\"")], .integer (-5)]),
      ("timeout", .boolean true)], by decide⟩

theorem templatable_vendored : vendored.Templatable where
  name := by decide
  minVersion := by
    rintro _ ⟨⟩
    decide
  maxVersion := nofun
  required := by decide
  distinct := by decide
  settings := by decide
  defaults := by
    refine List.forall_mem_cons.mpr ⟨⟨⟨?_, ?_, ?_⟩, ?_⟩, ?_⟩
    · refine .node (List.forall_mem_cons.mpr ⟨.node ?_, ?_⟩)
      · exact List.forall_mem_singleton.mpr (.leaf rfl)
      · exact List.forall_mem_singleton.mpr (.leaf rfl)
    · simp [Value.Plain, Value.IsPlain]
    · exact ⟨⟨by decide, trivial, trivial⟩, trivial, trivial⟩
    · simp [Value.OneLine, Value.IsOneLine]
    · refine List.forall_mem_singleton.mpr ⟨⟨.leaf rfl, ?_, trivial⟩, ?_⟩
      · simp [Value.Plain, Value.IsPlain]
      · simp [Value.OneLine, Value.IsOneLine]

theorem unreserved_vendored :
    ∀ e ∈ vendored.defaultSettings.entries, e.1 ∈ vendored.requiredSettings → e.2.Unreserved := by
  simp [vendored, Value.Unreserved, Value.IsUnreserved, Toml.datetimeKey]

theorem parse_settingsTemplate_vendored :
    vendored.Templatable ∧
      (∀ e ∈ vendored.defaultSettings.entries, e.1 ∈ vendored.requiredSettings → e.2.Unreserved) ∧
      ∃ settings : Settings,
        HostConfig.parse vendored.settingsTemplate =
          .ok { pluginsConfig := Table.empty.insert "vendor.acme" settings } ∧
        (∀ key, settings.get? key =
          if key ∈ ["hosts", "api \"key\""] then
            some ((vendored.defaultSettings.get? key).getD (.string ""))
          else none) ∧
        vendored.checkRequired settings = .ok () ∧
        ∀ key, (vendored.applyDefaults settings).get? key =
          if key ∈ ["hosts", "api \"key\""] then settings.get? key
          else vendored.defaultSettings.get? key :=
  ⟨templatable_vendored, unreserved_vendored,
    parse_settingsTemplate templatable_vendored unreserved_vendored⟩

/-- A plugin whose required setting is a table with a text under the key of
    date-times. -/
def reserving : Descriptor where
  name := "acme"
  requiredSettings := ["t"]
  defaultSettings :=
    ⟨[("t", .table [(Toml.datetimeKey, .string "1979-05-27")])], by decide⟩

theorem templatable_reserving : reserving.Templatable where
  name := by decide
  minVersion := nofun
  maxVersion := nofun
  required := by decide
  distinct := by decide
  settings := by decide
  defaults := by
    refine List.forall_mem_singleton.mpr ⟨⟨.node ?_, ?_, ?_⟩, ?_⟩
    · exact List.forall_mem_singleton.mpr (.leaf rfl)
    · simp [Value.Plain, Value.IsPlain]
    · exact ⟨by decide, trivial, trivial⟩
    · simp [Value.OneLine, Value.IsOneLine]

/-- Such a table is not read as the default: it comes back as a date-time. -/
theorem reserved_default_not_kept :
    reserving.Templatable ∧
      ¬∃ settings : Settings,
        HostConfig.parse reserving.settingsTemplate =
          .ok { pluginsConfig := Table.empty.insert "acme" settings } ∧
        settings.get? "t" = reserving.defaultSettings.get? "t" := by
  refine ⟨templatable_reserving, ?_⟩
  rintro ⟨settings, hparse, hget⟩
  have hread : (HostConfig.parse reserving.settingsTemplate).toOption.map (fun c =>
      (((c.pluginsConfig.get? "acme").bind (·.get? "t")).bind Value.table?).isSome) =
        some false := by
    decide +kernel
  rw [hparse, Except.toOption, Option.map_some, Table.get?_insert_self, Option.bind_some,
    hget] at hread
  cases Option.some.inj hread

end Descriptor

end PluginHost
