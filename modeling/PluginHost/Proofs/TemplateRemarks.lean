import PluginHost.Proofs.ManifestBounds
import PluginHost.Proofs.SettingsTemplate
import PluginHost.Proofs.Toml.Remarks

/-! # Remarks of a settings template

    A settings template consists of remarks, the header of the plugin's table
    and the required settings (`linesOf_settingsTemplate`).  The name, the
    bounds and the other defaults are put behind a `#`, but only their first
    line is: one that has several lines is no remark any more, unless each of
    them starts with a mark already (`Descriptor.Contained`).

    Main theorem: `settingsTemplate_active`. -/

namespace PluginHost

open Toml (IsRemark Marked Value linesOf)

/-! ## Bounds of accepted manifests -/

theorem Toml.marked_iff_of_notMem {l : List Char} (h : '#' ∉ l) : Marked l ↔ '\n' ∉ l := by
  induction l with
  | nil => simp
  | cons c l ih =>
    rw [List.mem_cons, not_or] at h
    obtain ⟨hc, hl⟩ := h
    by_cases hline : c = '\n'
    · subst hline
      have hhead : l.head? ≠ some '#' := fun hhead => hl (List.mem_of_mem_head? hhead)
      rw [Toml.marked_lineFeed]
      simp [hhead]
    · rw [Toml.marked_cons_of_ne hline, ih hl]
      simp [Ne.symm hline]

/-- A text that is read as a version has no mark of a remark in it. -/
theorem Version.Readable.notMem {text : String} (h : Version.Readable text) :
    '#' ∉ text.toList := by
  obtain ⟨v, hv⟩ := h
  obtain ⟨before, mark, body, after, hl, hbefore, hafter, hmark, hbody⟩ :=
    (Version.parse_eq_ok_iff text).mp hv
  have hblank : Text.isBlankChar '#' = false := by decide
  have hnot : ∀ {l : List Char}, (∀ c ∈ l, Text.isBlankChar c = true) → '#' ∉ l := by
    intro l hall hmem
    rw [hall '#' hmem] at hblank
    cases hblank
  have hwritten : ∀ c ∈ body, c ≠ '#' :=
    hbody.forall_mem (fun c hc => Text.ne_of_kind hc rfl) (by decide) (by decide) (by decide)
  have hleading : '#' ∉ mark := by
    simp only [List.mem_cons, List.not_mem_nil, or_false] at hmark
    rcases hmark with rfl | rfl | rfl <;> decide
  rw [hl]
  simp only [List.mem_append, not_or]
  exact ⟨⟨⟨hnot hbefore, hleading⟩, fun hmem => hwritten '#' hmem rfl⟩, hnot hafter⟩

namespace SettingsTemplate

variable {d : Descriptor} {name : String}

/-! ## The lines of a template -/

/-- The lines of texts that are put below one another. -/
def linesOfAll (texts : List String) : List (List Char) :=
  texts.flatMap fun text => linesOf text.toList

/-- The header of the plugin's table. -/
def header (d : Descriptor) : String := "[plugins_config." ++ key d.name ++ "]"

/-- A required setting and its value. -/
def assignment (d : Descriptor) (setting : String) : String :=
  key setting ++ " = " ++ placeholder d setting

/-- The lines that stem from the name, the bounds and the defaults that are not
    required. -/
def remarks (d : Descriptor) : List (List Char) :=
  linesOfAll (opening d) ++ linesOfAll ((optionalDefaults d).flatMap optionalLines)

theorem linesOf_linesChars (texts : List String) :
    linesOf (linesChars texts) = linesOfAll texts ++ [[]] := by
  induction texts with
  | nil => rfl
  | cons text texts ih =>
    have hchars : linesChars (text :: texts) = text.toList ++ '\n' :: linesChars texts := by
      simp [linesChars]
    rw [hchars, Toml.linesOf_append_lineFeed, ih, ← List.append_assoc]
    rfl

/-- The lines of a template: remarks, the header, the required settings, and
    remarks again. -/
theorem linesOf_settingsTemplate (d : Descriptor) :
    linesOf d.settingsTemplate.toList =
      linesOfAll (opening d) ++ [[]] ++ linesOf (header d).toList
        ++ (d.requiredSettings.flatMap fun setting =>
          "# Required".toList :: linesOf (assignment d setting).toList)
        ++ linesOfAll ((optionalDefaults d).flatMap optionalLines) ++ [[]] := by
  have hblank : linesOf "".toList = [[]] := rfl
  have hrequired : linesOf "# Required".toList = ["# Required".toList] := by decide
  unfold Descriptor.settingsTemplate lines
  rw [toList_intercalate_lines, linesOf_linesChars]
  simp only [linesOfAll, List.flatMap_append, List.flatMap_cons, List.flatMap_nil,
    List.flatMap_assoc, List.append_nil, requiredLines, hblank, hrequired, List.singleton_append,
    List.append_assoc]
  rfl

/-! ## Which of them are remarks -/

theorem forall_linesOfAll_iff {texts : List String}
    (h : ∀ text ∈ texts, text.toList.head? = some '#') :
    (∀ line ∈ linesOfAll texts, IsRemark line) ↔ ∀ text ∈ texts, Marked text.toList := by
  unfold linesOfAll
  rw [List.forall_mem_flatMap]
  refine forall₂_congr fun text htext => ?_
  rw [Toml.forall_lines_iff_marked]
  simp [h text htext]

theorem head_flatMap_escapeKeyChar_iff (l : List Char) :
    (l.flatMap escapeKeyChar).head? = some '#' ↔ l.head? = some '#' := by
  cases l with
  | nil => rfl
  | cons c l =>
    rw [List.flatMap_cons, escapeKeyChar]
    split
    · rename_i hescaped
      have hmark : c ≠ '#' := by
        rintro rfl
        simp at hescaped
      simp [hmark]
    · rfl

theorem marked_flatMap_escapeKeyChar (l : List Char) :
    Marked (l.flatMap escapeKeyChar) ↔ Marked l := by
  induction l with
  | nil => rfl
  | cons c l ih =>
    rw [List.flatMap_cons]
    by_cases hline : c = '\n'
    · subst hline
      show Marked ('\n' :: l.flatMap escapeKeyChar) ↔ _
      rw [Toml.marked_lineFeed, Toml.marked_lineFeed, head_flatMap_escapeKeyChar_iff, ih]
    · have hescape : '\n' ∉ escapeKeyChar c := by
        unfold escapeKeyChar
        split <;> simp [Ne.symm hline]
      rw [Toml.marked_append_of_notMem hescape, ih, Toml.marked_cons_of_ne hline]

/-- The quotes around a key do not keep it on one line. -/
theorem marked_key (name : String) : Marked (key name).toList ↔ Marked name.toList := by
  unfold key
  split
  · rfl
  · have hchars : ['"'] ++ name.toList.flatMap escapeKeyChar ++ ['"'] =
        '"' :: (name.toList.flatMap escapeKeyChar ++ '"' :: []) := by simp
    rw [String.toList_ofList, hchars, Toml.marked_cons_of_ne (by decide),
      Toml.marked_append_cons (by decide), marked_flatMap_escapeKeyChar]
    simp

end SettingsTemplate

open SettingsTemplate

/-- What is put behind a `#` has no further lines, or only such that start with
    a mark already. -/
structure Descriptor.Contained (d : Descriptor) : Prop where
  name       : Marked d.name.toList
  minVersion : ∀ version, d.minVersion = some version → '\n' ∉ version.toList
  maxVersion : ∀ version, d.maxVersion = some version → '\n' ∉ version.toList
  keys       : ∀ e ∈ optionalDefaults d, Marked e.1.toList
  values     : ∀ e ∈ optionalDefaults d, e.2.All Value.IsMarked

namespace SettingsTemplate

variable {d : Descriptor}

/-- The comment on top is one if the name and the bounds bring no lines. -/
theorem forall_opening_iff (hbounds : d.BoundsRead) :
    (∀ line ∈ linesOfAll (opening d), IsRemark line) ↔
      Marked d.name.toList ∧
        (∀ version, d.minVersion = some version → '\n' ∉ version.toList) ∧
        ∀ version, d.maxVersion = some version → '\n' ∉ version.toList := by
  have hname : Marked ("# Settings for plugin '" ++ d.name ++ "'").toList ↔
      Marked d.name.toList := by
    have hchars : ("# Settings for plugin '" ++ d.name ++ "'").toList =
        "# Settings for plugin '".toList ++ (d.name.toList ++ ['\'']) := by simp
    rw [hchars, Toml.marked_append_of_notMem (by decide), Toml.marked_append_cons (by decide)]
    simp
  -- A bound that is read has no marks of its own.
  have hbound : ∀ {front : String} {bound : Option String}, '\n' ∉ front.toList →
      BoundReads bound →
        ((∀ text ∈ (bound.map (front ++ ·)).toList, Marked text.toList) ↔
          ∀ version, bound = some version → '\n' ∉ version.toList) := by
    intro front bound hfront hreads
    cases bound with
    | none => simp
    | some version =>
      have hmarked := Toml.marked_iff_of_notMem (hreads version rfl).notMem
      simp [Toml.marked_append_of_notMem hfront, hmarked]
  have hhead : ∀ text ∈ opening d, text.toList.head? = some '#' := by
    intro text htext
    simp only [opening, List.mem_append, List.mem_singleton, Option.mem_toList,
      Option.map_eq_some_iff] at htext
    rcases htext with (rfl | ⟨version, -, rfl⟩) | ⟨version, -, rfl⟩ <;> simp
  rw [forall_linesOfAll_iff hhead, opening, List.forall_mem_append, List.forall_mem_append,
    List.forall_mem_singleton, hname, hbound (by decide) hbounds.minimum,
    hbound (by decide) hbounds.maximum, and_assoc]

/-- The lines of a default are remarks if its key and its value bring no
    lines. -/
theorem forall_optionalLines_iff (defaults : Entries Value) :
    (∀ line ∈ linesOfAll (defaults.flatMap optionalLines), IsRemark line) ↔
      ∀ e ∈ defaults, Marked e.1.toList ∧ e.2.All Value.IsMarked := by
  have hvalue : ∀ v : Value, Marked v.text.toList ↔ v.All Value.IsMarked := by
    intro v
    rw [Value.text, String.toList_ofList, Toml.marked_chars_iff]
  have hdefault : ∀ e : String × Value, Marked ("# Optional, default: " ++ e.2.text).toList ↔
      e.2.All Value.IsMarked := by
    intro e
    rw [String.toList_append, Toml.marked_append_of_notMem (by decide), hvalue]
  have hassignment : ∀ e : String × Value,
      Marked ("# " ++ key e.1 ++ " = " ++ e.2.text).toList ↔
        Marked e.1.toList ∧ e.2.All Value.IsMarked := by
    intro e
    have hchars : ("# " ++ key e.1 ++ " = " ++ e.2.text).toList =
        "# ".toList ++ ((key e.1).toList ++ ' ' :: (['=', ' '] ++ e.2.text.toList)) := by simp
    rw [hchars, Toml.marked_append_of_notMem (by decide), Toml.marked_append_cons (by decide),
      Toml.marked_cons_of_ne (by decide), Toml.marked_append_of_notMem (by decide), marked_key,
      hvalue]
  have hhead : ∀ text ∈ defaults.flatMap optionalLines, text.toList.head? = some '#' := by
    intro text htext
    obtain ⟨e, -, hline⟩ := List.mem_flatMap.mp htext
    simp only [optionalLines, List.mem_cons, List.not_mem_nil, or_false] at hline
    rcases hline with rfl | rfl <;> simp
  rw [forall_linesOfAll_iff hhead, List.forall_mem_flatMap]
  refine forall₂_congr fun e _ => ?_
  rw [optionalLines, List.forall_mem_cons, List.forall_mem_singleton, hdefault, hassignment]
  exact ⟨fun h => h.2, fun h => ⟨h.2, h⟩⟩

/-- What stems from optional text is a remark exactly if it is contained. -/
theorem forall_remarks_iff (hbounds : d.BoundsRead) :
    (∀ line ∈ remarks d, IsRemark line) ↔ d.Contained := by
  rw [remarks, List.forall_mem_append, forall_opening_iff hbounds, forall_optionalLines_iff]
  constructor
  · intro ⟨⟨hname, hmin, hmax⟩, hdefaults⟩
    exact ⟨hname, hmin, hmax, fun e he => (hdefaults e he).1, fun e he => (hdefaults e he).2⟩
  · intro h
    exact ⟨⟨h.name, h.minVersion, h.maxVersion⟩, fun e he => ⟨h.keys e he, h.values e he⟩⟩

/-! ## Main theorem -/

/-- **What is active in a settings template.**  A template consists of the lines
    of optional texts, of the header and of the required settings.  For a
    manifest that is accepted, all lines of optional texts are remarks exactly
    if these texts are contained; and then a template without required settings
    has no active line but the header. -/
theorem settingsTemplate_active {m : Manifest} (h : m.validate = .ok ()) :
    linesOf m.plugin.settingsTemplate.toList =
        linesOfAll (opening m.plugin) ++ [[]] ++ linesOf (header m.plugin).toList
          ++ (m.plugin.requiredSettings.flatMap fun setting =>
            "# Required".toList :: linesOf (assignment m.plugin setting).toList)
          ++ linesOfAll ((optionalDefaults m.plugin).flatMap optionalLines) ++ [[]] ∧
      ((∀ line ∈ remarks m.plugin, IsRemark line) ↔ m.plugin.Contained) ∧
      (m.plugin.Contained → m.plugin.requiredSettings = [] →
        ∀ line ∈ linesOf m.plugin.settingsTemplate.toList,
          line ∈ linesOf (header m.plugin).toList ∨ line = [] ∨ IsRemark line) := by
  obtain ⟨-, -, hbounds⟩ := Manifest.validate_eq_ok_iff_reads.mp h
  have hremarks := forall_remarks_iff hbounds
  refine ⟨linesOf_settingsTemplate m.plugin, hremarks, ?_⟩
  intro hcontained hrequired line hline
  have hmem := hremarks.mpr hcontained line
  rw [linesOf_settingsTemplate, hrequired] at hline
  simp only [List.flatMap_nil, List.append_nil, List.mem_append, List.mem_singleton] at hline
  rcases hline with ((((hopening | hblank) | hheader)) | hdefaults) | hblank
  · exact .inr (.inr (hmem (List.mem_append_left _ hopening)))
  · exact .inr (.inl hblank)
  · exact .inl hheader
  · exact .inr (.inr (hmem (List.mem_append_right _ hdefaults)))
  · exact .inr (.inl hblank)

/-! ### Defaults with several lines -/

/-- A manifest with a bound, and a default of which every line has a mark. -/
def markedMotd : Manifest where
  plugin :=
    { name := "acme", minVersion := some "4.1"
      defaultSettings := Table.empty.insert "motd" (.string "# first\n# second") }

/-- Its second line is a remark, so nothing but the header is active. -/
theorem settingsTemplate_active_marked :
    markedMotd.validate = .ok () ∧ markedMotd.plugin.Contained ∧
      ∀ line ∈ linesOf markedMotd.plugin.settingsTemplate.toList,
        line ∈ linesOf (header markedMotd.plugin).toList ∨ line = [] ∨ IsRemark line := by
  have hvalid : markedMotd.validate = .ok () := by decide +kernel
  obtain ⟨-, hremarks, hactive⟩ := settingsTemplate_active hvalid
  have hcontained := hremarks.mp (by decide +kernel)
  exact ⟨hvalid, hcontained, hactive hcontained rfl⟩

/-- The same manifest with a default of which no line has a mark. -/
def plainMotd : Manifest where
  plugin :=
    { name := "acme", minVersion := some "4.1"
      defaultSettings := Table.empty.insert "motd" (.string "first\nsecond") }

/-- Its second line is active, although no setting is required. -/
theorem second_line_active :
    plainMotd.validate = .ok () ∧ plainMotd.plugin.requiredSettings = [] ∧
      ∃ line ∈ linesOf plainMotd.plugin.settingsTemplate.toList,
        line ∉ linesOf (header plainMotd.plugin).toList ∧ line ≠ [] ∧ ¬IsRemark line :=
  ⟨by decide +kernel, rfl, "first".toList, by decide +kernel, by decide +kernel, by decide,
    by decide⟩

end SettingsTemplate

end PluginHost
