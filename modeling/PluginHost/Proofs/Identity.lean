import PluginHost.Proofs.Contents
import PluginHost.Proofs.ManifestBounds
import PluginHost.Proofs.QueueNames

/-! # What a plugin is known by

    A plugin is known by its name for people, its short name, the label of its
    application and the segment of its addresses.  The last three come from
    what follows the last point of its name, and a name may end with a point.
    Validation only asks that the name as a whole is not blank, so a plugin
    with such an unfinished name is accepted (`unfinished_accepted`), and its
    preferences are filed under no name at all.

    Main theorem (`identifiable_iff`): for accepted manifests, unfinished names
    are the only exception. -/

namespace PluginHost

variable {name space rest other title key : String}

/-! ## The last segment of a name -/

/-- What stands behind the last point of the name is blank. -/
def Unfinished (name : String) : Prop :=
  ∃ space rest, name = qualify space rest ∧ Text.isBlank rest = true

theorem not_isBlank_of_point (h : '.' ∈ name.toList) : Text.isBlank name = false := by
  rw [← Bool.not_eq_true, Text.isBlank, List.all_eq_true]
  intro hblank
  have hpoint : Text.isBlankChar '.' = true := hblank '.' h
  revert hpoint
  decide

theorem ne_point_of_mem_reverse {l : List Char} (h : '.' ∉ l) :
    ∀ c ∈ l.reverse, (c != '.') = true := by
  intro c hc
  rw [bne_iff_ne]
  rintro rfl
  exact h (List.mem_reverse.mp hc)

/-- A name has no points, or it ends with a segment behind the last one. -/
theorem segment_cases (name : String) :
    '.' ∉ name.toList ∨ ∃ space rest, name = qualify space rest ∧ '.' ∉ rest.toList := by
  by_cases hpoint : '.' ∈ name.toList
  · right
    -- The last point of the name is the first one from behind.
    obtain ⟨back, front, hsplit, hback⟩ :=
      List.eq_append_cons_of_mem (List.mem_reverse.mpr hpoint)
    refine ⟨String.ofList front.reverse, String.ofList back.reverse, ?_, ?_⟩
    · apply String.toList_inj.mp
      rw [toList_qualify, String.toList_ofList, String.toList_ofList,
        ← List.reverse_reverse name.toList, hsplit]
      simp
    · rw [String.toList_ofList, List.mem_reverse]
      exact hback
  · exact .inl hpoint

namespace Descriptor

theorem lastSegment_of_no_point (h : '.' ∉ name.toList) : lastSegment name = name := by
  rw [lastSegment, List.takeWhile_eq_self_iff.mpr (ne_point_of_mem_reverse h),
    List.reverse_reverse, String.ofList_toList]

theorem lastSegment_qualify (h : '.' ∉ rest.toList) : lastSegment (qualify space rest) = rest := by
  have hsplit : (qualify space rest).toList.reverse =
      rest.toList.reverse ++ '.' :: space.toList.reverse := by
    simp [toList_qualify]
  rw [lastSegment, hsplit, Text.takeWhile_run (ne_point_of_mem_reverse h) (by simp),
    List.reverse_reverse, String.ofList_toList]

/-- The last segment is blank if all of the name is, or if the name is
    unfinished. -/
theorem isBlank_lastSegment_iff :
    Text.isBlank (lastSegment name) = true ↔ Text.isBlank name = true ∨ Unfinished name := by
  constructor
  · intro hblank
    rcases segment_cases name with hpoint | ⟨space, rest, rfl, hpoint⟩
    · rw [lastSegment_of_no_point hpoint] at hblank
      exact .inl hblank
    · rw [lastSegment_qualify hpoint] at hblank
      exact .inr ⟨space, rest, rfl, hblank⟩
  · -- A blank text has no points, so it is a segment as a whole.
    have hno : ∀ {s : String}, Text.isBlank s = true → '.' ∉ s.toList := by
      intro s hblank hpoint
      rw [not_isBlank_of_point hpoint] at hblank
      cases hblank
    rintro (hblank | ⟨space, rest, rfl, hblank⟩)
    · rw [lastSegment_of_no_point (hno hblank)]
      exact hblank
    · rw [lastSegment_qualify (hno hblank)]
      exact hblank

/-! ## Derived names -/

/-- A given text that is blank does not count, whatever stands in for it. -/
theorem isBlank_orElse_iff {given : Option String} :
    Text.isBlank (orElse given other) = true ↔
      (∀ text, given = some text → Text.isBlank text = true) ∧ Text.isBlank other = true := by
  cases given with
  | none => simp [orElse]
  | some text =>
    cases hblank : Text.isBlank text with
    | true => simp [orElse, hblank]
    | false => simp [orElse, hblank]

/-- All that a plugin is known by is there. -/
structure Identifiable (d : Descriptor) : Prop where
  displayName : Text.isBlank d.displayName = false
  shortName   : Text.isBlank d.shortName = false
  label       : Text.isBlank d.label = false
  urlSegment  : Text.isBlank d.urlSegment = false

end Descriptor

/-! ## Names in the registry -/

/-- A plugin leaves an entry as it is if nothing it contributes can be put
    there. -/
theorem Registry.Replaces.ready {α : Type} {entry : Registry → Option α}
    {given : Descriptor → Contribution → List α} (h : Registry.Replaces entry given) {p : Plugin}
    (hnone : ∀ c, given p.descriptor c = []) (r : Registry) :
    entry (p.ready r).registry = entry r := by
  rw [p.ready_registry]
  induction registered p.contributions generalizing r with
  | nil => rfl
  | cons c rest ih =>
    rw [List.foldl_cons, ih, h, hnone]
    rfl

namespace Plugin

variable {p : Plugin} {r : Registry}

/-- The only section that a plugin changes has its name for people. -/
theorem title_of_changed
    (h : (p.ready r).registry.menuItems.get? title ≠ r.menuItems.get? title) :
    p.descriptor.displayName = title := by
  by_contra hne
  refine h ((Registry.replaces_menuItems title).ready (fun c => ?_) r)
  cases c with
  | menuItems items => exact if_neg hne
  | _ => rfl

/-- The only preferences that it changes are under its short name. -/
theorem key_of_changed
    (h : (p.ready r).registry.preferences.get? key ≠ r.preferences.get? key) :
    p.descriptor.shortName = key := by
  by_contra hne
  refine h ((Registry.replaces_preferences key).ready (fun c => ?_) r)
  cases c with
  | preferences set => exact if_neg hne
  | _ => rfl

end Plugin

/-! ## Main theorem -/

namespace Manifest

variable {m : Manifest}

/-- **What accepted plugins are known by.**  The name for people of an accepted
    plugin is never blank.  Its short name and its label are blank exactly if
    its name is unfinished, and so is the segment of its addresses, unless one
    is given.  So an accepted plugin files its menu items under a name, and
    its preferences as well if its own name is finished. -/
theorem identifiable_iff (h : m.validate = .ok ()) :
    (m.plugin.Identifiable ↔ ¬Unfinished m.plugin.name) ∧
    Text.isBlank m.plugin.displayName = false ∧
    (Text.isBlank m.plugin.shortName = true ↔ Unfinished m.plugin.name) ∧
    (Text.isBlank m.plugin.label = true ↔ Unfinished m.plugin.name) ∧
    (Text.isBlank m.plugin.urlSegment = true ↔
      (∀ url, m.plugin.baseUrl = some url → Text.isBlank url = true) ∧
        Unfinished m.plugin.name) ∧
    (∀ r title, (m.toPlugin.ready r).registry.menuItems.get? title ≠ r.menuItems.get? title →
      Text.isBlank title = false) ∧
    (¬Unfinished m.plugin.name → ∀ r key,
      (m.toPlugin.ready r).registry.preferences.get? key ≠ r.preferences.get? key →
        Text.isBlank key = false) := by
  obtain ⟨hname, -⟩ := validate_eq_ok_iff_reads.mp h
  have hdisplay : Text.isBlank m.plugin.displayName = false := by
    rw [← Bool.not_eq_true, Descriptor.displayName, Descriptor.isBlank_orElse_iff, hname]
    simp
  have hshort : Text.isBlank m.plugin.shortName = true ↔ Unfinished m.plugin.name := by
    rw [Descriptor.shortName, Descriptor.isBlank_lastSegment_iff, hname]
    simp
  have hurl : Text.isBlank m.plugin.urlSegment = true ↔
      (∀ url, m.plugin.baseUrl = some url → Text.isBlank url = true) ∧
        Unfinished m.plugin.name := by
    rw [Descriptor.urlSegment, Descriptor.isBlank_orElse_iff, Descriptor.label, hshort]
  have hfinished : ¬Unfinished m.plugin.name → Text.isBlank m.plugin.shortName = false := by
    intro hfinished
    rw [← Bool.not_eq_true, hshort]
    exact hfinished
  refine ⟨⟨?_, ?_⟩, hdisplay, hshort, hshort, hurl, ?_, ?_⟩
  · intro hidentifiable hunfinished
    rw [← hshort, hidentifiable.shortName] at hunfinished
    cases hunfinished
  · intro hname
    refine ⟨hdisplay, hfinished hname, hfinished hname, ?_⟩
    rw [← Bool.not_eq_true, hurl]
    exact fun hblank => hname hblank.2
  · intro r title hchanged
    exact Plugin.title_of_changed hchanged ▸ hdisplay
  · intro hname r key hchanged
    exact Plugin.key_of_changed hchanged ▸ hfinished hname

/-! ### A finished name, and an unfinished one -/

/-- A manifest with preferences, and with a name for people and a segment that
    are blank. -/
def blankly (name : String) : Manifest where
  plugin := { name, verboseName := some " ", baseUrl := some "" }
  userPreferences := some (Table.empty.insert "rows" { label := "Rows" })

/-- Where a name is blank, the name of the plugin stands in. -/
theorem identifiable_iff_blankly :
    (blankly "vendor.acme").validate = .ok () ∧
      (blankly "vendor.acme").plugin.Identifiable ∧
      (blankly "vendor.acme").plugin.displayName = "vendor.acme" ∧
      (blankly "vendor.acme").plugin.urlSegment = "acme" := by
  have hvalid : (blankly "vendor.acme").validate = .ok () := by decide +kernel
  obtain ⟨hidentifiable, -, hshort, -⟩ := identifiable_iff hvalid
  have hfinished : ¬Unfinished (blankly "vendor.acme").plugin.name := by
    rw [← hshort]
    decide +kernel
  exact ⟨hvalid, hidentifiable.mpr hfinished, by decide +kernel, by decide +kernel⟩

/-- With nothing behind the last point there is no short name to stand in, and
    the preferences are filed under the empty text. -/
theorem unfinished_accepted :
    (blankly "vendor.").validate = .ok () ∧
      ¬(blankly "vendor.").plugin.Identifiable ∧
      (blankly "vendor.").plugin.shortName = "" ∧
      (blankly "vendor.").plugin.label = "" ∧
      (blankly "vendor.").plugin.urlSegment = "" ∧
      ((blankly "vendor.").toPlugin.ready Registry.empty).registry.preferences.keys = [""] := by
  have hshort : (blankly "vendor.").plugin.shortName = "" := by decide +kernel
  refine ⟨by decide +kernel, fun hidentifiable => ?_, hshort, hshort, by decide +kernel,
    by decide +kernel⟩
  have hnot := hidentifiable.shortName
  rw [hshort] at hnot
  cases hnot

end Manifest

end PluginHost
