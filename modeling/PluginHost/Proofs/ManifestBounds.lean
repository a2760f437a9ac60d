import PluginHost.Proofs.Discovery
import PluginHost.Proofs.Loading
import PluginHost.Proofs.VersionBounds

/-! # Bounds of discovered plugins

    The bounds of a plugin are read twice: when its manifest is validated, and
    when a load checks the host against them.  A manifest is only valid if its
    bounds are versions (`validate_eq_ok_iff_reads`), and registrations keep
    that for all plugins of a loader (`Reads`), so a load of discovered plugins
    never stumbles over a bound.

    Main theorem: `discovered_bounds_read`. -/

namespace PluginHost

open Toml (Settings)

variable {bound : Option String} {text host plugin value : String} {reason : Version.ParseError}
  {h : Version}

/-! ## Bounds that are versions -/

theorem Version.readable_iff_isOk : Version.Readable text ↔ (Version.parse text).isOk = true := by
  unfold Version.Readable
  cases Version.parse text with
  | error reason => simp [Except.isOk, Except.toBool]
  | ok v => simp [Except.isOk, Except.toBool]

/-- A bound is a version, if it is set. -/
def BoundReads (bound : Option String) : Prop := ∀ text, bound = some text → Version.Readable text

theorem boundReads_some_iff : BoundReads (some text) ↔ Version.Readable text := by
  constructor
  · intro hreads
    exact hreads text rfl
  · intro hread _ htext
    cases htext
    exact hread

theorem boundReads_of_parse {bound : Option String} {text : String} {v : Version}
    (hbound : bound = some text) (hread : Version.parse text = .ok v) : BoundReads bound := by
  rw [hbound, boundReads_some_iff]
  exact ⟨v, hread⟩

/-- A bound that is met is a version. -/
theorem Bounded.boundReads {bound : Option String} {inside : Version → Prop}
    (h : Bounded bound inside) : BoundReads bound := by
  intro text htext
  obtain ⟨v, hv, -⟩ := h text htext
  exact ⟨v, hv⟩

namespace Descriptor

variable {d : Descriptor}

/-- The bounds of a plugin are versions. -/
structure BoundsRead (d : Descriptor) : Prop where
  minimum : BoundReads d.minVersion
  maximum : BoundReads d.maxVersion

theorem boundsRead_iff_both :
    d.BoundsRead ↔ BoundReads d.minVersion ∧ BoundReads d.maxVersion :=
  ⟨fun h => ⟨h.minimum, h.maximum⟩, fun h => ⟨h.1, h.2⟩⟩

/-! ## The check of the host -/

/-- A check that is about a version that is none is about its bound. -/
theorem BoundVerdict.not_boundReads {inside : Version → Prop}
    {fault : String → ConfigurationError}
    (hv : BoundVerdict d bound inside fault (.error (.invalidVersion plugin value reason)))
    (hfault : ∀ text, fault text ≠ .invalidVersion plugin value reason) : ¬BoundReads bound := by
  intro hreads
  -- The error of a bound that is not met would be one of `fault`.
  generalize herror : ConfigurationError.invalidVersion plugin value reason = e at hv
  cases hv with
  | unread hbound hread =>
    obtain ⟨v, hv⟩ := hreads _ hbound
    rw [hread] at hv
    cases hv
  | outside hbound hread hnot => exact hfault _ herror.symm

/-- With versions on both sides a check is never about one that is none. -/
theorem BoundsRead.checkBounds_ne (hbounds : d.BoundsRead) (hhost : Version.Readable host) :
    d.checkBounds host ≠ .error (.invalidVersion plugin value reason) := by
  intro hcheck
  have hverdict := d.boundsVerdict host
  rw [hcheck] at hverdict
  cases hverdict with
  | unread hunread =>
    obtain ⟨h, hh⟩ := hhost
    rw [hunread] at hh
    cases hh
  | minimum _ hmin => exact hmin.not_boundReads (fun _ => nofun) hbounds.minimum
  | maximum _ _ hmax => exact hmax.not_boundReads (fun _ => nofun) hbounds.maximum

theorem checkBounds_of_unread_minimum (hhost : Version.parse host = .ok h)
    (hbound : d.minVersion = some text) (hread : Version.parse text = .error reason) :
    d.checkBounds host = .error (.invalidVersion d.name text reason) := by
  simp [checkBounds, checkMinimum, parseVersion, hhost, hbound, hread, bind, Except.bind]

theorem checkBounds_of_unread_maximum (hhost : Version.parse host = .ok h) (hmin : d.NotBelow h)
    (hbound : d.maxVersion = some text) (hread : Version.parse text = .error reason) :
    d.checkBounds host = .error (.invalidVersion d.name text reason) := by
  rw [checkBounds_of_notBelow hhost hmin]
  simp [checkMaximum, parseVersion, hbound, hread, bind, Except.bind]

/-- The least version itself is a host that is not below it. -/
theorem exists_notBelow (hmin : BoundReads d.minVersion) :
    ∃ host h, Version.parse host = .ok h ∧ d.NotBelow h := by
  unfold NotBelow
  cases hbound : d.minVersion with
  | none => exact ⟨"0", ⟨0, 0, 0, [], []⟩, by decide +kernel, nofun⟩
  | some text =>
    obtain ⟨least, hleast⟩ := hmin text hbound
    refine ⟨text, least, hleast, ?_⟩
    intro _ htext
    cases htext
    exact ⟨least, hleast, le_refl _⟩

/-- Bounds are versions if no check of a host says otherwise. -/
theorem boundsRead_iff :
    d.BoundsRead ↔ ∀ host, Version.Readable host → ∀ plugin value reason,
      d.checkBounds host ≠ .error (.invalidVersion plugin value reason) := by
  constructor
  · intro hbounds host hhost plugin value reason
    exact hbounds.checkBounds_ne hhost
  · intro hnever
    have hmin : BoundReads d.minVersion := by
      intro text hbound
      cases hread : Version.parse text with
      | ok v => exact ⟨v, hread⟩
      | error reason =>
        have hhost : Version.parse "0" = .ok ⟨0, 0, 0, [], []⟩ := by decide +kernel
        exact absurd (checkBounds_of_unread_minimum hhost hbound hread) (hnever _ ⟨_, hhost⟩ _ _ _)
    refine ⟨hmin, ?_⟩
    intro text hbound
    cases hread : Version.parse text with
    | ok v => exact ⟨v, hread⟩
    | error reason =>
      -- Only a host that passes the least version gets as far as the greatest one.
      obtain ⟨host, h, hhost, hnotBelow⟩ := exists_notBelow hmin
      exact absurd (checkBounds_of_unread_maximum hhost hnotBelow hbound hread)
        (hnever _ ⟨h, hhost⟩ _ _ _)

end Descriptor

/-! ## Manifests -/

namespace Manifest

variable {m : Manifest} {field : String}

theorem checkBound_eq_ok_iff : checkBound field bound = .ok () ↔ BoundReads bound := by
  cases bound with
  | none => exact iff_of_true rfl nofun
  | some text =>
    rw [boundReads_some_iff, Version.readable_iff_isOk]
    simp [checkBound]

/-- A manifest is valid if it has a name and its versions are versions. -/
theorem validate_eq_ok_iff_reads :
    m.validate = .ok () ↔
      Text.isBlank m.plugin.name = false ∧
        (m.plugin.version = "" ∨ Version.Readable m.plugin.version) ∧ m.plugin.BoundsRead := by
  have hbounds : m.plugin.BoundsRead ↔
      checkBound "min_version" m.plugin.minVersion = .ok () ∧
        checkBound "max_version" m.plugin.maxVersion = .ok () := by
    rw [checkBound_eq_ok_iff, checkBound_eq_ok_iff, Descriptor.boundsRead_iff_both]
  rw [hbounds, Version.readable_iff_isOk, ← String.isEmpty_iff]
  unfold validate
  cases Text.isBlank m.plugin.name with
  | true => simp [bind, Except.bind]
  | false =>
    -- Each of the checks that are left passes, or ends the validation.
    cases m.plugin.version.isEmpty <;> cases (Version.parse m.plugin.version).isOk <;>
      cases checkBound "min_version" m.plugin.minVersion <;> simp [bind, Except.bind]

end Manifest

/-! ## Loads -/

namespace Loader

variable {l l' : Loader} {p : Plugin} {plugins : List Plugin} {enabled : List String}
  {config : Table Settings} {name : String}

/-- The host of a loader is a version, and so are the bounds of its plugins. -/
structure Reads (l : Loader) : Prop where
  host   : Version.Readable l.hostVersion
  bounds : ∀ p ∈ l.plugins, p.descriptor.BoundsRead

theorem Reads.register (hl : l.Reads) (hp : p.descriptor.BoundsRead)
    (hregister : l.register p = .ok l') : l'.Reads := by
  obtain ⟨-, rfl⟩ := register_eq_ok_iff.mp hregister
  refine ⟨hl.host, ?_⟩
  intro q hq
  rcases List.mem_append.mp hq with hold | hnew
  · exact hl.bounds q hold
  · rw [List.mem_singleton.mp hnew]
    exact hp

/-- Registrations keep it, whether or not all of them succeed. -/
theorem Reads.registerAll (hl : l.Reads) (hplugins : ∀ p ∈ plugins, p.descriptor.BoundsRead) :
    (l.registerAll plugins).loader.Reads := by
  induction plugins generalizing l with
  | nil => exact hl
  | cons p rest ih =>
    rw [Loader.registerAll]
    cases hregister : l.register p with
    | error e => exact hl
    | ok l' =>
      have hl' : l'.Reads := hl.register (hplugins p List.mem_cons_self) hregister
      exact ih hl' fun q hq => hplugins q (List.mem_cons_of_mem p hq)

/-- A plugin that a load refuses is one of the loader's, and its validation
    says why. -/
theorem validate_of_load {e : ConfigurationError}
    (hload : (l.load enabled config).outcome = .error ⟨name, .configuration e⟩) :
    ∃ p ∈ l.plugins, p.descriptor.validate (settingsFor config name) l.hostVersion = .error e := by
  -- A fault of the second phase is no fault of configuration.
  cases firstFault_of_load hload with
  | selecting _ hname hfault =>
    rw [faultAt_of_getElem? hname, nameFault_eq_configuration_iff] at hfault
    obtain ⟨-, p, hp, hvalid⟩ := hfault
    exact ⟨p, List.mem_of_find?_eq_some hp, hvalid⟩

theorem Reads.load_ne (hl : l.Reads) :
    (l.load enabled config).outcome ≠
      .error ⟨name, .configuration (.invalidVersion plugin value reason)⟩ := by
  intro hload
  obtain ⟨p, hp, hvalid⟩ := validate_of_load hload
  have habout : (ConfigurationError.invalidVersion plugin value reason).AboutVersions := trivial
  have hcheck := (Descriptor.validate_eq_error_iff_checkBounds habout).mp hvalid
  exact (hl.bounds p hp).checkBounds_ne hl.host hcheck

end Loader

/-! ## Main theorem -/

namespace Discovery

/-- What is discovered is valid. -/
theorem validate_of_discover {directory : String} {node : Option Node} {found : List FoundPlugin}
    (hfound : (discover directory node).value = .ok found) :
    ∀ f ∈ found, f.manifest.validate = .ok () := by
  intro f hf
  cases node with
  | none =>
    cases hfound
    cases hf
  | some node =>
    cases node with
    | file content => cases hfound
    | directory entries =>
      rw [value_discover] at hfound
      obtain ⟨d, -, hload⟩ := mem_of_mapM_eq_ok hfound hf
      obtain ⟨-, text, -, -, hvalid⟩ := loadPlugin_eq_ok_iff.mp hload
      exact hvalid

/-- **Bounds are read alike.**  A load of discovered plugins never fails with a
    version that is none, whatever is enabled and configured, if the host is a
    version; it does not matter whether all that was found could be registered.
    A manifest is valid exactly if it has a name, its version is one or left
    out, and no check of such a host would ever fail in this way. -/
theorem discovered_bounds_read :
    (∀ (directory : String) (node : Option Node) (found : List FoundPlugin) (host : String)
      (enabled : List String) (config : Table Settings), Version.Readable host →
      (discover directory node).value = .ok found →
      ∀ name plugin value reason,
        ((Loader.registerAll ⟨host, []⟩ (found.map (·.manifest.toPlugin))).loader.load
          enabled config).outcome ≠
          .error ⟨name, .configuration (.invalidVersion plugin value reason)⟩) ∧
    (∀ m : Manifest, m.validate = .ok () ↔
      Text.isBlank m.plugin.name = false ∧
        (m.plugin.version = "" ∨ Version.Readable m.plugin.version) ∧
        ∀ host, Version.Readable host → ∀ plugin value reason,
          m.plugin.checkBounds host ≠ .error (.invalidVersion plugin value reason)) := by
  refine ⟨?_, ?_⟩
  · intro directory node found host enabled config hhost hfound name plugin value reason
    have hfresh : Loader.Reads ⟨host, []⟩ := ⟨hhost, nofun⟩
    refine (hfresh.registerAll ?_).load_ne
    intro p hp
    obtain ⟨f, hf, hplugin⟩ := List.mem_map.mp hp
    have hvalid := Manifest.validate_eq_ok_iff_reads.mp (validate_of_discover hfound f hf)
    rw [← hplugin]
    exact hvalid.2.2
  · intro m
    rw [← Descriptor.boundsRead_iff]
    exact Manifest.validate_eq_ok_iff_reads

/-- The text of a manifest with two bounds. -/
def boundedText : String :=
  "[plugin]\nname = \"acme\"\nmin_version = \" V3.5 \"\nmax_version = \"4.1+build.7\"\n"

/-- A directory with one plugin. -/
def bounded : Entries Node :=
  [("acme", .directory [(manifestFile, .file boundedText.toUTF8)])]

/-- The plugin is found, and no load with a host above its greatest version is
    about a version that is none; neither is any other check of its bounds. -/
theorem discovered_bounds_read_bounded :
    Version.Readable "4.2" ∧
      ∃ found, (discover "plugins" (some (.directory bounded))).value = .ok found ∧
        found.map (·.manifest.plugin.name) = ["acme"] ∧
        (∀ plugin value reason,
          ((Loader.registerAll ⟨"4.2", []⟩ (found.map (·.manifest.toPlugin))).loader.load
            ["acme"] Table.empty).outcome ≠
            .error ⟨"acme", .configuration (.invalidVersion plugin value reason)⟩) ∧
        ∀ f ∈ found, ∀ host, Version.Readable host → ∀ plugin value reason,
          f.manifest.plugin.checkBounds host ≠
            .error (.invalidVersion plugin value reason) := by
  obtain ⟨hloads, hvalid_iff⟩ := discovered_bounds_read
  have hhost : Version.Readable "4.2" := ⟨⟨4, 2, 0, [], []⟩, by decide +kernel⟩
  obtain ⟨acme, hacme, hname⟩ := declares_of_text boundedText "acme" (by decide +kernel)
  have hfiles : manifestFiles (subdirectories bounded) =
      [("acme", .file boundedText.toUTF8)] := by
    simp [manifestFiles, subdirectories, bounded, Node.child?]
  have hvalue : (discover "plugins" (some (.directory bounded))).value =
      .ok [⟨acme, Path.join "plugins" "acme"⟩] := by
    rw [bounded, value_discover_eq_ok_iff, ← bounded, hfiles]
    exact .cons ⟨rfl, hacme⟩ .nil
  refine ⟨hhost, _, hvalue, by simp [hname], ?_, ?_⟩
  · exact hloads "plugins" _ _ "4.2" ["acme"] Table.empty hhost hvalue "acme"
  · intro f hf
    exact ((hvalid_iff f.manifest).mp (validate_of_discover hvalue f hf)).2.2

end Discovery

end PluginHost
