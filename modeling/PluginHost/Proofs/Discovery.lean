import PluginHost.Discovery
import PluginHost.Proofs.Availability
import PluginHost.Proofs.FileTree
import PluginHost.Proofs.Steps
import PluginHost.Proofs.Text.ByteOrder
import Mathlib.Data.List.Sort

/-! # What a discovery finds

    A discovery sees one manifest file for each sub-directory that has one
    (`Offers`), in the order of the names of the sub-directories
    (`manifestFiles`).  Nothing else in the directory counts, and neither does
    the order in which the directory lists its entries.  The files are read
    one after the other, up to the first one that cannot be used.

    Main theorem: `discover_decides`. -/

namespace PluginHost.Discovery

variable {entries others files : Entries Node} {subs : Entries (Entries Node)}
  {directory name reason : String} {file : Node} {found : FoundPlugin} {e : LoadError}

/-! ## Manifest files -/

/-- The file declares a manifest, which is valid. -/
def Declares (file : Node) (manifest : Manifest) : Prop :=
  ∃ text, file.readText = .ok text ∧ Manifest.parse text = .ok manifest ∧
    manifest.validate = .ok ()

/-- The file cannot be used, for a reason. -/
inductive Unusable (file : Node) : String → Prop where
  | unreadable {e : FileError} (hread : file.readText = .error e) :
    Unusable file ("failed to read plugin.toml: " ++ e.message)
  | malformed {text : String} {e : Toml.ReadError} (hread : file.readText = .ok text)
      (hparse : Manifest.parse text = .error e) :
    Unusable file ("failed to parse plugin.toml: " ++ e.message)
  | invalid {text : String} {manifest : Manifest} {e : ManifestFault}
      (hread : file.readText = .ok text) (hparse : Manifest.parse text = .ok manifest)
      (hvalid : manifest.validate = .error e) :
    Unusable file e.message

theorem loadPlugin_of_declares {manifest : Manifest} (h : Declares file manifest) :
    loadPlugin directory file = .ok ⟨manifest, directory⟩ := by
  obtain ⟨text, hread, hparse, hvalid⟩ := h
  rw [loadPlugin, hread]
  simp only [hparse, hvalid]

theorem loadPlugin_of_unusable (h : Unusable file reason) :
    loadPlugin directory file = .error (fault directory reason) := by
  unfold loadPlugin
  cases h with
  | unreadable hread =>
    simp only [hread]
    rfl
  | malformed hread hparse =>
    simp only [hread, hparse]
    rfl
  | invalid hread hparse hvalid => simp only [hread, hparse, hvalid]

/-- A file declares a manifest, or it cannot be used. -/
theorem declares_or_unusable (file : Node) :
    (∃ manifest, Declares file manifest) ∨ ∃ reason, Unusable file reason := by
  cases hread : file.readText with
  | error e => exact .inr ⟨_, .unreadable hread⟩
  | ok text =>
    cases hparse : Manifest.parse text with
    | error e => exact .inr ⟨_, .malformed hread hparse⟩
    | ok manifest =>
      cases hvalid : manifest.validate with
      | error e => exact .inr ⟨_, .invalid hread hparse hvalid⟩
      | ok u => exact .inl ⟨manifest, text, hread, hparse, hvalid⟩

theorem loadPlugin_eq_ok_iff :
    loadPlugin directory file = .ok found ↔
      found.path = directory ∧ Declares file found.manifest := by
  constructor
  · intro h
    rcases declares_or_unusable file with ⟨manifest, hm⟩ | ⟨reason, hr⟩
    · rw [loadPlugin_of_declares hm] at h
      cases h
      exact ⟨rfl, hm⟩
    · rw [loadPlugin_of_unusable hr] at h
      cases h
  · rintro ⟨rfl, hm⟩
    exact loadPlugin_of_declares hm

theorem loadPlugin_eq_error_iff :
    loadPlugin directory file = .error e ↔
      ∃ reason, Unusable file reason ∧ e = ⟨directory, .manifest reason⟩ := by
  constructor
  · intro h
    rcases declares_or_unusable file with ⟨manifest, hm⟩ | ⟨reason, hr⟩
    · rw [loadPlugin_of_declares hm] at h
      cases h
    · rw [loadPlugin_of_unusable hr] at h
      exact ⟨reason, hr, (Except.error.inj h).symm⟩
  · rintro ⟨reason, hr, rfl⟩
    exact loadPlugin_of_unusable hr

/-! ## Sub-directories by name -/

theorem mem_subdirectories {inner : Entries Node} :
    (name, inner) ∈ subdirectories entries ↔ (name, Node.directory inner) ∈ entries := by
  unfold subdirectories
  rw [(List.mergeSort_perm _ _).mem_iff, List.mem_filterMap]
  constructor
  · rintro ⟨⟨n, node⟩, hmem, hnode⟩
    cases node with
    | file content => cases hnode
    | directory entries =>
      cases hnode
      exact hmem
  · intro hmem
    exact ⟨_, hmem, rfl⟩

theorem distinct_subdirectories (h : entries.Distinct) :
    Entries.Distinct (subdirectories entries) := by
  refine Entries.Distinct.perm ?_ (List.mergeSort_perm _ _).symm
  refine List.Pairwise.filterMap _ ?_ h
  rintro ⟨n, node⟩ ⟨n', node'⟩ hne s hs s' hs'
  cases node <;> cases node' <;> cases hs <;> cases hs'
  exact hne

/-- The names of the sub-directories ascend. -/
theorem ordered_subdirectories (h : entries.Distinct) :
    Entries.Ordered (subdirectories entries) := by
  have hsorted : (subdirectories entries).Pairwise fun a b => decide (a.1 ≤ b.1) = true := by
    apply List.pairwise_mergeSort
    · intro a b c hab hbc
      simpa using String.le_trans (by simpa using hab) (by simpa using hbc)
    · intro a b
      simpa using String.le_total a.1 b.1
  refine (hsorted.and (distinct_subdirectories h)).imp ?_
  rintro a b ⟨hle, hne⟩
  rcases Std.lt_trichotomy a.1 b.1 with hlt | heq | hgt
  · exact hlt
  · exact absurd heq hne
  · exact absurd hgt (String.not_lt.mpr (by simpa using hle))

/-- Of a directory only the sub-directories count, in whatever order. -/
theorem subdirectories_congr (hentries : entries.Distinct) (hothers : others.Distinct)
    (h : ∀ name inner,
      (name, Node.directory inner) ∈ entries ↔ (name, Node.directory inner) ∈ others) :
    subdirectories entries = subdirectories others := by
  apply (ordered_subdirectories hentries).eq_of_mem_iff (ordered_subdirectories hothers)
  intro name inner
  rw [mem_subdirectories, mem_subdirectories, h name inner]

/-! ## The files that are read -/

/-- A sub-directory of this name has this manifest file. -/
def Offers (entries : Entries Node) (name : String) (file : Node) : Prop :=
  ∃ inner, (name, Node.directory inner) ∈ entries ∧ Node.child? manifestFile inner = some file

/-- The manifest files that sub-directories have. -/
def manifestFiles (subs : Entries (Entries Node)) : Entries Node :=
  subs.filterMap fun e => (Node.child? manifestFile e.2).map fun file => (e.1, file)

theorem mem_manifestFiles :
    (name, file) ∈ manifestFiles (subdirectories entries) ↔ Offers entries name file := by
  unfold manifestFiles Offers
  rw [List.mem_filterMap]
  constructor
  · rintro ⟨⟨n, inner⟩, hmem, hfile⟩
    obtain ⟨file', hchild, heq⟩ := Option.map_eq_some_iff.mp hfile
    cases heq
    exact ⟨inner, mem_subdirectories.mp hmem, hchild⟩
  · rintro ⟨inner, hmem, hchild⟩
    exact ⟨(name, inner), mem_subdirectories.mpr hmem, by rw [hchild]; rfl⟩

theorem ordered_manifestFiles (h : subs.Ordered) : (manifestFiles subs).Ordered := by
  refine List.Pairwise.filterMap _ ?_ h
  intro a b hlt x hx y hy
  obtain ⟨file, -, rfl⟩ := Option.map_eq_some_iff.mp hx
  obtain ⟨file', -, rfl⟩ := Option.map_eq_some_iff.mp hy
  exact hlt

/-- A directory without a manifest file has no part in the result. -/
theorem value_visit_cons_of_missing {inner : Entries Node}
    (h : Node.child? manifestFile inner = none) (rest : Entries (Entries Node)) :
    (visit ((directory, inner) :: rest)).value = (visit rest).value := by
  rw [visit, h]

theorem value_visit_cons_of_child {inner : Entries Node}
    (h : Node.child? manifestFile inner = some file) (rest : Entries (Entries Node)) :
    (visit ((directory, inner) :: rest)).value =
      (loadPlugin directory file).bind fun plugin => (visit rest).value.map (plugin :: ·) := by
  rw [visit, h]
  cases hload : loadPlugin directory file <;> simp only [hload] <;> rfl

/-- Visiting directories is reading their manifest files. -/
theorem value_visit (directory : String) (subs : Entries (Entries Node)) :
    (visit (subs.map fun e => (Path.join directory e.1, e.2))).value =
      (manifestFiles subs).mapM fun d => loadPlugin (Path.join directory d.1) d.2 := by
  induction subs with
  | nil => rfl
  | cons e rest ih =>
    obtain ⟨name, inner⟩ := e
    rw [List.map_cons, manifestFiles, List.filterMap_cons]
    cases hchild : Node.child? manifestFile inner with
    | none => exact (value_visit_cons_of_missing hchild _).trans ih
    | some file =>
      rw [value_visit_cons_of_child hchild, ih]
      show _ = ((name, file) :: manifestFiles rest).mapM _
      rw [List.mapM_cons]
      cases loadPlugin (Path.join directory name) file with
      | error e => rfl
      | ok plugin =>
        cases (manifestFiles rest).mapM fun d => loadPlugin (Path.join directory d.1) d.2 <;> rfl

theorem value_discover (directory : String) (entries : Entries Node) :
    (discover directory (some (.directory entries))).value =
      (manifestFiles (subdirectories entries)).mapM
        fun d => loadPlugin (Path.join directory d.1) d.2 :=
  value_visit directory (subdirectories entries)

/-! ## The result -/

theorem value_discover_eq_ok_iff {found : List FoundPlugin} :
    (discover directory (some (.directory entries))).value = .ok found ↔
      List.Forall₂
        (fun d (f : FoundPlugin) => f.path = Path.join directory d.1 ∧ Declares d.2 f.manifest)
        (manifestFiles (subdirectories entries)) found := by
  rw [value_discover, mapM_eq_ok_iff]
  simp only [loadPlugin_eq_ok_iff]

/-- A discovery fails with the first manifest file that cannot be used. -/
theorem value_discover_eq_error_iff :
    (discover directory (some (.directory entries))).value = .error e ↔
      ∃ front name file back reason,
        manifestFiles (subdirectories entries) = front ++ (name, file) :: back ∧
        (∀ d ∈ front, ∃ manifest, Declares d.2 manifest) ∧ Unusable file reason ∧
        e = ⟨Path.join directory name, .manifest reason⟩ := by
  rw [value_discover, mapM_eq_error_iff]
  constructor
  · rintro ⟨front, ⟨name, file⟩, back, hfiles, hfront, herror⟩
    obtain ⟨reason, hreason, rfl⟩ := loadPlugin_eq_error_iff.mp herror
    refine ⟨front, name, file, back, reason, hfiles, fun d hd => ?_, hreason, rfl⟩
    obtain ⟨plugin, hplugin⟩ := hfront d hd
    exact ⟨plugin.manifest, (loadPlugin_eq_ok_iff.mp hplugin).2⟩
  · rintro ⟨front, name, file, back, reason, hfiles, hfront, hreason, rfl⟩
    refine ⟨front, (name, file), back, hfiles, fun d hd => ?_, loadPlugin_of_unusable hreason⟩
    obtain ⟨manifest, hmanifest⟩ := hfront d hd
    exact ⟨_, loadPlugin_of_declares hmanifest⟩

/-- The order in which a directory lists its entries does not matter. -/
theorem discover_perm (hdistinct : entries.Distinct) (hperm : entries.Perm others) :
    discover directory (some (.directory others)) =
      discover directory (some (.directory entries)) := by
  have hsame : subdirectories others = subdirectories entries :=
    subdirectories_congr (hdistinct.perm hperm) hdistinct fun _ _ => hperm.symm.mem_iff
  show visit ((subdirectories others).map _) = visit ((subdirectories entries).map _)
  rw [hsame]

/-- Only the manifest files matter. -/
theorem value_discover_congr (hentries : entries.Distinct) (hothers : others.Distinct)
    (h : ∀ name file, Offers others name file ↔ Offers entries name file) :
    (discover directory (some (.directory others))).value =
      (discover directory (some (.directory entries))).value := by
  have hsame : manifestFiles (subdirectories others) = manifestFiles (subdirectories entries) := by
    apply (ordered_manifestFiles (ordered_subdirectories hothers)).eq_of_mem_iff
      (ordered_manifestFiles (ordered_subdirectories hentries))
    intro name file
    rw [mem_manifestFiles, mem_manifestFiles]
    exact h name file
  rw [value_discover, value_discover, hsame]

/-! ## Main theorem -/

/-- The manifest files that the sub-directories of a directory have, by the
    bytes of the sub-directories' names. -/
structure Visited (entries files : Entries Node) : Prop where
  ascending : files.Pairwise fun a b => Text.bytes a.1 < Text.bytes b.1
  mem_iff   : ∀ name file, (name, file) ∈ files ↔ Offers entries name file

theorem visited (h : entries.Distinct) :
    Visited entries (manifestFiles (subdirectories entries)) where
  ascending := (ordered_manifestFiles (ordered_subdirectories h)).imp Text.bytes_lt_of_lt
  mem_iff _ _ := mem_manifestFiles

/-- What is visited is determined by the directory. -/
theorem Visited.unique {files' : Entries Node} (h : Visited entries files)
    (h' : Visited entries files') : files = files' := by
  have hnodup : ∀ {l : Entries Node}, Visited entries l → l.Nodup := by
    intro l hl
    refine hl.ascending.imp fun hlt heq => ?_
    exact List.lt_irrefl _ (heq ▸ hlt)
  have hperm : List.Perm files files' := by
    rw [List.perm_ext_iff_of_nodup (hnodup h) (hnodup h')]
    rintro ⟨name, file⟩
    rw [h.mem_iff, h'.mem_iff]
  refine hperm.eq_of_pairwise ?_ h.ascending h'.ascending
  intro a b _ _ hab hba
  exact absurd hba (List.lt_asymm hab)

/-- **What a discovery finds.**  It finds the manifests of the sub-directories
    by the bytes of their names, or fails with the first of them that cannot be
    used.  It neither depends on the order in which the directory is listed nor
    on anything without a manifest file.  The plugins it finds can be
    registered on a fresh loader up to the first name that comes again. -/
theorem discover_decides (hdistinct : entries.Distinct) (directory : String) :
    (∃ files, Visited entries files ∧
      (∀ found, (discover directory (some (.directory entries))).value = .ok found ↔
        List.Forall₂
          (fun d (f : FoundPlugin) => f.path = Path.join directory d.1 ∧ Declares d.2 f.manifest)
          files found) ∧
      (∀ e, (discover directory (some (.directory entries))).value = .error e ↔
        ∃ front name file back reason, files = front ++ (name, file) :: back ∧
          (∀ d ∈ front, ∃ manifest, Declares d.2 manifest) ∧ Unusable file reason ∧
          e = ⟨Path.join directory name, .manifest reason⟩)) ∧
    (∀ others, entries.Perm others →
      discover directory (some (.directory others)) =
        discover directory (some (.directory entries))) ∧
    (∀ others : Entries Node, others.Distinct →
      (∀ name file, Offers others name file ↔ Offers entries name file) →
      (discover directory (some (.directory others))).value =
        (discover directory (some (.directory entries))).value) ∧
    (∀ host found, (discover directory (some (.directory entries))).value = .ok found →
      Loader.Registered host (found.map (·.manifest.toPlugin))
        (Loader.registerAll ⟨host, []⟩ (found.map (·.manifest.toPlugin)))) := by
  refine ⟨⟨manifestFiles (subdirectories entries), visited hdistinct,
    fun _ => value_discover_eq_ok_iff, fun _ => value_discover_eq_error_iff⟩,
    fun others hperm => discover_perm hdistinct hperm,
    fun others hothers hoffers => value_discover_congr hdistinct hothers hoffers, ?_⟩
  intro host found _
  exact Loader.registered_registerAll host _

/-! ### A directory in disorder -/

/-- The text of a manifest that declares no more than a name. -/
def nameText (name : String) : String := "[plugin]\nname = \"" ++ name ++ "\"\n"

/-- A directory that lists its sub-directories by no order, and has a file and
    a sub-directory without a manifest. -/
def mixed : Entries Node :=
  [("zebra", .directory [(manifestFile, .file (nameText "alpha").toUTF8)]),
   ("notes.txt", .file "".toUTF8),
   ("empty", .directory []),
   ("apple", .directory [(manifestFile, .file (nameText "omega").toUTF8)])]

theorem visited_mixed :
    Visited mixed
      [("apple", .file (nameText "omega").toUTF8), ("zebra", .file (nameText "alpha").toUTF8)] where
  ascending := List.pairwise_pair.mpr (Text.bytes_lt_of_lt (by decide))
  mem_iff name file := by
    unfold Offers
    constructor
    · intro h
      simp only [List.mem_cons, List.not_mem_nil, or_false, Prod.mk.injEq] at h
      rcases h with ⟨rfl, rfl⟩ | ⟨rfl, rfl⟩
      · exact ⟨[(manifestFile, _)], by simp [mixed], if_pos rfl⟩
      · exact ⟨[(manifestFile, _)], by simp [mixed], if_pos rfl⟩
    · rintro ⟨inner, hmem, hchild⟩
      simp only [mixed, List.mem_cons, List.not_mem_nil, or_false, Prod.mk.injEq,
        Node.directory.injEq, reduceCtorEq, and_false, false_or] at hmem
      rcases hmem with ⟨rfl, rfl⟩ | ⟨rfl, rfl⟩ | ⟨rfl, rfl⟩
      · obtain rfl := Option.some.inj ((if_pos rfl).symm.trans hchild)
        simp
      · cases hchild
      · obtain rfl := Option.some.inj ((if_pos rfl).symm.trans hchild)
        simp

/-- A file declares what its text says. -/
theorem declares_of_text (text name : String)
    (h : (Manifest.parse text).toOption.map (fun m => (m.plugin.name, m.validate.isOk)) =
      some (name, true)) :
    ∃ manifest, Declares (.file text.toUTF8) manifest ∧ manifest.plugin.name = name := by
  cases hparse : Manifest.parse text with
  | error e =>
    rw [hparse] at h
    cases h
  | ok manifest =>
    rw [hparse] at h
    obtain ⟨hname, hok⟩ := Prod.mk.inj (Option.some.inj h)
    cases hvalid : manifest.validate with
    | error e =>
      rw [hvalid] at hok
      cases hok
    | ok u => exact ⟨manifest, ⟨text, Node.readText_toUTF8 text, hparse, hvalid⟩, hname⟩

/-- The plugins are found by the names of their directories, whether the
    directory is listed in one order or the other, and become available. -/
theorem discover_decides_mixed :
    mixed.Distinct ∧
      discover "plugins" (some (.directory mixed.reverse)) =
        discover "plugins" (some (.directory mixed)) ∧
      ∃ found, (discover "plugins" (some (.directory mixed))).value = .ok found ∧
        found.map (fun f => (f.path, f.manifest.plugin.name)) =
          [("plugins/apple", "omega"), ("plugins/zebra", "alpha")] ∧
        (Loader.registerAll ⟨"4.1.0", []⟩ (found.map (·.manifest.toPlugin))).loader.available =
          ["omega", "alpha"] := by
  have hdistinct : mixed.Distinct := by
    unfold Entries.Distinct mixed
    simp
  obtain ⟨⟨files, hvisited, hfound, -⟩, hperm, -, hregistered⟩ :=
    discover_decides hdistinct "plugins"
  obtain rfl := hvisited.unique visited_mixed
  obtain ⟨omega, homega, hname⟩ :=
    declares_of_text (nameText "omega") "omega" (by decide +kernel)
  obtain ⟨alpha, halpha, hname'⟩ :=
    declares_of_text (nameText "alpha") "alpha" (by decide +kernel)
  have happle : "plugins/apple" = Path.join "plugins" "apple" := by decide +kernel
  have hzebra : "plugins/zebra" = Path.join "plugins" "zebra" := by decide +kernel
  have hvalue := (hfound [⟨omega, "plugins/apple"⟩, ⟨alpha, "plugins/zebra"⟩]).mpr
    (.cons ⟨happle, homega⟩ (.cons ⟨hzebra, halpha⟩ .nil))
  have hnames : ([omega, alpha].map fun m => m.toPlugin.name) = ["omega", "alpha"] := by
    show [omega.plugin.name, alpha.plugin.name] = _
    rw [hname, hname']
  have hregs := hregistered "4.1.0" _ hvalue
  have hdone := hregs.error_eq_none_iff.mpr (by
    show ([omega, alpha].map fun m => m.toPlugin.name).Nodup
    rw [hnames]
    decide)
  refine ⟨hdistinct, hperm _ (List.reverse_perm mixed).symm, _, hvalue, ?_, ?_⟩
  · simp [hname, hname']
  · exact (hregs.available hdone).trans hnames

end PluginHost.Discovery
