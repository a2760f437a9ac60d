import PluginHost.FileTree
import PluginHost.Loader
import PluginHost.Manifest

/-! # Discovering plugins

    Finding the manifests in the sub-directories of a directory.  The
    sub-directories are visited by name, whatever order they are listed in;
    plain files do not count.  The first manifest that cannot be used ends the
    discovery. -/

namespace PluginHost

/-- The name of manifest files. -/
def manifestFile : String := "plugin.toml"

/-- A manifest, and the directory it was found in. -/
structure FoundPlugin where
  manifest : Manifest
  path     : String

namespace Discovery

/-- The outcome of a discovery. -/
abbrev Result := Logged (Except LoadError (List FoundPlugin))

/-- The error about a directory. -/
def fault (directory reason : String) : LoadError := ⟨directory, .manifest reason⟩

/-- Read the manifest of a directory, which has to be valid. -/
def loadPlugin (directory : String) (file : Node) : Except LoadError FoundPlugin :=
  match file.readText with
  | .error e =>
    .error (fault directory ("failed to read " ++ manifestFile ++ ": " ++ e.message))
  | .ok text =>
    match Manifest.parse text with
    | .error e =>
      .error (fault directory ("failed to parse " ++ manifestFile ++ ": " ++ e.message))
    | .ok manifest =>
      match manifest.validate with
      | .error e => .error (fault directory e.message)
      | .ok () => .ok ⟨manifest, directory⟩

/-- Visit directories, given by path and entries, in the given order. -/
def visit : List (String × List (String × Node)) → Result
  | [] => ⟨.ok [], []⟩
  | (directory, entries) :: rest =>
    match Node.child? manifestFile entries with
    -- A directory without a manifest is reported, and passed over.
    | none =>
      let later := visit rest
      ⟨later.value, .manifestMissing directory :: later.log⟩
    | some file =>
      match loadPlugin directory file with
      | .error e => ⟨.error e, []⟩
      | .ok plugin =>
        let later := visit rest
        ⟨later.value.map (plugin :: ·),
          .pluginDiscovered plugin.manifest.plugin.name directory :: later.log⟩

/-- The sub-directories among the entries of a directory, by name. -/
def subdirectories (entries : List (String × Node)) : List (String × List (String × Node)) :=
  let directories := entries.filterMap fun e =>
    match e.2 with
    | .directory inner => some (e.1, inner)
    | .file _ => none
  directories.mergeSort fun a b => decide (a.1 ≤ b.1)

/-- Discover the plugins in a directory; `node` is what its path leads to. -/
def discover (directory : String) (node : Option Node) : Result :=
  match node with
  | none => ⟨.ok [], [.directoryMissing directory]⟩
  | some (.file _) =>
    ⟨.error (fault directory
      ("failed to read plugins directory: " ++ FileError.notADirectory.message)), []⟩
  | some (.directory entries) =>
    visit ((subdirectories entries).map fun e => (Path.join directory e.1, e.2))

end Discovery

end PluginHost
