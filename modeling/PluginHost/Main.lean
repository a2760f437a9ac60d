import PluginHost.Program

/-! # The executable

    Reads the files that a run needs, lets `Program` decide what happens, and
    prints the outcome. -/

namespace PluginHost

/-- Does the path lead to a directory? -/
def isDirectoryOnDisk (path : String) : IO Bool :=
  ({ root := path, fileName := "" } : IO.FS.DirEntry).root.isDir

/-- Does the path lead anywhere? -/
def existsOnDisk (path : String) : IO Bool :=
  ({ root := path, fileName := "" } : IO.FS.DirEntry).root.pathExists

/-- The file that a path leads to, a directory without its entries. -/
def nodeOnDisk (path : String) : IO (Option Node) := do
  if ← isDirectoryOnDisk path then return some (.directory [])
  if ← existsOnDisk path then return some (.file (← IO.FS.readBinFile path))
  return none

/-- A directory of plugins: its sub-directories with their manifests. -/
def pluginsOnDisk (path : String) : IO (Option Node) := do
  if !(← isDirectoryOnDisk path) then return ← nodeOnDisk path
  let found ← ({ root := path, fileName := "" } : IO.FS.DirEntry).root.readDir
  let mut entries := []
  for entry in found do
    let directory := Path.join path entry.fileName
    if ← isDirectoryOnDisk directory then
      let manifest ← nodeOnDisk (Path.join directory manifestFile)
      entries := (entry.fileName, .directory (manifest.map (manifestFile, ·)).toList) :: entries
  return some (.directory entries)

/-- Make the directory of the log. -/
def makeLogDirectory (config : HostConfig) : IO (Except FileError Unit) := do
  match config.logDir with
  | none => return .ok ()
  | some directory =>
    try
      IO.FS.createDirAll directory
      return .ok ()
    catch
      | .noFileOrDirectory .. => return .error .notFound
      | .alreadyExists .. => return .error .alreadyExists
      | _ => return .error .notADirectory

/-- Run an invocation on the files of this machine. -/
def runOnDisk (home : String) (invocation : Invocation) : IO Outcome := do
  let path := Program.configPath invocation home
  match HostConfig.load path (← nodeOnDisk path) with
  | .error e => return Program.failed e.message (some e.cause)
  | .ok config =>
    match ← makeLogDirectory config with
    | .error e => return Program.logFailure config e
    | .ok () =>
      let directory := Program.pluginsDirectory invocation config home
      let outcome :=
        Program.discoverAndExecute config directory (← pluginsOnDisk directory)
          invocation.command
      return { outcome with logDir := config.logDir }

/-- Append lines to a file. -/
def appendLines (path : String) (lines : List String) : IO Unit := do
  let file ← IO.FS.Handle.mk path .append
  lines.forM file.putStrLn

/-- Print an outcome and write its log. -/
def Outcome.emit (outcome : Outcome) (threshold : Threshold) : IO UInt32 := do
  let lines := (outcome.log.filter (·.isKept threshold)).map (·.printedLine)
  match outcome.logDir with
  | some directory => appendLines (Path.join directory "nbplugins.log") lines
  | none => lines.forM IO.eprintln
  IO.print outcome.stdout
  if !outcome.stderr.isEmpty then IO.eprintln outcome.stderr
  return outcome.exitCode

end PluginHost

open PluginHost in
/-- Run the program with its arguments. -/
def main (arguments : List String) : IO UInt32 := do
  let home := (← IO.getEnv "HOME").getD ""
  let threshold := Threshold.ofSetting (← IO.getEnv "RUST_LOG")
  match CommandLine.parse arguments with
  | .error e => (Program.usageFailure e).emit threshold
  | .ok .usage => Outcome.emit { stdout := usageText } threshold
  | .ok (.run invocation) => (← runOnDisk home invocation).emit threshold
