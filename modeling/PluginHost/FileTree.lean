/-! # File trees

    Files and directories as a value.  A directory lists its entries in the
    order of a scan, which is any order.

    A path is a text with slashes.  It starts at the root if a slash comes first,
    and else in the working directory (`Path.start`), which is the root itself
    unless another one is given.  Its names are followed one by one
    (`Node.locate`), so that every name before the last has to be a directory,
    also where a point or two points come next; above the root is the root.
    Directories are made on the way to the last one (`Node.makeDirectories`), as
    far as they are missing. -/

namespace PluginHost

/-- A file or a directory. -/
inductive Node where
  | file (content : ByteArray)
  | directory (entries : List (String × Node))
deriving Inhabited

/-! ## Faults -/

/-- Why a file or directory cannot be used. -/
inductive FileError where
  | notFound
  | alreadyExists
  | notADirectory
  | isADirectory
  | notText
deriving DecidableEq, Repr

/-- The message for a fault. -/
def FileError.message : FileError → String
  | .notFound => "No such file or directory (os error 2)"
  | .alreadyExists => "File exists (os error 17)"
  | .notADirectory => "Not a directory (os error 20)"
  | .isADirectory => "Is a directory (os error 21)"
  | .notText => "stream did not contain valid UTF-8"

/-! ## Paths -/

namespace Path

/-- Does the path start at the root of the file system? -/
def isAbsolute (path : String) : Bool := path.toList.head? == some '/'

/-- The place where a path starts, from a working directory. -/
def start (cwd : List String) (path : String) : List String :=
  if isAbsolute path then [] else cwd

/-- Does the path end with a slash? -/
def endsWithSlash (path : String) : Bool := path.toList.getLast? == some '/'

/-- The path of something within a directory. -/
def join (directory name : String) : String :=
  if isAbsolute name || directory.isEmpty then name
  else if endsWithSlash directory then directory ++ name
  else directory ++ "/" ++ name

/-- The pieces between slashes; `piece` is the one that is read so far, in
    reverse. -/
def pieces (piece : List Char) : List Char → List (List Char)
  | [] => [piece.reverse]
  | c :: rest => if c = '/' then piece.reverse :: pieces [] rest else pieces (c :: piece) rest

/-- The names that stand between the slashes of a path. -/
def names (path : String) : List String :=
  ((pieces [] path.toList).filter (!·.isEmpty)).map String.ofList

/-- The names that are followed along a path.  A slash at the end asks for a
    directory, as a point does. -/
def components (path : String) : List String :=
  names path ++ if path.isEmpty || endsWithSlash path then ["."] else []

/-- Does a name stand for a directory that has another name as well? -/
def isDetour (name : String) : Bool := name == "." || name == ".."

/-- The names of what a path stands in.  A point is no step of its own. -/
def parent (names : List String) : List String := (names.filter (· != ".")).dropLast

theorem length_parent_lt {names : List String} (h : names ≠ []) :
    (parent names).length < names.length := by
  have hfilter := List.length_filter_le (· != ".") names
  have hpos := List.length_pos_iff.2 h
  simp only [parent, List.length_dropLast]
  omega

end Path

namespace Node

/-! ## Places -/

/-- The entry of a name. -/
def child? (name : String) : List (String × Node) → Option Node
  | [] => none
  | (n, node) :: rest => if n = name then some node else child? name rest

/-- The entries with one put in, at its place if it is there already. -/
def setEntry (name : String) (node : Node) : List (String × Node) → List (String × Node)
  | [] => [(name, node)]
  | (n, old) :: rest =>
    if n = name then (name, node) :: rest else (n, old) :: setEntry name node rest

/-- What stands at a place, which is given by the names from the root. -/
def get? : Node → List String → Option Node
  | node, [] => some node
  | .file _, _ :: _ => none
  | .directory entries, name :: rest => do (← child? name entries).get? rest

/-- The tree with something else at a place. -/
def setAt : Node → List String → Node → Node
  | _, [], new => new
  | .file content, _ :: _, _ => .file content
  | .directory entries, name :: rest, new =>
    let child := (child? name entries).getD (.directory [])
    .directory (setEntry name (child.setAt rest new) entries)

/-- The entries of the directory at a place. -/
def entriesAt (tree : Node) (place : List String) : Except FileError (List (String × Node)) :=
  match tree.get? place with
  | some (.directory entries) => .ok entries
  | some (.file _) => .error .notADirectory
  | none => .error .notFound

/-! ## Following paths -/

/-- Go on from a place by one name. -/
def step (tree : Node) (place : List String) (name : String) : Except FileError (List String) := do
  let entries ← tree.entriesAt place
  if name = "." then .ok place
  else if name = ".." then .ok place.dropLast
  else if (child? name entries).isSome then .ok (place ++ [name])
  else .error .notFound

/-- The place that names lead to from another one. -/
def locate (tree : Node) (names : List String) (start : List String := []) :
    Except FileError (List String) :=
  names.foldlM tree.step start

/-- What a path leads to from a working directory. -/
def find? (tree : Node) (path : String) (cwd : List String := []) : Option Node :=
  if path.isEmpty then none
  else
    match tree.locate (Path.components path) (Path.start cwd path) with
    | .ok place => tree.get? place
    | .error _ => none

/-- Do the names lead to a directory? -/
def isDirectory (tree : Node) (names : List String) (start : List String := []) : Bool :=
  match tree.locate names start with
  | .ok place => (tree.entriesAt place).isOk
  | .error _ => false

/-- The text of a file. -/
def readText : Node → Except FileError String
  | .directory _ => .error .isADirectory
  | .file content =>
    match String.fromUTF8? content with
    | some text => .ok text
    | none => .error .notText

/-! ## Making directories -/

/-- Make a directory in one that is there. -/
def makeDirectory (tree : Node) (names : List String) (start : List String := []) :
    Except FileError Node :=
  match names.getLast? with
  | none => .error .notFound
  | some last => do
    let place ← tree.locate names.dropLast start
    let entries ← tree.entriesAt place
    if Path.isDetour last || (child? last entries).isSome then .error .alreadyExists
    else .ok (tree.setAt (place ++ [last]) (.directory []))

/-- Make a directory unless there is one already. -/
def ensureDirectory (tree : Node) (names : List String) (start : List String := []) :
    Except FileError Node :=
  match tree.makeDirectory names start with
  | .ok tree => .ok tree
  | .error e => if tree.isDirectory names start then .ok tree else .error e

/-- Make a directory and those above it, where they are missing. -/
def makeDirectories (tree : Node) (names : List String) (start : List String := []) :
    Except FileError Node :=
  if _h : names = [] then .ok tree
  else
    match tree.ensureDirectory names start with
    | .error .notFound =>
      match tree.makeDirectories (Path.parent names) start with
      | .ok tree => tree.ensureDirectory names start
      | .error e => .error e
    | result => result
termination_by names.length
decreasing_by exact Path.length_parent_lt ‹_›

/-! ## Writing files -/

/-- Write a file into a directory that is there.  A path with a slash at its
    end cannot name a file, and neither can the root's. -/
def writeFile (tree : Node) (path : String) (content : ByteArray) (cwd : List String := []) :
    Except FileError Node :=
  match (Path.names path).getLast? with
  | none => .error (if Path.isAbsolute path then .isADirectory else .notFound)
  | some last => do
    let place ← tree.locate (Path.names path).dropLast (Path.start cwd path)
    let entries ← tree.entriesAt place
    if Path.endsWithSlash path || Path.isDetour last then .error .isADirectory
    else
      match child? last entries with
      | some (.directory _) => .error .isADirectory
      | _ => .ok (tree.setAt (place ++ [last]) (.file content))

/-- Write a file, making the directories above it. -/
def write (tree : Node) (path : String) (content : ByteArray) (cwd : List String := []) :
    Except FileError Node := do
  let made ← tree.makeDirectories (Path.parent (Path.names path)) (Path.start cwd path)
  made.writeFile path content cwd

end Node

end PluginHost
