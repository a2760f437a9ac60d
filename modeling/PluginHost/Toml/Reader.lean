import PluginHost.Toml.Quoting
import PluginHost.Toml.Scalar
import PluginHost.Toml.StringReader

/-! # Reading documents

    `readDocument` reads the text of a document into its tree, or refuses it.
    Statements stand on lines of their own.  Arrays and tables in braces may
    span lines, hold comments and end with a comma.  They nest to a fixed depth
    (`nestingLimit`), which bounds the recursion of `readValue`; a path of keys
    is no longer than that, which bounds the recursion of `readMoreKeys`. -/

namespace PluginHost.Toml

/-! ## Blanks, comments and line ends -/

/-- A blank within a line. -/
def isBlankInLine (c : Char) : Bool := c == ' ' || c == '\t'

/-- Leave out blanks within the line. -/
def skipBlanks (l : List Char) : List Char := l.dropWhile isBlankInLine

/-- Leave out blanks, line ends and comments; `comment` tells whether the text
    starts within a comment. -/
def skipTrivia (comment : Bool) : List Char → List Char
  | [] => []
  | c :: rest =>
    if c = '\n' then skipTrivia false rest
    else if c = '\r' then
      match rest with
      | '\n' :: more => skipTrivia false more
      | _ => c :: rest
    else if comment then if isTextChar c then skipTrivia true rest else c :: rest
    else if isBlankInLine c then skipTrivia false rest
    else if c = '#' then skipTrivia true rest
    else c :: rest

/-- Pass the end of a line, which blanks and a comment may precede. -/
def passLineEnd (l : List Char) : Option (List Char) :=
  let l := match skipBlanks l with
    | '#' :: rest => rest.dropWhile isTextChar
    | l => l
  match l with
  | [] => some []
  | '\n' :: rest => some rest
  | '\r' :: '\n' :: rest => some rest
  | _ => none

/-! ## Keys -/

/-- How deep arrays and tables in braces may nest, and how many keys a path
    may have. -/
def nestingLimit : Nat := 80

/-- Read a key: without quotes, or as a string on one line. -/
def readKey : List Char → Option (String × List Char)
  | '"' :: rest => readBasic [] rest
  | '\'' :: rest => readLiteral [] rest
  | l =>
    let key := l.takeWhile isBareKeyChar
    if key.isEmpty then none else some (String.ofList key, l.dropWhile isBareKeyChar)

/-- Read the keys of a path after its first one, which are `more` at most. -/
def readMoreKeys (parents : List String) (last : String) :
    (more : Nat) → List Char → Option (KeyPath × List Char)
  | 0, l =>
    match skipBlanks l with
    | '.' :: _ => none
    | rest => some (⟨parents, last⟩, rest)
  | more + 1, l =>
    match skipBlanks l with
    | '.' :: rest => do
      let (key, rest) ← readKey (skipBlanks rest)
      readMoreKeys (parents ++ [last]) key more rest
    | rest => some (⟨parents, last⟩, rest)

/-- Read a path of keys, and the blanks after it. -/
def readKeyPath (l : List Char) : Option (KeyPath × List Char) := do
  let (key, rest) ← readKey l
  readMoreKeys [] key (nestingLimit - 1) rest

/-! ## Values -/

/-- How a reader of one value looks. -/
abbrev ValueReader := List Char → Option (Item × List Char)

/-- Read on to the end of an array.  Each step takes a character at least. -/
def readItems (readItem : ValueReader) (items : List Item) : Nat → ValueReader
  | 0, _ => none
  | steps + 1, l =>
    match skipTrivia false l with
    | ']' :: rest => some (.array false items, rest)
    | l => do
      let (item, l) ← readItem l
      match skipTrivia false l with
      | ',' :: rest => readItems readItem (items ++ [item]) steps rest
      | ']' :: rest => some (.array false (items ++ [item]), rest)
      | _ => none

/-- Read on to the end of a table in braces.  Each step takes a character at
    least. -/
def readPairs (readItem : ValueReader) (pairs : List (KeyPath × Item)) : Nat → ValueReader
  | 0, _ => none
  | steps + 1, l =>
    match skipTrivia false l with
    | '\x7d' :: rest => (Item.ofPairs pairs).map (·, rest)
    | l => do
      let (path, l) ← readKeyPath l
      match skipTrivia false l with
      | '=' :: rest =>
        let (item, l) ← readItem (skipTrivia false rest)
        match skipTrivia false l with
        | ',' :: rest => readPairs readItem (pairs ++ [(path, item)]) steps rest
        | '\x7d' :: rest => (Item.ofPairs (pairs ++ [(path, item)])).map (·, rest)
        | _ => none
      | _ => none

/-- Read a string or a scalar without quotes. -/
def readScalar (l : List Char) : Option (Item × List Char) :=
  match readQuoted? l with
  | some result => result.map fun (text, rest) => (.scalar (.string text), rest)
  | none => (readBare l).map fun (value, rest) => (.scalar value, rest)

/-- Read a value in which arrays and tables nest no deeper than `depth`. -/
def readValue : (depth : Nat) → ValueReader
  | 0, l =>
    match l with
    | '[' :: _ => none
    | '\x7b' :: _ => none
    | l => readScalar l
  | depth + 1, l =>
    match l with
    | '[' :: rest => readItems (readValue depth) [] (rest.length + 1) rest
    | '\x7b' :: rest => readPairs (readValue depth) [] (rest.length + 1) rest
    | l => readScalar l

/-! ## Statements -/

/-- Read a header, or a key and its value. -/
def readStatement : List Char → Option (Statement × List Char)
  | '[' :: '[' :: rest => do
    let (path, rest) ← readKeyPath (skipBlanks rest)
    match rest with
    | ']' :: ']' :: rest => pure (.elementHeader path, rest)
    | _ => none
  | '[' :: rest => do
    let (path, rest) ← readKeyPath (skipBlanks rest)
    match rest with
    | ']' :: rest => pure (.tableHeader path, rest)
    | _ => none
  | l => do
    let (path, rest) ← readKeyPath l
    match rest with
    | '=' :: rest =>
      let (item, rest) ← readValue nestingLimit (skipBlanks rest)
      pure (.assignment path item, rest)
    | _ => none

/-- Read statements to the end.  Each step takes a character at least. -/
def readStatements : Nat → List Char → Option (List Statement)
  | 0, _ => none
  | steps + 1, l =>
    match skipTrivia false l with
    | [] => some []
    | l => do
      let (statement, rest) ← readStatement l
      let rest ← passLineEnd rest
      let later ← readStatements steps rest
      pure (statement :: later)

/-! ## Documents -/

/-- The text without a byte order mark in front. -/
def dropByteOrderMark : List Char → List Char
  | '\ufeff' :: rest => rest
  | l => l

/-- The entries of the document whose text this is. -/
def readDocument (text : String) : Option (Entries Item) := do
  let l := dropByteOrderMark text.toList
  let statements ← readStatements (l.length + 1) l
  assemble statements

end PluginHost.Toml
