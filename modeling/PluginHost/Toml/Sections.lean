import PluginHost.Toml.Inline

/-! # Documents in sections

    The text of a whole table.  The values of a table come first, each on a
    line of its own; its tables and its arrays of tables follow as sections
    with a header that gives the path of keys.  A table that only holds other
    tables has no section of its own. -/

namespace PluginHost.Toml

/-! ## Sections -/

/-- The line that opens a section. -/
inductive Header where
  /-- The start of the document, which has no header. -/
  | root
  /-- The table at a path. -/
  | table (path : List String)
  /-- One more element of the array of tables at a path. -/
  | element (path : List String)
deriving DecidableEq, Repr

/-- A header and the values that stand under it. -/
structure Section where
  header : Header
  values : Entries Value

/-- Is the value a non-empty array of tables? -/
def Value.isTableArray : Value → Bool
  | .array items => !items.isEmpty && items.all (·.table?.isSome)
  | _ => false

/-- Is the value written as sections of its own? -/
def Value.isNested (v : Value) : Bool := v.table?.isSome || v.isTableArray

/-- The entries that stand under the header of their table. -/
def ownValues (entries : Entries Value) : Entries Value :=
  entries.filter fun e => !e.2.isNested

/-- Is there something to write for this table itself?  Elements of an array
    have to be there whatever they hold. -/
def needsHeader (entries : Entries Value) : Header → Bool
  | .root => false
  | .table _ => entries.all fun e => !e.2.isNested
  | .element _ => true

/-- The section of a table itself. -/
def ownSection (header : Header) (entries : Entries Value) : List Section :=
  let values := ownValues entries
  if values.isEmpty && !needsHeader entries header then [] else [⟨header, values⟩]

mutual

/-- The sections of a value at a path, none if it is no nested one. -/
def Value.sections (path : List String) : Value → List Section
  | .table entries => ownSection (.table path) entries ++ entriesSections path entries
  | .array items =>
    if (Value.array items).isTableArray then elementsSections path items else []
  | _ => []

/-- The sections of the elements of an array of tables. -/
def elementsSections (path : List String) : List Value → List Section
  | [] => []
  | .table entries :: rest =>
    ownSection (.element path) entries ++ entriesSections path entries
      ++ elementsSections path rest
  | _ :: rest => elementsSections path rest

/-- The sections of the nested entries of a table, in the order of keys. -/
def entriesSections (path : List String) : List (String × Value) → List Section
  | [] => []
  | (key, v) :: rest => v.sections (path ++ [key]) ++ entriesSections path rest

end

/-- The sections of a document. -/
def documentSections (entries : Entries Value) : List Section :=
  ownSection .root entries ++ entriesSections [] entries

/-! ## Text -/

/-- The header line. -/
def Header.chars : Header → List Char
  | .root => []
  | .table path => ['['] ++ pathChars path ++ [']', '\n']
  | .element path => ['[', '['] ++ pathChars path ++ [']', ']', '\n']

/-- A key and its value on a line. -/
def entryChars (e : String × Value) : List Char :=
  keyChars e.1 ++ [' ', '=', ' '] ++ e.2.chars .spread ++ ['\n']

/-- The header and the values, line by line. -/
def Section.chars (s : Section) : List Char := s.header.chars ++ s.values.flatMap entryChars

/-- Sections with an empty line between them. -/
def sectionsChars (sections : List Section) : List Char :=
  List.intercalate ['\n'] (sections.map Section.chars)

/-- The text of a document. -/
def documentText (entries : Entries Value) : String :=
  String.ofList (sectionsChars (documentSections entries))

end PluginHost.Toml
