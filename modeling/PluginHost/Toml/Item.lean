import PluginHost.Decimal.Binary64
import PluginHost.Table
import PluginHost.Toml.Datetime

/-! # Document trees

    What a document says, before any use is made of it: scalars, arrays and
    tables, with numbers that need not have a value, and with a mark on every
    table and array that tells how it came to be.  The marks decide which later lines
    may still add to it (`Item.addAt`). -/

namespace PluginHost.Toml

/-! ## Trees -/

/-- A value without parts.  A number may be written soundly and still have no
    value: an integer that needs more than 128 bits, or a floating point number
    out of range.  That is a fault only where the number is looked at. -/
inductive Scalar where
  | string (text : String)
  | integer (value : Option Int)
  | float (value : Option Decimal.Binary64)
  | boolean (value : Bool)
  | datetime (value : Datetime)
deriving DecidableEq, Inhabited

/-- How a table came to be. -/
inductive Origin where
  /-- It has a header line, is the document, or is an element of an array. -/
  | defined
  /-- It is named only on the way to another table's header. -/
  | implied
  /-- It is named on the way to a dotted key. -/
  | dotted
  /-- It stands in braces, and is complete. -/
  | inline
deriving DecidableEq, Repr, Inhabited

/-- A node of a document tree. -/
inductive Item where
  | scalar (value : Scalar)
  /-- An array.  One that grows was opened by a header line, and every further
      header line of its path adds an element. -/
  | array (growing : Bool) (items : List Item)
  | table (origin : Origin) (entries : List (String × Item))
deriving Inhabited

/-- A dotted key: the tables on the way, and the last key. -/
structure KeyPath where
  parents : List String
  last    : String
deriving DecidableEq, Repr

/-- All keys of the path. -/
def KeyPath.all (path : KeyPath) : List String := path.parents ++ [path.last]

/-! ## Adding to a tree -/

/-- How the tables on a path are reached. -/
inductive Approach where
  /-- By a header line, which may pass through every table but those in
      braces. -/
  | header
  /-- By a dotted key, which may not pass through tables with a header. -/
  | dottedKey
deriving DecidableEq, Repr

/-- The mark of a table that is made on the way. -/
def Approach.makes : Approach → Origin
  | .header => .implied
  | .dottedKey => .dotted

/-- May the path pass through a table of this origin? -/
def Approach.passes : Approach → Origin → Bool
  | _, .inline => false
  | .header, _ => true
  | .dottedKey, origin => origin != .defined

/-- A change to a table: its origin and its entries give its new entries. -/
abbrev Change := Origin → Entries Item → Option (Entries Item)

/-- Change the last element of a growing array. -/
def changeLast (change : Change) (items : List Item) : Option (List Item) :=
  match items.getLast? with
  | some (.table origin entries) => do
    let entries ← change origin entries
    pure (items.dropLast ++ [.table origin entries])
  | _ => none

/-- Change the table at the end of a path, making the tables that are missing
    on the way. -/
def changeAt (approach : Approach) (change : Change) : List String → Change
  | [], origin, entries => change origin entries
  | key :: rest, _, entries =>
    match entries.get? key with
    | none => do
      let made ← changeAt approach change rest approach.makes []
      pure (entries.insert key (.table approach.makes made))
    | some (.table origin inner) =>
      if approach.passes origin then do
        let inner ← changeAt approach change rest origin inner
        pure (entries.insert key (.table origin inner))
      else none
    | some (.array true items) => do
      let items ← changeLast (changeAt approach change rest) items
      pure (entries.insert key (.array true items))
    | some _ => none

/-- Put an item under a key that is not there yet. -/
def addNew (key : String) (item : Item) : Change := fun _ entries =>
  match entries.get? key with
  | none => some (entries.insert key item)
  | some _ => none

/-- Put an item under the last key of a dotted key.  The table that holds it
    must have been made by dotted keys as well. -/
def assign (path : KeyPath) (item : Item) : Change := fun origin entries =>
  if path.parents.isEmpty then addNew path.last item origin entries
  else
    changeAt .dottedKey
      (fun origin entries =>
        if origin == .dotted then addNew path.last item origin entries else none)
      path.parents origin entries

/-- Give a table its header: a table that is only implied so far becomes
    defined, and keeps its entries. -/
def defineTable (key : String) : Change := fun _ entries =>
  match entries.get? key with
  | none => some (entries.insert key (.table .defined []))
  | some (.table .implied inner) => some (entries.insert key (.table .defined inner))
  -- A second header for one table, or a header for what is no table.
  | some _ => none

/-- Add an empty element to an array of tables. -/
def appendElement (key : String) : Change := fun _ entries =>
  match entries.get? key with
  | none => some (entries.insert key (.array true [.table .defined []]))
  | some (.array true items) =>
    some (entries.insert key (.array true (items ++ [.table .defined []])))
  | some _ => none

/-- The table in braces that holds the pairs. -/
def Item.ofPairs (pairs : List (KeyPath × Item)) : Option Item := do
  let entries ← pairs.foldlM (fun entries pair => assign pair.1 pair.2 .inline entries) []
  pure (.table .inline entries)

/-! ## Documents -/

/-- A line of a document that says something. -/
inductive Statement where
  | assignment (path : KeyPath) (item : Item)
  | tableHeader (path : KeyPath)
  | elementHeader (path : KeyPath)

/-- A document in the making: its entries, and the path of the last header. -/
structure Draft where
  entries : Entries Item
  path    : List String

/-- Take one more statement into account. -/
def Draft.add (draft : Draft) : Statement → Option Draft
  | .assignment path item => do
    let entries ← changeAt .header (assign path item) draft.path .defined draft.entries
    pure { draft with entries }
  | .tableHeader path => do
    let entries ← changeAt .header (defineTable path.last) path.parents .defined draft.entries
    pure { entries, path := path.all }
  | .elementHeader path => do
    let entries ← changeAt .header (appendElement path.last) path.parents .defined draft.entries
    pure { entries, path := path.all }

/-- The entries that the statements make up. -/
def assemble (statements : List Statement) : Option (Entries Item) :=
  (statements.foldlM Draft.add { entries := [], path := [] }).map (·.entries)

end PluginHost.Toml
