import PluginHost.Decimal.Shortest
import PluginHost.Text.Quoted
import PluginHost.Toml.Reader
import PluginHost.Toml.Value

/-! # Decoding documents

    Turning a document tree into data of a given shape.  The entries of a
    table are visited in the order of their keys, and the first fault wins; a
    missing field is a fault only when all entries are sound.  Entries that no
    field names are left out.

    A record may also be written as an array of its fields.  A date-time, seen
    as a table, has one entry with a reserved key that holds its text. -/

namespace PluginHost.Toml

/-! ## Faults -/

/-- What stands where something else was expected. -/
inductive Found where
  | integer (value : Int)
  | float (value : Decimal.Binary64)
  | boolean (value : Bool)
  | string (text : String)
  | sequence
  | map
deriving DecidableEq, Inhabited

/-- How messages spell numbers without digits. -/
def messageSpelling : Decimal.Spelling := ⟨"NaN", "inf"⟩

/-- An integer in messages. -/
def integerText (n : Int) : String := (if n < 0 then "-" else "") ++ Decimal.text n.natAbs

/-- The integers that fit in 64 bits with a sign. -/
def fits64 (n : Int) : Bool := -Nat.pow 2 63 ≤ n && n < Nat.pow 2 63

/-- The integers that fit in 64 bits with or without a sign. -/
def fitsWord (n : Int) : Bool := -Nat.pow 2 63 ≤ n && n < Nat.pow 2 64

/-- What messages add to an integer that is wider than 64 bits. -/
def widthText (n : Int) : String :=
  if fitsWord n then "" else if n < Nat.pow 2 127 then " as i128" else " as u128"

/-- How messages name what was found. -/
def Found.text : Found → String
  | .integer n => "integer `" ++ integerText n ++ "`" ++ widthText n
  | .float x => "floating point `" ++ String.ofList (Decimal.positional messageSpelling x) ++ "`"
  | .boolean b => "boolean `" ++ (if b then "true" else "false") ++ "`"
  | .string s => "string " ++ Text.quoted s
  | .sequence => "sequence"
  | .map => "map"

/-- Why a document does not have the expected shape. -/
inductive ShapeError where
  | missingField (field : String)
  | invalidType (found : Found) (expected : String)
  | invalidValue (found : Int) (expected : String)
  | invalidLength (length : Nat) (expected : String)
  /-- None of the alternatives of a type fits. -/
  | noAlternative (type : String)
  /-- An integer without a value. -/
  | integerOverflow
  /-- A floating point number without a value. -/
  | floatOverflow
  /-- An integer of 64 bits that does not fit with a sign. -/
  | integerTooLarge
  /-- A reserved key with a text that is no date-time. -/
  | invalidDatetime
deriving DecidableEq, Inhabited

/-- The message for a fault. -/
def ShapeError.message : ShapeError → String
  | .missingField field => "missing field `" ++ field ++ "`"
  | .invalidType found expected => "invalid type: " ++ found.text ++ ", expected " ++ expected
  | .invalidValue found expected =>
    "invalid value: integer `" ++ integerText found ++ "`, expected " ++ expected
  | .invalidLength length expected =>
    "invalid length " ++ Decimal.text length ++ ", expected " ++ expected
  | .noAlternative type => "data did not match any variant of untagged enum " ++ type
  | .integerOverflow => "integer number overflowed"
  | .floatOverflow => "floating-point number overflowed"
  | .integerTooLarge => "u64 value was too large"
  | .invalidDatetime => "invalid datetime"

/-! ## Views of items -/

/-- The key of the one entry that a date-time has as a table. -/
def datetimeKey : String := "$__toml_private_datetime"

/-- The text of a date-time as an item. -/
def datetimeItem (d : Datetime) : Item := .scalar (.string (String.ofList d.chars))

/-- The entries of an item that is a table, or can be seen as one. -/
def Item.entries? : Item → Option (Entries Item)
  | .table _ entries => some entries
  | .scalar (.datetime d) => some [(datetimeKey, datetimeItem d)]
  | _ => none

/-- The fault of an item that stands where `expected` should stand.  A number
    without a value is a fault of its own. -/
def Item.mismatch (expected : String) : Item → ShapeError
  | .scalar (.integer none) => .integerOverflow
  | .scalar (.float none) => .floatOverflow
  | .scalar (.integer (some n)) => .invalidType (.integer n) expected
  | .scalar (.float (some x)) => .invalidType (.float x) expected
  | .scalar (.string s) => .invalidType (.string s) expected
  | .scalar (.boolean b) => .invalidType (.boolean b) expected
  | .scalar (.datetime _) => .invalidType .map expected
  | .array _ _ => .invalidType .sequence expected
  | .table _ _ => .invalidType .map expected

/-! ## Looking through items -/

mutual

/-- Look at all parts of an item, which is called `expected` in messages.  All
    numbers must have a value, and integers must satisfy `p`. -/
def Item.check (p : Int → Bool) (expected : String) : Item → Except ShapeError Unit
  | .scalar (.integer none) => .error .integerOverflow
  | .scalar (.float none) => .error .floatOverflow
  | .scalar (.integer (some n)) =>
    if p n then .ok () else .error (.invalidType (.integer n) expected)
  | .scalar _ => .ok ()
  | .array _ items => checkItems p expected items
  | .table _ entries => checkEntries p expected entries

/-- Look at all parts of items. -/
def checkItems (p : Int → Bool) (expected : String) : List Item → Except ShapeError Unit
  | [] => .ok ()
  | item :: rest => do
    item.check p expected
    checkItems p expected rest

/-- Look at all parts of entries. -/
def checkEntries (p : Int → Bool) (expected : String) :
    List (String × Item) → Except ShapeError Unit
  | [] => .ok ()
  | (_, item) :: rest => do
    item.check p expected
    checkEntries p expected rest

end

/-- Look at an item that is not kept: integers may be of any size. -/
def Item.ignore (item : Item) : Except ShapeError Unit := item.check (fun _ => true) "anything"

/-! ## Decoders -/

/-- How an item is decoded. -/
abbrev Decoder (α : Type) := Item → Except ShapeError α

/-- A string, called `expected` in messages. -/
def Decoder.text (expected : String) : Decoder String
  | .scalar (.string s) => .ok s
  | item => .error (item.mismatch expected)

/-- A string. -/
def Decoder.string : Decoder String := Decoder.text "a string"

/-- The text of a path. -/
def Decoder.path : Decoder String := Decoder.text "path string"

/-- An integer of 32 bits without a sign. -/
def Decoder.word32 : Decoder Nat
  | .scalar (.integer (some n)) =>
    if 0 ≤ n ∧ n < Nat.pow 2 32 then .ok n.toNat
    else if fitsWord n then .error (.invalidValue n "u32")
    else .error (.invalidType (.integer n) "u32")
  | item => .error (item.mismatch "u32")

/-- An array of items that are decoded alike. -/
def Decoder.list {α : Type} (element : Decoder α) : Decoder (List α)
  | .array _ items => items.mapM element
  | item => .error (item.mismatch "a sequence")

/-- A pair as an array of two; items beyond do not count. -/
def Decoder.pair {α β : Type} (first : Decoder α) (second : Decoder β) : Decoder (α × β)
  | .array _ items => do
    match items with
    | [] => .error (.invalidLength 0 "a tuple of size 2")
    | x :: rest =>
      let a ← first x
      match rest with
      | [] => .error (.invalidLength 1 "a tuple of size 2")
      | y :: _ => pure (a, ← second y)
  | item => .error (item.mismatch "a tuple of size 2")

/-- Entries that are decoded alike, in the order of their keys. -/
def decodeEntries {α : Type} (element : Decoder α) (entries : Entries Item) :
    Except ShapeError (Table α) := do
  let pairs ← entries.mapM fun e => do pure (e.1, ← element e.2)
  pure (Table.ofList pairs)

/-- A table whose entries are decoded alike. -/
def Decoder.table {α : Type} (element : Decoder α) : Decoder (Table α) := fun item =>
  match item.entries? with
  | some entries => decodeEntries element entries
  | none => .error (item.mismatch "a map")

/-! ## Values -/

/-- The date-time that a table with the reserved key stands for. -/
def reservedDatetime : Item → Except ShapeError Value
  | .scalar (.string s) =>
    match Datetime.parse s.toList with
    | some d => .ok (.datetime d)
    | none => .error .invalidDatetime
  | item => .error (item.mismatch "string containing a datetime")

/-- The value of an integer, which must fit in 64 bits with a sign. -/
def Value.ofInt (n : Int) : Except ShapeError Value :=
  if fits64 n then .ok (.integer (Int64.ofInt n))
  else if fitsWord n then .error .integerTooLarge
  else .error (.invalidType (.integer n) "any valid TOML value")

mutual

/-- Any value. -/
def Value.ofItem : Item → Except ShapeError Value
  | .scalar (.string s) => .ok (.string s)
  | .scalar (.integer none) => .error .integerOverflow
  | .scalar (.integer (some n)) => Value.ofInt n
  | .scalar (.float none) => .error .floatOverflow
  | .scalar (.float (some x)) => .ok (.float x)
  | .scalar (.boolean b) => .ok (.boolean b)
  | .scalar (.datetime d) => .ok (.datetime d)
  | .array _ items => do pure (.array (← Value.ofItems items))
  | .table _ entries =>
    match entries with
    | [] => .ok (.table [])
    | (key, item) :: rest =>
      if key = datetimeKey then reservedDatetime item
      else do
        let v ← Value.ofItem item
        pure (.table ((key, v) :: (← Value.ofEntries rest)))

/-- The values of items. -/
def Value.ofItems : List Item → Except ShapeError (List Value)
  | [] => .ok []
  | item :: rest => do
    let v ← Value.ofItem item
    pure (v :: (← Value.ofItems rest))

/-- The values of entries. -/
def Value.ofEntries : List (String × Item) → Except ShapeError (List (String × Value))
  | [] => .ok []
  | (key, item) :: rest => do
    let v ← Value.ofItem item
    pure ((key, v) :: (← Value.ofEntries rest))

end

/-- Any value. -/
def Decoder.value : Decoder Value := Value.ofItem

/-- Settings: a table of any values. -/
def Decoder.settings : Decoder Settings := Decoder.table Decoder.value

/-! ## Records -/

/-- A field of a record: how its item changes the record. -/
structure Field (α : Type) where
  name     : String
  required : Bool
  read     : Item → α → Except ShapeError α

/-- A field that must be there. -/
def Field.needed {α β : Type} (name : String) (decode : Decoder β) (set : β → α → α) : Field α :=
  { name, required := true, read := fun item a => do pure (set (← decode item) a) }

/-- A field that may be left out. -/
def Field.optional {α β : Type} (name : String) (decode : Decoder β) (set : β → α → α) :
    Field α :=
  { name, required := false, read := fun item a => do pure (set (← decode item) a) }

/-- The shape of a record: its name in messages, its fields in the order of an
    array, and the record before any field is read. -/
structure Shape (α : Type) where
  name   : String
  fields : List (Field α)
  blank  : α

namespace Shape

variable {α : Type}

/-- Take one entry of a table into account. -/
def readEntry (shape : Shape α) (a : α) (e : String × Item) : Except ShapeError α :=
  match shape.fields.find? (·.name == e.1) with
  | some field => field.read e.2 a
  | none => e.2.ignore.map fun _ => a

/-- The record that a table is. -/
def ofEntries (shape : Shape α) (entries : Entries Item) : Except ShapeError α := do
  let a ← entries.foldlM shape.readEntry shape.blank
  match shape.fields.find? fun field => field.required && (entries.get? field.name).isNone with
  | some field => .error (.missingField field.name)
  | none => pure a

/-- How messages describe the array form. -/
def arrayForm (shape : Shape α) : String :=
  "struct " ++ shape.name ++ " with " ++ Decimal.text shape.fields.length ++ " elements"

/-- Read the fields from `position` on out of the items of an array. -/
def readFields (shape : Shape α) (position : Nat) :
    List (Field α) → List Item → α → Except ShapeError α
  | [], _, a => .ok a
  | field :: fields, [], a =>
    if field.required then .error (.invalidLength position shape.arrayForm)
    else shape.readFields (position + 1) fields [] a
  | field :: fields, item :: items, a => do
    let a ← field.read item a
    shape.readFields (position + 1) fields items a

/-- The record that an array is. -/
def ofItems (shape : Shape α) (items : List Item) : Except ShapeError α :=
  shape.readFields 0 shape.fields items shape.blank

/-- The record that an item is. -/
def decode (shape : Shape α) : Decoder α
  | .array _ items => shape.ofItems items
  | item =>
    match item.entries? with
    | some entries => shape.ofEntries entries
    | none => .error (item.mismatch ("struct " ++ shape.name))

end Shape

/-! ## Reading data -/

/-- Why a text does not hold the expected data. -/
inductive ReadError where
  /-- It is no document, or holds something that no value can hold. -/
  | malformed
  /-- It is a document of another shape. -/
  | shape (error : ShapeError)
deriving DecidableEq, Inhabited

/-- The message for a failed reading. -/
def ReadError.message : ReadError → String
  | .malformed => "TOML parse error"
  | .shape e => "TOML parse error: " ++ e.message

/-- Read a document and decode its entries.  What does not decode is a matter
    of shape only if the document can be taken as plain values at all. -/
def readAs {α : Type} (decode : Entries Item → Except ShapeError α) (text : String) :
    Except ReadError α :=
  match readDocument text with
  | none => .error .malformed
  | some entries =>
    match decode entries with
    | .ok a => .ok a
    | .error e =>
      -- A number without a value may hide behind an earlier fault of shape.
      match Value.ofEntries entries with
      | .ok _ => .error (.shape e)
      | .error _ => .error .malformed

end PluginHost.Toml
