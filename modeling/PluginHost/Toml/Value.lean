import PluginHost.Decimal.Binary64
import PluginHost.Table
import PluginHost.Toml.Datetime

/-! # TOML values

    The values of the configuration language.  The entries of a table value
    stand in the order of their keys (`Value.Ordered`); reading establishes
    this order and every operation on settings keeps it. -/

namespace PluginHost.Toml

/-- A value of the configuration language. -/
inductive Value where
  | string (text : String)
  | integer (value : Int64)
  | float (value : Decimal.Binary64)
  | boolean (value : Bool)
  | datetime (value : Datetime)
  | array (items : List Value)
  | table (entries : List (String × Value))
deriving Inhabited

namespace Value

/-! ## Views -/

/-- The text of a string value. -/
def string? : Value → Option String
  | .string s => some s
  | _ => none

/-- The items of an array value. -/
def array? : Value → Option (List Value)
  | .array items => some items
  | _ => none

/-- The entries of a table value. -/
def table? : Value → Option (Entries Value)
  | .table entries => some entries
  | _ => none

/-- A table as a value. -/
def ofTable (t : Table Value) : Value := .table t.entries

/-- A list of texts as a value. -/
def strings (items : List String) : Value := .array (items.map .string)

/-! ## Order of keys -/

mutual

/-- The keys of every table within the value ascend strictly. -/
def Ordered : Value → Prop
  | .array items => OrderedItems items
  | .table entries => Entries.Ordered entries ∧ OrderedEntries entries
  | _ => True

/-- Every item is ordered. -/
def OrderedItems : List Value → Prop
  | [] => True
  | v :: rest => Ordered v ∧ OrderedItems rest

/-- Every entry is ordered. -/
def OrderedEntries : List (String × Value) → Prop
  | [] => True
  | (_, v) :: rest => Ordered v ∧ OrderedEntries rest

end

/-! ## Equality -/

mutual

/-- Equality of content: floating point numbers compare as numbers. -/
def same : Value → Value → Bool
  | .string a, .string b => a == b
  | .integer a, .integer b => a == b
  | .float a, .float b => a.same b
  | .boolean a, .boolean b => a == b
  | .datetime a, .datetime b => a == b
  | .array a, .array b => sameItems a b
  | .table a, .table b => sameEntries a b
  | _, _ => false

/-- Item by item. -/
def sameItems : List Value → List Value → Bool
  | [], [] => true
  | a :: as, b :: bs => same a b && sameItems as bs
  | _, _ => false

/-- Entry by entry. -/
def sameEntries : List (String × Value) → List (String × Value) → Bool
  | [], [] => true
  | (k, a) :: as, (l, b) :: bs => k == l && same a b && sameEntries as bs
  | _, _ => false

end

end Value

/-- Settings by name: a table of the language on its own. -/
abbrev Settings := Table Value

end PluginHost.Toml
