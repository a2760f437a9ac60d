import PluginHost.Decimal.Binary64
import PluginHost.Table

/-! # JSON data

    The data that page contexts hold and that the registry is summarised in.
    Members of an object stand in the order in which they are written. -/

namespace PluginHost

/-- A JSON value.  A number is an integer or a floating point number, and an
    integer differs from the floating point number that is equal to it. -/
inductive Json where
  | null
  | bool (value : Bool)
  | integer (value : Int)
  | float (value : Decimal.Binary64)
  | string (value : String)
  | array (items : List Json)
  | object (members : List (String × Json))
deriving Inhabited

namespace Json

/-- An array of texts. -/
def strings (items : List String) : Json := .array (items.map .string)

/-- An object that lists a table in key order. -/
def ofTable {α : Type} (f : α → Json) (t : Table α) : Json :=
  .object (t.map f).entries

/-- A text, or null if there is none. -/
def optional : Option String → Json
  | none => .null
  | some s => .string s

end Json

end PluginHost
