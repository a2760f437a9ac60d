import PluginHost.Decimal.Shortest
import PluginHost.Toml.Quoting
import PluginHost.Toml.Value

/-! # The text of a value

    A value as it stands after a key.  `Value.text` keeps everything on one
    line but for strings of several lines.  The spread layout, which documents
    use, gives each item of an array a line of its own if there are at least
    two. -/

namespace PluginHost.Toml

/-! ## Leaves -/

/-- How the language spells numbers without digits. -/
def floatSpelling : Decimal.Spelling := ⟨"nan", "inf"⟩

/-- An integer in decimal digits. -/
def integerChars (n : Int) : List Char :=
  if n < 0 then '-' :: Decimal.digits n.natAbs else Decimal.digits n.natAbs

/-- A truth value. -/
def booleanChars (b : Bool) : List Char := (if b then "true" else "false").toList

/-! ## Collections -/

/-- The layouts of arrays. -/
inductive Layout where
  /-- All items on one line. -/
  | compact
  /-- Two items or more on lines of their own. -/
  | spread
deriving DecidableEq, Repr

/-- Written items between brackets. -/
def arrayChars (layout : Layout) (items : List (List Char)) : List Char :=
  if layout == .spread && 2 ≤ items.length then
    ['[', '\n'] ++ items.flatMap (fun item => "    ".toList ++ item ++ [',', '\n']) ++ [']']
  else ['['] ++ List.intercalate [',', ' '] items ++ [']']

/-- Written entries between braces. -/
def inlineTableChars (entries : List (List Char)) : List Char :=
  if entries.isEmpty then ['\x7b', '\x7d']
  else ['\x7b', ' '] ++ List.intercalate [',', ' '] entries ++ [' ', '\x7d']

/-! ## Values -/

mutual

/-- The text of a value in a layout. -/
def Value.chars (layout : Layout) : Value → List Char
  | .string s => stringChars s
  | .integer n => integerChars n.toInt
  | .float x => Decimal.positional floatSpelling x
  | .boolean b => booleanChars b
  | .datetime d => d.chars
  | .array items => arrayChars layout (itemsChars layout items)
  | .table entries => inlineTableChars (entriesChars layout entries)

/-- The text of each item. -/
def itemsChars (layout : Layout) : List Value → List (List Char)
  | [] => []
  | v :: rest => v.chars layout :: itemsChars layout rest

/-- The text of each entry. -/
def entriesChars (layout : Layout) : List (String × Value) → List (List Char)
  | [] => []
  | (key, v) :: rest =>
    (keyChars key ++ [' ', '=', ' '] ++ v.chars layout) :: entriesChars layout rest

end

/-- The text of a value. -/
def Value.text (v : Value) : String := String.ofList (v.chars .compact)

end PluginHost.Toml
