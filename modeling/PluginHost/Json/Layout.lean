import PluginHost.Decimal.Shortest
import PluginHost.Json.Basic

/-! # The text of JSON data

    Two layouts: compact, on one line without blanks, and indented, with one
    item or member per line and two blanks per level. -/

namespace PluginHost.Json

/-! ## Leaves -/

/-- A character between quotes: a short escape where there is one, the code
    point for the other controls, everything else as it is. -/
def escapeChar (c : Char) : List Char :=
  if c = '"' then ['\\', '"']
  else if c = '\\' then ['\\', '\\']
  else if c = '\x08' then ['\\', 'b']
  else if c = '\x0c' then ['\\', 'f']
  else if c = '\n' then ['\\', 'n']
  else if c = '\r' then ['\\', 'r']
  else if c = '\t' then ['\\', 't']
  else if c.toNat < 0x20 then
    ['\\', 'u', '0', '0', Nat.digitChar (c.toNat / 16), Nat.digitChar (c.toNat % 16)]
  else [c]

/-- A text between quotes. -/
def quote (s : String) : String :=
  String.ofList (['"'] ++ s.toList.flatMap escapeChar ++ ['"'])

/-- An integer in decimal digits. -/
def integerText (n : Int) : String :=
  if n < 0 then "-" ++ Decimal.text n.natAbs else Decimal.text n.natAbs

/-- The digits of a floating point number without its sign: positional when
    the first digit stands for a power of ten from -5 to 15, else with the
    power of ten behind. -/
def magnitudeText (x : Decimal.Binary64) : List Char :=
  if x.magnitude = 0 then ['0', '.', '0']
  else
    let s := Decimal.shortest x
    if -5 ≤ s.order ∧ s.order ≤ 15 then s.positional else s.exponential

/-- A floating point number; one that is not finite has no text but `null`. -/
def floatText (x : Decimal.Binary64) : String :=
  if x.isFinite then (if x.isNegative then "-" else "") ++ String.ofList (magnitudeText x)
  else "null"

/-! ## The compact layout -/

mutual

/-- The value on one line without blanks. -/
def compact : Json → String
  | .null => "null"
  | .bool true => "true"
  | .bool false => "false"
  | .integer n => integerText n
  | .float x => floatText x
  | .string s => quote s
  | .array items => "[" ++ ",".intercalate (compactItems items) ++ "]"
  | .object members => "\x7b" ++ ",".intercalate (compactMembers members) ++ "\x7d"

/-- The items, each on its own. -/
def compactItems : List Json → List String
  | [] => []
  | item :: rest => compact item :: compactItems rest

/-- The members, each on its own. -/
def compactMembers : List (String × Json) → List String
  | [] => []
  | (key, value) :: rest => (quote key ++ ":" ++ compact value) :: compactMembers rest

end

/-! ## The indented layout -/

/-- The start of a line at a level. -/
def indent (level : Nat) : String := String.ofList (List.replicate (2 * level) ' ')

/-- Brackets around parts that stand on lines of their own one level deeper;
    brackets alone if there are none. -/
def block (opening closing : String) (level : Nat) (parts : List String) : String :=
  if parts.isEmpty then opening ++ closing
  else
    opening ++ "\n" ++ ",\n".intercalate (parts.map (indent (level + 1) ++ ·)) ++ "\n"
      ++ indent level ++ closing

mutual

/-- The value over several lines, starting at a level. -/
def indented (level : Nat) : Json → String
  | .null => "null"
  | .bool true => "true"
  | .bool false => "false"
  | .integer n => integerText n
  | .float x => floatText x
  | .string s => quote s
  | .array items => block "[" "]" level (indentedItems (level + 1) items)
  | .object members => block "\x7b" "\x7d" level (indentedMembers (level + 1) members)

/-- The items, each on its own. -/
def indentedItems (level : Nat) : List Json → List String
  | [] => []
  | item :: rest => indented level item :: indentedItems level rest

/-- The members, each on its own. -/
def indentedMembers (level : Nat) : List (String × Json) → List String
  | [] => []
  | (key, value) :: rest =>
    (quote key ++ ": " ++ indented level value) :: indentedMembers level rest

end

/-- The value over several lines. -/
def pretty (value : Json) : String := indented 0 value

end PluginHost.Json
