import PluginHost.Text.PrintTable
import PluginHost.Text.Ranges

/-! # Quoted text for messages

    How messages show a text or a single character whose exact content
    matters: between quotes, with a short escape for the common controls, the
    code point in braces for everything that would not show as itself, and
    every other character as it is. -/

namespace PluginHost.Text

/-! ## Single characters -/

/-- Would `c` show as itself?  ASCII needs no table. -/
def showsItself (c : Char) : Bool :=
  if c.toNat < 0x7F then decide (0x20 ≤ c.toNat)
  else !inRanges graphemeExtendRanges c && !inRanges unprintableRanges c

/-- The code point of `c` in braces. -/
def braced (c : Char) : List Char :=
  ['\\', 'u', '\x7b'] ++ Nat.toDigits 16 c.toNat ++ ['\x7d']

/-- `c` as it stands between quotes of the kind `quote`. -/
def escapeChar (quote c : Char) : List Char :=
  if c = '\x00' then ['\\', '0']
  else if c = '\t' then ['\\', 't']
  else if c = '\n' then ['\\', 'n']
  else if c = '\r' then ['\\', 'r']
  else if c = '\\' || c = quote then ['\\', c]
  else if showsItself c then [c]
  else braced c

/-! ## Quoting -/

/-- The text `s` in double quotes. -/
def quoted (s : String) : String :=
  String.ofList (['"'] ++ s.toList.flatMap (escapeChar '"') ++ ['"'])

/-- The character `c` in single quotes. -/
def quotedChar (c : Char) : String :=
  String.ofList (['\''] ++ escapeChar '\'' c ++ ['\''])

/-- Written items between brackets, separated by commas. -/
def bracketed (items : List String) : String :=
  "[" ++ ", ".intercalate items ++ "]"

/-- A list of quoted texts. -/
def quotedList (items : List String) : String := bracketed (items.map quoted)

end PluginHost.Text
