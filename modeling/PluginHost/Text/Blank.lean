import PluginHost.Text.Ranges

/-! # Blank characters

    The property White_Space, which is what "blank" means throughout: text is
    blank when it holds no other character, and trimming takes the blanks off
    both ends.  U+200B and U+FEFF are not blank. -/

namespace PluginHost.Text

/-! ## The property -/

/-- Characters with the property White_Space. -/
def blankRanges : List (Nat × Nat) :=
  [(0x0009, 0x000D), (0x0020, 0x0020), (0x0085, 0x0085), (0x00A0, 0x00A0), (0x1680, 0x1680),
   (0x2000, 0x200A), (0x2028, 0x2029), (0x202F, 0x202F), (0x205F, 0x205F), (0x3000, 0x3000)]

/-- Is `c` a blank character? -/
def isBlankChar (c : Char) : Bool := inRanges blankRanges c

/-! ## Trimming -/

/-- The characters of `l` without the blanks at either end. -/
def trimChars (l : List Char) : List Char :=
  ((l.dropWhile isBlankChar).reverse.dropWhile isBlankChar).reverse

/-- `s` without the blanks at either end. -/
def trim (s : String) : String := String.ofList (trimChars s.toList)

/-- Is `s` empty but for blanks? -/
def isBlank (s : String) : Bool := s.toList.all isBlankChar

end PluginHost.Text
