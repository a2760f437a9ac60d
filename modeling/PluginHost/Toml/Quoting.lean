import PluginHost.Decimal.Natural

/-! # Quoting strings and keys

    A string is written in the first of four forms that shows it best: on one
    line in double quotes, on one line in single quotes, over several lines in
    three double quotes, or over several lines in three single quotes.  The
    forms in single quotes have no escapes, so they serve only text that needs
    none. -/

namespace PluginHost.Toml

/-! ## What a text contains -/

/-- A control character that no form may hold as it is: all but the tab and
    the line feed, and U+007F. -/
def isControl (c : Char) : Bool :=
  (c.toNat < 0x20 && c != '\t' && c != '\n') || c.toNat == 0x7F

/-- The length of the longest run of `c` in `l`, `current` being the length of
    the run that ends where `l` starts. -/
def longestRunFrom (c : Char) (current : Nat) : List Char → Nat
  | [] => current
  | x :: rest =>
    if x = c then longestRunFrom c (current + 1) rest
    else max current (longestRunFrom c 0 rest)

/-- The length of the longest run of `c`. -/
def longestRun (c : Char) (l : List Char) : Nat := longestRunFrom c 0 l

/-! ## Escapes -/

/-- A character in the forms with double quotes.  On one line a double quote
    and a line feed are escaped as well. -/
def escapeBasic (oneLine : Bool) (c : Char) : List Char :=
  if c = '\x08' then ['\\', 'b']
  else if c = '\t' then ['\\', 't']
  else if c = '\x0c' then ['\\', 'f']
  else if c = '\r' then ['\\', 'r']
  else if c = '\\' then ['\\', '\\']
  else if c = '\n' then if oneLine then ['\\', 'n'] else ['\n']
  else if c = '"' then if oneLine then ['\\', '"'] else ['"']
  else if c.toNat < 0x20 || c.toNat == 0x7F then
    ['\\', 'u', '0', '0', (Nat.digitChar (c.toNat / 16)).toUpper,
      (Nat.digitChar (c.toNat % 16)).toUpper]
  else [c]

/-- The text between three double quotes, `quotes` being the number of double
    quotes in a row so far: only the third of them is escaped. -/
def escapeLines (quotes : Nat) : List Char → List Char
  | [] => []
  | c :: rest =>
    if c = '"' then
      if quotes = 2 then '\\' :: '"' :: escapeLines 0 rest
      else '"' :: escapeLines (quotes + 1) rest
    else escapeBasic false c ++ escapeLines 0 rest

/-! ## Forms -/

/-- The four written forms of a string. -/
inductive Form where
  | basic | literal | basicLines | literalLines
deriving DecidableEq, Repr

/-- The form that a text is written in. -/
def formOf (l : List Char) : Form :=
  let control := l.any isControl
  let newline := l.contains '\n'
  let backslash := l.contains '\\'
  let double := longestRun '"' l
  let single := longestRun '\'' l
  if !control && !backslash && double == 0 && !newline then .basic
  else if !control && single == 0 && !newline then .literal
  else if !control && !backslash && double ≤ 2 then .basicLines
  else if !control && single ≤ 2 then .literalLines
  else if newline then .basicLines
  else .basic

/-- A line feed after the opening quotes of a text that has line feeds: it is
    no part of the text. -/
def leadingNewline (l : List Char) : List Char :=
  if l.contains '\n' then ['\n'] else []

/-- A text in a given form. -/
def inForm (l : List Char) : Form → List Char
  | .basic => ['"'] ++ l.flatMap (escapeBasic true) ++ ['"']
  | .literal => ['\''] ++ l ++ ['\'']
  | .basicLines =>
    ['"', '"', '"'] ++ leadingNewline l ++ escapeLines 0 l ++ ['"', '"', '"']
  | .literalLines =>
    ['\'', '\'', '\''] ++ leadingNewline l ++ l ++ ['\'', '\'', '\'']

/-- The written form of a string. -/
def stringChars (s : String) : List Char := inForm s.toList (formOf s.toList)

/-! ## Keys -/

/-- The characters of keys without quotes. -/
def isBareKeyChar (c : Char) : Bool := c.isAlphanum || c == '_' || c == '-'

/-- Can the key stand without quotes? -/
def isBareKey (l : List Char) : Bool := !l.isEmpty && l.all isBareKeyChar

/-- The form of a key that needs quotes: always on one line. -/
def keyFormOf (l : List Char) : Form :=
  let control := l.any fun c => isControl c || c == '\n'
  if !control && !l.contains '\\' && !l.contains '"' then .basic
  else if !control && !l.contains '\'' then .literal
  else .basic

/-- The written form of a key. -/
def keyChars (key : String) : List Char :=
  if isBareKey key.toList then key.toList else inForm key.toList (keyFormOf key.toList)

/-- A path of keys joined by points. -/
def pathChars (path : List String) : List Char :=
  List.intercalate ['.'] (path.map keyChars)

end PluginHost.Toml
