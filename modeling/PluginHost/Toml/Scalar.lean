import PluginHost.Toml.Item

/-! # Scalars without quotes

    Truth values, numbers and date-times.  A scalar without quotes is cut out
    of the text first, up to the next character that ends it; the whole of it
    must then be one of the forms. -/

namespace PluginHost.Toml

/-! ## Digits in groups -/

/-- The digits of a run in which single underscores may stand between two
    digits. -/
def ungroup (isDigit : Char → Bool) : List Char → Option (List Char)
  | [] => none
  | [c] => if isDigit c then some [c] else none
  | c :: d :: rest =>
    if isDigit c then
      if d = '_' then (ungroup isDigit rest).map (c :: ·)
      else (ungroup isDigit (d :: rest)).map (c :: ·)
    else none

/-- Decimal digits in groups, without a leading zero. -/
def decimalDigits (l : List Char) : Option (List Char) :=
  match ungroup Char.isDigit l with
  | some ['0'] => some ['0']
  | some ('0' :: _) => none
  | result => result

/-! ## Integers -/

/-- The integers that fit in 128 bits with or without a sign. -/
def fits128 (n : Int) : Bool := -Nat.pow 2 127 ≤ n && n < Nat.pow 2 128

/-- An integer in a document. -/
def Scalar.ofInt (n : Int) : Scalar := .integer (if fits128 n then some n else none)

/-- The integer that digits in groups are in a radix.  The mark of the radix
    may stand alone, and is then an integer without a value. -/
def radixInteger (radix : Nat) (l : List Char) : Option Scalar :=
  if l.isEmpty then some (.integer none)
  else
    (ungroup (Decimal.isDigitIn radix) l).map fun ds =>
      Scalar.ofInt (Decimal.valueFrom radix 0 ds : Nat)

/-- `n` with a sign. -/
def signed (negative : Bool) (n : Nat) : Int := if negative then -n else n

/-- Does every underscore stand between two digits of the largest radix?  The
    character in front is `before`. -/
def underscoresSeparate (before : Char) : List Char → Bool
  | [] => before != '_'
  | c :: rest =>
    ((c != '_' || Decimal.isDigitIn 16 before) && (before != '_' || Decimal.isDigitIn 16 c))
      && underscoresSeparate c rest

/-- Is the text an integer by its looks?  It starts with decimal digits, the
    first no zero, and an underscore; whatever comes then, it is neither a
    fraction nor a power of ten. -/
def looksLikeInteger : List Char → Bool
  | [] => false
  | c :: rest =>
    c.isDigit && c != '0' && (rest.dropWhile Char.isDigit).head? == some '_'
      && rest.all (· ∉ ['.', 'e', 'E']) && underscoresSeparate c rest

/-- A decimal integer after its sign. -/
def decimalInteger (negative : Bool) (l : List Char) : Option Scalar :=
  match decimalDigits l with
  | some ds => some (Scalar.ofInt (signed negative (Decimal.valueOf ds)))
  | none => if looksLikeInteger l then some (.integer none) else none

/-! ## Floating point numbers -/

/-- A sign in front, and what follows it. -/
def splitSign : List Char → Bool × List Char
  | '-' :: l => (true, l)
  | '+' :: l => (false, l)
  | l => (false, l)

/-- A character of a run of digits in groups. -/
def isGroupChar (c : Char) : Bool := c.isDigit || c == '_'

/-- The digits of the fraction after its point, if there is one. -/
def fractionDigits : List Char → Option (List Char × List Char)
  | '.' :: l =>
    (ungroup Char.isDigit (l.takeWhile isGroupChar)).map (·, l.dropWhile isGroupChar)
  | l => some ([], l)

/-- The power of ten after its mark, if there is one. -/
def powerOfTen : List Char → Option Int
  | [] => some 0
  | c :: l =>
    if c = 'e' ∨ c = 'E' then
      let (negative, l) := splitSign l
      (ungroup Char.isDigit l).map fun ds => signed negative (Decimal.valueOf ds)
    else none

/-- A decimal with a fraction or a power of ten, after its sign.  One that is
    out of range has no value. -/
def decimalFloat (negative : Bool) (l : List Char) : Option Scalar := do
  let whole ← decimalDigits (l.takeWhile isGroupChar)
  let rest := l.dropWhile isGroupChar
  if rest.isEmpty then none
  let (fraction, rest) ← fractionDigits rest
  let power ← powerOfTen rest
  let coefficient := Decimal.valueOf (whole ++ fraction)
  pure (.float (Decimal.Binary64.ofDecimal negative coefficient (power - fraction.length)))

/-- Infinity and the numbers that are none, after a sign. -/
def namedFloat (negative : Bool) (l : List Char) : Option Scalar :=
  if l = ['i', 'n', 'f'] then some (.float (some (.infinity negative)))
  else if l = ['n', 'a', 'n'] then some (.float (some (.nan negative)))
  else none

/-! ## All forms -/

/-- A truth value. -/
def readBoolean (l : List Char) : Option Scalar :=
  if l = ['t', 'r', 'u', 'e'] then some (.boolean true)
  else if l = ['f', 'a', 'l', 's', 'e'] then some (.boolean false)
  else none

/-- A number; only decimal ones may have a sign. -/
def readNumber (l : List Char) : Option Scalar :=
  match l with
  | '0' :: 'x' :: ds => radixInteger 16 ds
  | '0' :: 'o' :: ds => radixInteger 8 ds
  | '0' :: 'b' :: ds => radixInteger 2 ds
  | _ =>
    let (negative, l) := splitSign l
    decimalInteger negative l <|> decimalFloat negative l <|> namedFloat negative l

/-- The scalar that a text without quotes is. -/
def Scalar.ofBare (l : List Char) : Option Scalar :=
  readBoolean l <|> readNumber l <|> (Datetime.parse l).map .datetime

/-! ## Cutting out -/

/-- Does `c` end a scalar without quotes? -/
def endsBare (c : Char) : Bool :=
  c ∈ [' ', '\t', '\n', '\r', '#', ',', '=', '[', ']', '\x7b', '\x7d']

/-- Cut out a scalar without quotes.  A date may go on after one blank with
    the digits of a time. -/
def cutBare (l : List Char) : List Char × List Char :=
  let first := l.takeWhile (!endsBare ·)
  let rest := l.dropWhile (!endsBare ·)
  match rest with
  | ' ' :: c :: more =>
    if isDate first && c.isDigit then
      (first ++ ' ' :: (c :: more).takeWhile (!endsBare ·), (c :: more).dropWhile (!endsBare ·))
    else (first, rest)
  | _ => (first, rest)

/-- Read a scalar without quotes. -/
def readBare (l : List Char) : Option (Scalar × List Char) :=
  let (text, rest) := cutBare l
  (Scalar.ofBare text).map (·, rest)

end PluginHost.Toml
