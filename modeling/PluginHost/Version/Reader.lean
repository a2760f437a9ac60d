import PluginHost.Text.Blank
import PluginHost.Text.Quoted
import PluginHost.Version.Basic

/-! # Reading versions

    `Version.parseFull` reads the full form from left to right and names the
    first fault.  `Version.parse` reads versions as people write them: blanks
    around and one leading `v` do not count, and a missing minor or patch
    number is zero. -/

namespace PluginHost.Version

/-! ## Faults -/

/-- The parts of the written form, in the order they are read. -/
inductive Part where
  | major | minor | patch | pre | build
deriving DecidableEq, Repr

/-- How messages name a part. -/
def Part.name : Part → String
  | .major => "major version number"
  | .minor => "minor version number"
  | .patch => "patch version number"
  | .pre => "pre-release identifier"
  | .build => "build metadata"

/-- Why a text is no version. -/
inductive ParseError where
  /-- The text is empty. -/
  | empty
  /-- The text ends where the part, or the dot after it, has to stand. -/
  | unexpectedEnd (part : Part)
  /-- The part has to start with a digit. -/
  | unexpectedChar (part : Part) (found : Char)
  /-- Something else than the separator follows the part. -/
  | unexpectedAfter (part : Part) (found : Char)
  /-- A number longer than one digit starts with zero. -/
  | leadingZero (part : Part)
  /-- The number does not fit in 64 bits. -/
  | overflow (part : Part)
  /-- An identifier has no characters. -/
  | emptySegment (part : Part)
deriving DecidableEq, Repr

/-- The message for a fault. -/
def ParseError.message : ParseError → String
  | .empty => "empty string, expected a semver version"
  | .unexpectedEnd part => "unexpected end of input while parsing " ++ part.name
  | .unexpectedChar part c =>
    "unexpected character " ++ Text.quotedChar c ++ " while parsing " ++ part.name
  | .unexpectedAfter part c =>
    "unexpected character " ++ Text.quotedChar c ++ " after " ++ part.name
  | .leadingZero part => "invalid leading zero in " ++ part.name
  | .overflow part => "value of " ++ part.name ++ " exceeds u64::MAX"
  | .emptySegment part => "empty identifier segment in " ++ part.name

/-! ## Numbers -/

/-- The largest number that a version may hold. -/
def maxNumber : Nat := Nat.pow 2 64 - 1

/-- Read the digits after the first, `value` being read so far.  A further
    digit after the value zero is the fault. -/
def moreDigits (part : Part) (value : Nat) : List Char → Except ParseError (Nat × List Char)
  | [] => .ok (value, [])
  | c :: rest =>
    if c.isDigit then
      if value = 0 then .error (.leadingZero part)
      else if value * 10 + Decimal.digitValue c ≤ maxNumber then
        moreDigits part (value * 10 + Decimal.digitValue c) rest
      else .error (.overflow part)
    else .ok (value, c :: rest)

/-- Read a number and return what follows it. -/
def number (part : Part) : List Char → Except ParseError (Nat × List Char)
  | [] => .error (.unexpectedEnd part)
  | c :: rest =>
    if c.isDigit then moreDigits part (Decimal.digitValue c) rest
    else .error (.unexpectedChar part c)

/-- Pass the dot after the part. -/
def dot (part : Part) : List Char → Except ParseError (List Char)
  | [] => .error (.unexpectedEnd part)
  | c :: rest => if c = '.' then .ok rest else .error (.unexpectedAfter part c)

/-! ## Identifiers -/

/-- The characters of identifiers. -/
def isIdentifierChar (c : Char) : Bool := c.isAlphanum || c == '-'

/-- Is this a pre-release identifier of several digits that starts with zero? -/
def hasLeadingZero (part : Part) (identifier : List Char) : Bool :=
  part == .pre && identifier.all Char.isDigit && 1 < identifier.length
    && identifier.head? == some '0'

/-- Read dot separated identifiers, `current` holding the characters of the
    one being read in reverse. -/
def identifiersFrom (part : Part) (current : List Char) :
    List Char → Except ParseError (List String × List Char)
  | [] => do
    let identifier ← finish current
    pure ([identifier], [])
  | c :: rest =>
    if isIdentifierChar c then identifiersFrom part (c :: current) rest
    else do
      let identifier ← finish current
      if c = '.' then
        let (later, rest) ← identifiersFrom part [] rest
        pure (identifier :: later, rest)
      else pure ([identifier], c :: rest)
where
  /-- The identifier whose characters were read, if it may stand. -/
  finish (current : List Char) : Except ParseError String :=
    if current.isEmpty then .error (.emptySegment part)
    else if hasLeadingZero part current.reverse then .error (.leadingZero part)
    else .ok (String.ofList current.reverse)

/-- Read the identifiers of a suffix that `mark` introduces; without the mark
    there are none. -/
def suffixPart (part : Part) (mark : Char) :
    List Char → Except ParseError (List String × List Char)
  | [] => .ok ([], [])
  | c :: rest => if c = mark then identifiersFrom part [] rest else .ok ([], c :: rest)

/-! ## The full form -/

/-- The last part that was read, for a fault that comes after it. -/
def lastPart (pre build : List String) : Part :=
  if !build.isEmpty then .build else if !pre.isEmpty then .pre else .patch

/-- Read `major.minor.patch`, an optional pre-release and an optional build,
    and nothing else. -/
def parseFull (l : List Char) : Except ParseError Version := do
  if l.isEmpty then .error .empty
  let (major, l) ← number .major l
  let l ← dot .major l
  let (minor, l) ← number .minor l
  let l ← dot .minor l
  let (patch, l) ← number .patch l
  let (pre, l) ← suffixPart .pre '-' l
  let (build, l) ← suffixPart .build '+' l
  match l with
  | [] => pure { major, minor, patch, pre, build }
  | c :: _ => .error (.unexpectedAfter (lastPart pre build) c)

/-! ## The form people write -/

/-- `l` without one leading `v` of either case. -/
def dropMark : List Char → List Char
  | [] => []
  | c :: rest => if c = 'v' ∨ c = 'V' then rest else c :: rest

/-- Does a suffix start with this character? -/
def startsSuffix (c : Char) : Bool := c == '-' || c == '+'

/-- What the numbers lack to be three. -/
def padding (core : List Char) : List Char :=
  match core.count '.' with
  | 0 => ['.', '0', '.', '0']
  | 1 => ['.', '0']
  | _ => []

/-- The full form of a loosely written version. -/
def normalize (l : List Char) : List Char :=
  let l := dropMark (Text.trimChars l)
  let core := l.takeWhile (!startsSuffix ·)
  core ++ padding core ++ l.dropWhile (!startsSuffix ·)

/-- Read a version as people write it. -/
def parse (s : String) : Except ParseError Version := parseFull (normalize s.toList)

end PluginHost.Version
