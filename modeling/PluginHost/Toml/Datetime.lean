import PluginHost.Decimal.Natural

/-! # Dates and times

    The date-times of TOML: a date, a time of day, both, or both with an
    offset.  Reading checks the calendar (`Date.isValid`), allows the second
    60, takes a missing second for zero and drops digits of a second beyond
    the ninth. -/

namespace PluginHost.Toml

/-! ## Parts -/

/-- A day of the Gregorian calendar. -/
structure Date where
  year  : Nat
  month : Nat
  day   : Nat
deriving DecidableEq, Inhabited

/-- A time of day. -/
structure Time where
  hour       : Nat
  minute     : Nat
  second     : Nat
  nanosecond : Nat
deriving DecidableEq, Inhabited

/-- The distance from universal time: named, or in minutes. -/
inductive Offset where
  | utc
  | minutes (east : Int)
deriving DecidableEq, Inhabited

/-- A date-time with the parts that are present. -/
inductive Datetime where
  | offsetDateTime (date : Date) (time : Time) (offset : Offset)
  | localDateTime (date : Date) (time : Time)
  | localDate (date : Date)
  | localTime (time : Time)
deriving DecidableEq, Inhabited

/-! ## Calendar -/

/-- Every fourth year, except full centuries that are no multiple of four. -/
def isLeapYear (year : Nat) : Bool :=
  year % 4 == 0 && (year % 100 != 0 || year % 400 == 0)

/-- The number of days in a month. -/
def daysInMonth (year month : Nat) : Nat :=
  if month = 2 then if isLeapYear year then 29 else 28
  else if month ∈ [4, 6, 9, 11] then 30
  else 31

/-- Is there such a day? -/
def Date.isValid (d : Date) : Bool :=
  1 ≤ d.month && d.month ≤ 12 && 1 ≤ d.day && d.day ≤ daysInMonth d.year d.month

/-- Is there such a time?  The second may be a leap second. -/
def Time.isValid (t : Time) : Bool := t.hour ≤ 23 && t.minute ≤ 59 && t.second ≤ 60

/-! ## Writing -/

/-- `YYYY-MM-DD`. -/
def Date.chars (d : Date) : List Char :=
  Decimal.digitsPadded 4 d.year ++ ['-'] ++ Decimal.digitsPadded 2 d.month ++ ['-']
    ++ Decimal.digitsPadded 2 d.day

/-- The digits of a fraction without zeros at the end. -/
def dropTrailingZeros (l : List Char) : List Char :=
  (l.reverse.dropWhile (· = '0')).reverse

/-- `HH:MM:SS`, and the fraction of the second if there is one. -/
def Time.chars (t : Time) : List Char :=
  Decimal.digitsPadded 2 t.hour ++ [':'] ++ Decimal.digitsPadded 2 t.minute ++ [':']
    ++ Decimal.digitsPadded 2 t.second
    ++ if t.nanosecond = 0 then []
       else ['.'] ++ dropTrailingZeros (Decimal.digitsPadded 9 t.nanosecond)

/-- `Z`, or the sign, hours and minutes. -/
def Offset.chars : Offset → List Char
  | .utc => ['Z']
  | .minutes east =>
    [if east < 0 then '-' else '+'] ++ Decimal.digitsPadded 2 (east.natAbs / 60) ++ [':']
      ++ Decimal.digitsPadded 2 (east.natAbs % 60)

/-- The parts one after the other, with a `T` between date and time. -/
def Datetime.chars : Datetime → List Char
  | .offsetDateTime d t o => d.chars ++ ['T'] ++ t.chars ++ o.chars
  | .localDateTime d t => d.chars ++ ['T'] ++ t.chars
  | .localDate d => d.chars
  | .localTime t => t.chars

/-! ## Reading -/

/-- A number of exactly `width` digits, and what follows it. -/
def fixedDigits (width : Nat) (l : List Char) : Option (Nat × List Char) :=
  let ds := l.take width
  if ds.length = width ∧ ds.all Char.isDigit then some (Decimal.valueOf ds, l.drop width)
  else none

/-- Pass one character of a set. -/
def passChar (set : List Char) : List Char → Option (List Char)
  | [] => none
  | c :: rest => if c ∈ set then some rest else none

/-- Read a date of the calendar. -/
def Date.read (l : List Char) : Option (Date × List Char) := do
  let (year, l) ← fixedDigits 4 l
  let l ← passChar ['-'] l
  let (month, l) ← fixedDigits 2 l
  let l ← passChar ['-'] l
  let (day, l) ← fixedDigits 2 l
  let d : Date := { year, month, day }
  if d.isValid then pure (d, l) else none

/-- Read the fraction of a second after its point, in nanoseconds. -/
def readFraction : List Char → Option (Nat × List Char)
  | '.' :: l =>
    let ds := l.takeWhile Char.isDigit
    if ds.isEmpty then none
    else
      let kept := ds.take 9
      some (Decimal.valueOf kept * Nat.pow 10 (9 - kept.length), l.dropWhile Char.isDigit)
  | l => some (0, l)

/-- Read the seconds after their colon. -/
def readSeconds : List Char → Option ((Nat × Nat) × List Char)
  | ':' :: l => do
    let (second, l) ← fixedDigits 2 l
    let (nanosecond, l) ← readFraction l
    pure ((second, nanosecond), l)
  | l => some ((0, 0), l)

/-- Read a time of day. -/
def Time.read (l : List Char) : Option (Time × List Char) := do
  let (hour, l) ← fixedDigits 2 l
  let l ← passChar [':'] l
  let (minute, l) ← fixedDigits 2 l
  let ((second, nanosecond), l) ← readSeconds l
  let t : Time := { hour, minute, second, nanosecond }
  if t.isValid then pure (t, l) else none

/-- Read an offset. -/
def Offset.read : List Char → Option (Offset × List Char)
  | [] => none
  | c :: l =>
    if c = 'Z' ∨ c = 'z' then some (.utc, l)
    else if c = '+' ∨ c = '-' then do
      let (hour, l) ← fixedDigits 2 l
      let l ← passChar [':'] l
      let (minute, l) ← fixedDigits 2 l
      if hour ≤ 23 ∧ minute ≤ 59 then
        let total : Int := hour * 60 + minute
        pure (.minutes (if c = '-' then -total else total), l)
      else none
    else none

/-- The date-time that the whole text is. -/
def Datetime.parse (l : List Char) : Option Datetime :=
  match Date.read l with
  | some (d, []) => some (.localDate d)
  | some (d, rest) => do
    let rest ← passChar ['T', 't', ' '] rest
    let (t, rest) ← Time.read rest
    if rest.isEmpty then pure (.localDateTime d t)
    else
      let (o, rest) ← Offset.read rest
      if rest.isEmpty then pure (.offsetDateTime d t o) else none
  | none =>
    match Time.read l with
    | some (t, []) => some (.localTime t)
    | _ => none

/-- Does the text start like a date, so that a blank and a time may follow? -/
def isDate (l : List Char) : Bool :=
  match Date.read l with
  | some (_, []) => true
  | _ => false

end PluginHost.Toml
