import PluginHost.Decimal.Binary64

/-! # Shortest decimals

    The decimal with the fewest digits that reads back as a given floating
    point number, the nearest of those to it, and its text, positional or with
    a power of ten.

    A decimal reads back as `m · 2 ^ q` when it lies between the midpoints to
    the neighbouring numbers; the midpoints themselves count when `m` is even.
    For each power of ten, from the largest down, the two multiples next to
    the number are tried. -/

namespace PluginHost.Decimal

/-! ## The interval that reads back -/

/-- Decimals are compared as numerators over one denominator: the number,
    and the midpoints to its neighbours. -/
structure Interval where
  low    : Nat
  value  : Nat
  high   : Nat
  denom  : Nat
  closed : Bool

/-- The interval of a positive finite number.  Below a power of two the
    neighbour is only half as far. -/
def Interval.of (x : Binary64) : Interval :=
  let m := x.mantissa
  let up := Nat.pow 2 x.exponent.toNat
  let narrow := m == Nat.pow 2 52 && decide (-1074 < x.exponent)
  { low := (if narrow then 4 * m - 1 else 4 * m - 2) * up
    value := 4 * m * up
    high := (4 * m + 2) * up
    denom := 4 * Nat.pow 2 (-x.exponent).toNat
    closed := m % 2 == 0 }

/-- Does the fraction `num / den` read back? -/
def Interval.holds (i : Interval) (num den : Nat) : Bool :=
  let n := num * i.denom
  if i.closed then i.low * den ≤ n && n ≤ i.high * den
  else i.low * den < n && n < i.high * den

/-! ## The search -/

/-- A decimal `coefficient · 10 ^ power`. -/
structure Scientific where
  coefficient : Nat
  power       : Int
deriving DecidableEq, Inhabited

/-- The multiple of `10 ^ power` that reads back, if one of the two next to
    the number does: the nearer one, the greater when both are equally near. -/
def Interval.onGrid (i : Interval) (power : Int) : Option Scientific :=
  let up := Nat.pow 10 power.toNat
  let den := Nat.pow 10 (-power).toNat
  let below := i.value * den / (i.denom * up)
  let above := below + 1
  let hit (c : Nat) : Bool := 0 < c && i.holds (c * up) den
  let toBelow := i.value * den - below * up * i.denom
  let toAbove := above * up * i.denom - i.value * den
  match hit below, hit above with
  | false, false => none
  | true, false => some ⟨below, power⟩
  | false, true => some ⟨above, power⟩
  | true, true => some ⟨if toBelow < toAbove then below else above, power⟩

/-- Try the powers of ten from `power` down. -/
def Interval.search (i : Interval) (power : Int) : Nat → Scientific
  | 0 => ⟨0, 0⟩
  | steps + 1 =>
    match i.onGrid power with
    | some s => s
    | none => i.search (power - 1) steps

/-- The shortest decimal of a positive finite number.  The greatest number is
    below `10 ^ 309`, and every number has its own decimal at seventeen
    digits, so the search ends by finding one. -/
def shortest (x : Binary64) : Scientific :=
  let i := Interval.of x
  let size : Int := (digits (i.value / i.denom)).length
  -- Below one the search starts at the point.
  let start : Int := if i.denom ≤ i.value then size else 0
  i.search start 345

/-! ## Text -/

/-- How numbers that have no digits are spelled. -/
structure Spelling where
  nan      : String
  infinity : String

/-- The digits with a point at its place and at least one digit on both
    sides. -/
def Scientific.positional (s : Scientific) : List Char :=
  let ds := digits s.coefficient
  if 0 ≤ s.power then ds ++ List.replicate s.power.toNat '0' ++ ['.', '0']
  else
    let places := (-s.power).toNat
    if places < ds.length then
      ds.take (ds.length - places) ++ ['.'] ++ ds.drop (ds.length - places)
    else ['0', '.'] ++ List.replicate (places - ds.length) '0' ++ ds

/-- The power of ten that the first digit stands for. -/
def Scientific.order (s : Scientific) : Int := s.power + (digits s.coefficient).length - 1

/-- The digits with a point after the first, if there are more, and the power
    of ten behind them with its sign. -/
def Scientific.exponential (s : Scientific) : List Char :=
  let ds := digits s.coefficient
  let fraction := if ds.length ≤ 1 then [] else '.' :: ds.drop 1
  let sign := if s.order < 0 then '-' else '+'
  ds.take 1 ++ fraction ++ ['e', sign] ++ digits s.order.natAbs

/-- The positional text of a number, never with an exponent.  A NaN has no
    sign. -/
def positional (spelling : Spelling) (x : Binary64) : List Char :=
  if x.isNaN then spelling.nan.toList
  else
    let sign := if x.isNegative then ['-'] else []
    if !x.isFinite then sign ++ spelling.infinity.toList
    else if x.magnitude = 0 then sign ++ ['0', '.', '0']
    else sign ++ (shortest x).positional

end PluginHost.Decimal
