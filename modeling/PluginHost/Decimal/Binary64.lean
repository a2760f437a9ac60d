import PluginHost.Decimal.Natural

/-! # Binary floating point numbers

    A double precision number is its bit pattern.  A finite one is
    `mantissa · 2 ^ exponent` up to its sign.  `Binary64.ofDecimal` is the
    number nearest to a decimal, the even one of two that are equally near; it
    is computed with exact natural numbers throughout. -/

namespace PluginHost.Decimal

/-- A floating point number of 64 bits. -/
structure Binary64 where
  bits : UInt64
deriving DecidableEq, Inhabited

namespace Binary64

/-! ## Parts of the pattern -/

/-- The sign bit is set. -/
def isNegative (x : Binary64) : Bool := Nat.pow 2 63 ≤ x.bits.toNat

/-- The pattern without its sign. -/
def magnitude (x : Binary64) : Nat := x.bits.toNat % Nat.pow 2 63

/-- The pattern of infinity. -/
def infinityPattern : Nat := 2047 * Nat.pow 2 52

/-- Greater than every infinity in magnitude: not a number. -/
def isNaN (x : Binary64) : Bool := infinityPattern < x.magnitude

/-- Neither infinite nor a NaN. -/
def isFinite (x : Binary64) : Bool := x.magnitude < infinityPattern

/-- The integer part of a finite number's binary form. -/
def mantissa (x : Binary64) : Nat :=
  if x.magnitude < Nat.pow 2 52 then x.magnitude
  else x.magnitude % Nat.pow 2 52 + Nat.pow 2 52

/-- The power of two that the mantissa is multiplied by. -/
def exponent (x : Binary64) : Int :=
  if x.magnitude < Nat.pow 2 52 then -1074 else (x.magnitude / Nat.pow 2 52 : Nat) - 1075

/-- The number with the sign and the rest of the pattern. -/
def ofMagnitude (negative : Bool) (magnitude : Nat) : Binary64 :=
  ⟨UInt64.ofNat (magnitude % Nat.pow 2 63 + if negative then Nat.pow 2 63 else 0)⟩

/-- Infinity of either sign. -/
def infinity (negative : Bool) : Binary64 := ofMagnitude negative infinityPattern

/-- The NaN whose payload has only its leading bit. -/
def nan (negative : Bool) : Binary64 := ofMagnitude negative (infinityPattern + Nat.pow 2 51)

/-- Numeric equality: a NaN differs from everything, and the zeros are equal. -/
def same (x y : Binary64) : Bool :=
  !x.isNaN && !y.isNaN && (x == y || (x.magnitude == 0 && y.magnitude == 0))

/-! ## The nearest number -/

/-- `num / den` rounded to the nearest integer, a half to the even one. -/
def roundHalfEven (num den : Nat) : Nat :=
  let q := num / den
  let twice := 2 * (num % den)
  if twice < den then q
  else if den < twice then q + 1
  else if q % 2 = 0 then q else q + 1

/-- `num / den / 2 ^ e` as a fraction. -/
def scaled (num den : Nat) (e : Int) : Nat × Nat :=
  (num * Nat.pow 2 (-e).toNat, den * Nat.pow 2 e.toNat)

/-- The exponent at which the positive fraction has a mantissa of 53 bits, or
    the least exponent there is. -/
def exponentOf (num den : Nat) : Int :=
  let low : Int := num.log2 - den.log2 - 53
  let (n, d) := scaled num den low
  max (if n / d < Nat.pow 2 53 then low else low + 1) (-1074)

/-- The pattern nearest to a positive fraction; it is at least the pattern of
    infinity when the fraction is out of range. -/
def nearest (num den : Nat) : Nat :=
  let e := exponentOf num den
  let (n, d) := scaled num den e
  -- The leading bit of the mantissa counts for one step of the exponent, and a
  -- mantissa that is rounded up to `2 ^ 53` for two.
  roundHalfEven n d + (e + 1074).toNat * Nat.pow 2 52

/-- The number nearest to `coefficient · 10 ^ power`, unless that is beyond
    the greatest finite number. -/
def ofDecimal (negative : Bool) (coefficient : Nat) (power : Int) : Option Binary64 :=
  if coefficient = 0 then some (ofMagnitude negative 0)
  else
    -- The number is below `10 ^ size` and not below a tenth of it.
    let size : Int := (digits coefficient).length + power
    if 310 < size then none
    else if size < -330 then some (ofMagnitude negative 0)
    else
      let magnitude := nearest (coefficient * Nat.pow 10 power.toNat) (Nat.pow 10 (-power).toNat)
      if magnitude < infinityPattern then some (ofMagnitude negative magnitude) else none

end Binary64

end PluginHost.Decimal
