import PluginHost.Decimal.Natural

/-! # Versions

    A version has three numbers, pre-release identifiers and build
    identifiers.  `Version.compare` is the total order that compatibility
    bounds use: numbers first, then pre-release identifiers (a version without
    any is the later one), then build identifiers (a version without any is
    the earlier one). -/

namespace PluginHost

/-- A version: `major.minor.patch`, then dot separated identifiers of the
    pre-release and of the build, either list empty when that part is absent. -/
structure Version where
  major : Nat
  minor : Nat
  patch : Nat
  pre   : List String
  build : List String
deriving DecidableEq, Inhabited

namespace Version

/-! ## Text -/

/-- Identifiers joined by dots. -/
def joinIdentifiers (identifiers : List String) : String :=
  ".".intercalate identifiers

/-- The suffix `mark` and the identifiers, or nothing if there are none. -/
def suffixText (mark : String) (identifiers : List String) : String :=
  if identifiers.isEmpty then "" else mark ++ joinIdentifiers identifiers

/-- The full text of a version. -/
def text (v : Version) : String :=
  Decimal.text v.major ++ "." ++ Decimal.text v.minor ++ "." ++ Decimal.text v.patch
    ++ suffixText "-" v.pre ++ suffixText "+" v.build

/-! ## Order of identifiers -/

/-- Does an identifier consist of digits only? -/
def isNumeric (identifier : String) : Bool := identifier.toList.all Char.isDigit

/-- Numeric identifiers come before the others, which compare as text. -/
def compareIdentifiers (numeric : String → String → Ordering) (a b : String) : Ordering :=
  match isNumeric a, isNumeric b with
  | false, true => .gt
  | true, false => .lt
  | false, false => compare a b
  | true, true => numeric a b

/-- Digits without leading zeros by value: the shorter run is the smaller. -/
def compareDigits (a b : String) : Ordering :=
  (compare a.length b.length).then (compare a b)

/-- Digits without the zeros in front. -/
def stripZeros (a : String) : String := String.ofList (a.toList.dropWhile (· = '0'))

/-- Digits by value, and those of equal value by the number of leading zeros. -/
def compareZeroPadded (a b : String) : Ordering :=
  (compareDigits (stripZeros a) (stripZeros b)).then (compare a.length b.length)

/-- The first differing identifier decides, and a list that ends first is the
    smaller. -/
def compareLists (identifier : String → String → Ordering) :
    List String → List String → Ordering
  | [], [] => .eq
  | [], _ :: _ => .lt
  | _ :: _, [] => .gt
  | a :: as, b :: bs => (identifier a b).then (compareLists identifier as bs)

/-! ## Order of versions -/

/-- Order of pre-release parts: none at all is the greatest. -/
def comparePre : List String → List String → Ordering
  | [], [] => .eq
  | [], _ :: _ => .gt
  | _ :: _, [] => .lt
  | a :: as, b :: bs => compareLists (compareIdentifiers compareDigits) (a :: as) (b :: bs)

/-- Order of build parts: none at all is the smallest. -/
def compareBuild (a b : List String) : Ordering :=
  compareLists (compareIdentifiers compareZeroPadded) a b

/-- The total order on versions. -/
protected def compare (a b : Version) : Ordering :=
  (Ord.compare a.major b.major).then <|
  (Ord.compare a.minor b.minor).then <|
  (Ord.compare a.patch b.patch).then <|
  (comparePre a.pre b.pre).then (compareBuild a.build b.build)

end Version

end PluginHost
