import InteropGen.Decimal.Binary64

/-!
# The shortest decimal text of a double

A finite number is written with the fewest significant digits that read back as the number, and of
the numerals with that many digits with the nearest one. It is written positionally from `10 ^ -4`
up to below `10 ^ 16` and with an exponent of at least two digits elsewhere.
-/

namespace InteropGen.Decimal

/-- A decimal numeral `digits · 10 ^ scale`. -/
structure Numeral where
  digits : Nat
  scale : Int
  deriving DecidableEq, Repr

namespace Binary64

/--
The two sides of a comparison of `point · 10 ^ scale` with `count · 2 ^ exponent`, both times the
powers that make them integers.
-/
def sides (point : Nat) (scale : Int) (count : Nat) (exponent : Int) : Nat × Nat :=
  (point * Nat.pow 10 scale.toNat * Nat.pow 2 (-exponent).toNat,
    count * Nat.pow 2 exponent.toNat * Nat.pow 10 (-scale).toNat)

/--
Does `point · 10 ^ scale` read back as `mantissa · 2 ^ exponent`? The reals that do lie between the
midpoints to the two neighbours, ends included iff the mantissa is even.
-/
def readsBack (mantissa : Nat) (exponent : Int) (point : Nat) (scale : Int) : Bool :=
  let lowQuarters :=
    if mantissa = mantissaBound / 2 && minExponent < exponent then 4 * mantissa - 1
    else 4 * mantissa - 2
  let (p, low) := sides point scale lowQuarters (exponent - 2)
  let (_, high) := sides point scale (4 * mantissa + 2) (exponent - 2)
  if mantissa % 2 = 0 then low ≤ p && p ≤ high else low < p && p < high

/-- The greatest power of ten that is at most the number: its exponent. -/
def decimalExponent (mantissa : Nat) (exponent : Int) : Int :=
  let estimate := Int.fdiv ((Int.ofNat mantissa.log2 + exponent) * 30103) 100000
  let atMost (k : Int) : Bool :=
    let (power, value) := sides 1 k mantissa exponent
    power ≤ value
  if !atMost estimate then estimate - 1
  else if atMost (estimate + 1) then estimate + 1
  else estimate

/--
The nearest numeral on the grid of `10 ^ scale` that reads back, if one of the two neighbours does.
-/
def onGrid? (mantissa : Nat) (exponent : Int) (scale : Int) : Option Numeral :=
  let (step, value) := sides 1 scale mantissa exponent
  let below := value / step
  let remainder := value % step
  let preferUpper := step < 2 * remainder || (2 * remainder = step && below % 2 = 1)
  let lowerFits := readsBack mantissa exponent below scale
  let upperFits := readsBack mantissa exponent (below + 1) scale
  if upperFits && (preferUpper || !lowerFits) then some ⟨below + 1, scale⟩
  else if lowerFits then some ⟨below, scale⟩
  else none

/-- The shortest numeral of a positive number; seventeen digits always suffice. -/
def shortest (mantissa : Nat) (exponent : Int) : Numeral :=
  let top := decimalExponent mantissa exponent
  ((List.range 17).findSome? fun n => onGrid? mantissa exponent (top - Int.ofNat n)).getD
    ⟨mantissa, exponent⟩

/-- The digits of a numeral without zeros at the end, and the place of the point among them. -/
def significant (numeral : Numeral) : List Char × Int :=
  let digits := Nat.toDigits 10 numeral.digits
  ((digits.reverse.dropWhile (· == '0')).reverse, Int.ofNat digits.length + numeral.scale)

/-- Writes digits with the point at a place counted from the first digit. -/
def layOut (digits : List Char) (place : Int) : List Char :=
  if -4 < place && place ≤ 16 then
    if place ≤ 0 then '0' :: '.' :: (List.replicate (-place).toNat '0' ++ digits)
    else if digits.length ≤ place.toNat then
      digits ++ List.replicate (place.toNat - digits.length) '0' ++ ['.', '0']
    else digits.take place.toNat ++ '.' :: digits.drop place.toNat
  else
    let shown := match digits with
      | first :: second :: rest => first :: '.' :: second :: rest
      | other => other
    let exponent := place - 1
    let magnitude := Nat.toDigits 10 exponent.natAbs
    shown ++ ['e', if exponent < 0 then '-' else '+'] ++
      (if magnitude.length < 2 then '0' :: magnitude else magnitude)

/-- The shortest text of a number. -/
def toText : Binary64 → String
  | .finite negative mantissa exponent =>
    let body :=
      if mantissa = 0 then ['0', '.', '0']
      else
        let (digits, place) := significant (shortest mantissa exponent)
        layOut digits place
    String.ofList (if negative then '-' :: body else body)
  | .infinite negative => if negative then "-inf" else "inf"
  | .notANumber => "nan"

end Binary64

end InteropGen.Decimal
