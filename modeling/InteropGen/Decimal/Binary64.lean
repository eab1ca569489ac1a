/-!
# Double precision numbers

The values of the 64-bit binary format as exact integers times powers of two, and the rounding of a
decimal numeral to the nearest of them, a tie going to the even mantissa.
-/

namespace InteropGen.Decimal

/--
A double precision number. A finite one is `± mantissa · 2 ^ exponent` with `mantissa < 2 ^ 53`
and the least exponent, `-1074` or above, that allows it.
-/
inductive Binary64
  | finite (negative : Bool) (mantissa : Nat) (exponent : Int)
  | infinite (negative : Bool)
  | notANumber
  deriving DecidableEq, Repr

namespace Binary64

/-- The least exponent. -/
def minExponent : Int := -1074

/-- The greatest exponent. -/
def maxExponent : Int := 971

/-- The power of two above all mantissas. -/
def mantissaBound : Nat := Nat.pow 2 53

/-- The quotient rounded to the nearest integer, a tie to the even one. -/
def roundDiv (num den : Nat) : Nat :=
  let quotient := num / den
  let twice := 2 * (num % den)
  if den < twice || (twice = den && quotient % 2 = 1) then quotient + 1 else quotient

/-- Zero with a sign. -/
def zeroOf (negative : Bool) : Binary64 := .finite negative 0 minExponent

/-- The number nearest to `num / den`. -/
def ofRatio (negative : Bool) (num den : Nat) : Binary64 :=
  if num = 0 then zeroOf negative
  else
    let estimate : Int := max (Int.ofNat num.log2 - Int.ofNat den.log2 - 53) minExponent
    let scaled (e : Int) : Nat × Nat := (num * Nat.pow 2 (-e).toNat, den * Nat.pow 2 e.toNat)
    let low := scaled estimate
    let exponent := if mantissaBound ≤ low.1 / low.2 then estimate + 1 else estimate
    let pair := scaled exponent
    let mantissa := roundDiv pair.1 pair.2
    let (mantissa, exponent) :=
      if mantissa = mantissaBound then (mantissa / 2, exponent + 1) else (mantissa, exponent)
    if maxExponent < exponent then .infinite negative else .finite negative mantissa exponent

/-- The number nearest to `digits · 10 ^ scale`. -/
def ofDecimal (negative : Bool) (digits : Nat) (scale : Int) : Binary64 :=
  let magnitude : Int := Int.ofNat (Nat.toDigits 10 digits).length + scale
  if digits = 0 || magnitude < -400 then zeroOf negative
  else if 400 < magnitude then .infinite negative
  else ofRatio negative (digits * Nat.pow 10 scale.toNat) (Nat.pow 10 (-scale).toNat)

/-- The integer that the number is, if it is one. -/
def toInt? : Binary64 → Option Int
  | .finite negative mantissa exponent =>
    let num := mantissa * Nat.pow 2 exponent.toNat
    let den := Nat.pow 2 (-exponent).toNat
    if num % den = 0 then
      some (if negative then -Int.ofNat (num / den) else Int.ofNat (num / den))
    else none
  | _ => none

end Binary64

end InteropGen.Decimal
