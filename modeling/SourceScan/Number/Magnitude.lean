/-!
# Number/Magnitude — the magnitudes of binary floating point

A **magnitude** is what a number of the binary format with 53 bits of precision and 11 of exponent
is without its sign: a mantissa below `2 ^ 53` and an exponent from `-1074` to `971`, standing for
`mantissa * 2 ^ exponent`.  Every operation is carried out exactly, on fractions of natural
numbers, and its result is then rounded once: to the nearest magnitude, a tie to the one with the
even mantissa.

* `divideEven` — a quotient rounded to the nearest integer, ties to even.
* `Magnitude.nearest?` — the magnitude nearest to a fraction, unless that lies beyond the largest.
* `Magnitude.ofDecimal?` — the magnitude nearest to a decimal.
* `Magnitude.times?`, `Magnitude.over?` — the rounded product and quotient.
-/

namespace SourceScan

/-- **A quotient rounded to the nearest integer**, a tie to the even one. -/
def divideEven (numerator denominator : Nat) : Nat :=
  let quotient := numerator / denominator
  let twice := 2 * (numerator % denominator)
  if twice < denominator then quotient
  else if denominator < twice then quotient + 1
  else quotient + quotient % 2

/-- **A magnitude** of the binary format, `mantissa * 2 ^ exponent`. -/
structure Magnitude where
  mantissa : Nat
  exponent : Int
deriving DecidableEq, Repr

namespace Magnitude

/-- The bound of a mantissa: those of normal numbers lie below it and not below its half. -/
def mantissaBound : Nat := 0x20000000000000

/-- The least exponent, that of zero and the subnormal numbers. -/
def leastExponent : Int := -1074

/-- The greatest exponent of a finite number. -/
def greatestExponent : Int := 971

/-- The magnitude of zero. -/
def zero : Magnitude := ⟨0, leastExponent⟩

/-- The numerator of a magnitude as a fraction. -/
def numerator (x : Magnitude) : Nat := x.mantissa * Nat.pow 2 x.exponent.toNat

/-- The denominator of a magnitude as a fraction. -/
def denominator (x : Magnitude) : Nat := Nat.pow 2 (-x.exponent).toNat

/-- The fraction of two natural numbers, rounded to a multiple of `2 ^ exponent`. -/
def scaled (numerator denominator : Nat) (exponent : Int) : Nat :=
  divideEven (numerator * Nat.pow 2 (-exponent).toNat) (denominator * Nat.pow 2 exponent.toNat)

/-- The exponent of the greatest power of two that is not above a positive fraction. -/
def floorLog2 (numerator denominator : Nat) : Int :=
  let guess : Int := (numerator.log2 : Int) - (denominator.log2 : Int)
  if denominator * Nat.pow 2 guess.toNat ≤ numerator * Nat.pow 2 (-guess).toNat then guess
  else guess - 1

/-- **The magnitude nearest to a fraction**, unless that lies beyond the largest one. -/
def nearest? (numerator denominator : Nat) : Option Magnitude :=
  if numerator = 0 then some zero
  else
    let exponent := max (floorLog2 numerator denominator - 52) leastExponent
    let mantissa := scaled numerator denominator exponent
    let rounded : Magnitude :=
      if mantissa = mantissaBound then ⟨mantissaBound / 2, exponent + 1⟩ else ⟨mantissa, exponent⟩
    if greatestExponent < rounded.exponent then none else some rounded

/-- The number of decimal digits of a natural number. -/
def digitCount (n : Nat) : Nat := (Nat.toDigits 10 n).length

/-- **The magnitude nearest to a decimal** `digits * 10 ^ exponent`, unless that lies beyond the
largest one.  A decimal of 310 places before its point is too large without a closer look, and one
whose first digit comes 330 places after it is zero. -/
def ofDecimal? (digits : Nat) (exponent : Int) : Option Magnitude :=
  let places := (digitCount digits : Int) + exponent
  if digits = 0 ∨ places < -330 then some zero
  else if 310 < places then none
  else nearest? (digits * Nat.pow 10 exponent.toNat) (Nat.pow 10 (-exponent).toNat)

/-- **The rounded product** of two magnitudes. -/
def times? (x y : Magnitude) : Option Magnitude :=
  nearest? (x.numerator * y.numerator) (x.denominator * y.denominator)

/-- **The rounded quotient** of a magnitude by one that is not zero. -/
def over? (x y : Magnitude) : Option Magnitude :=
  nearest? (x.numerator * y.denominator) (x.denominator * y.numerator)

end Magnitude

end SourceScan
