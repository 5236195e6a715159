import SourceScan.Number.Magnitude

/-!
# Number/Scaling — decimals read by floating point arithmetic

A decimal can be read with two or three rounded operations instead of one exact one.  Its digits
are gathered into a **significand** of 64 bits for as long as they fit; the significand is rounded
to a magnitude; and that is multiplied by a power of ten, or divided by one, rounding again.  What
comes out is close to the decimal, though not always the magnitude nearest to it, and beyond the
largest one it is out of range.

* `Significand.gather` — digits gathered for as long as they fit.
* `Magnitude.scale?` — a magnitude times a power of ten.
* `Magnitude.read?` — the magnitude that a decimal is read as.
-/

namespace SourceScan

/-- The bound of a number of 64 bits. -/
def wordBound : Nat := 0x10000000000000000

/-- **A significand**, and the digits that did not fit into it. -/
structure Significand where
  value : Nat
  left : List Char
deriving DecidableEq, Repr

/-- **Digits gathered** after a value, up to the first digit that takes it beyond 64 bits. -/
def Significand.gather (value : Nat) : (digits : List Char) → Significand
  | [] => ⟨value, []⟩
  | c :: digits =>
    let longer := value * 10 + (c.toNat - '0'.toNat)
    if longer < wordBound then gather longer digits else ⟨value, c :: digits⟩

namespace Magnitude

/-- The exponent of the greatest power of ten that is a magnitude. -/
def greatestPower : Nat := 308

/-- The magnitude nearest to a power of ten. -/
def powerOfTen? (power : Nat) : Option Magnitude := nearest? (Nat.pow 10 power) 1

/-- **A magnitude times a power of ten**, unless it is out of range.  A negative exponent is
divided away, by the greatest power of ten as long as it lies beyond that; a magnitude that has
become zero stays so. -/
def scale? (x : Magnitude) (exponent : Int) : Option Magnitude :=
  if x.mantissa = 0 then some x
  else if (greatestPower : Int) < exponent then none
  else if 0 ≤ exponent then do x.times? (← powerOfTen? exponent.toNat)
  else if -(greatestPower : Int) ≤ exponent then do x.over? (← powerOfTen? (-exponent).toNat)
  else do (← x.over? (← powerOfTen? greatestPower)).scale? (exponent + greatestPower)
termination_by (-exponent).toNat
decreasing_by
  simp only [greatestPower] at *
  omega

/-- **The magnitude that a decimal is read as**, from the digits before and after its point and its
exponent.  A digit before the point that did not fit counts as a place; those after it are gathered
all the same, up to one that does not fit. -/
def read? (whole fraction : List Char) (exponent : Int) : Option Magnitude :=
  let front := Significand.gather 0 whole
  let back := Significand.gather front.value fraction
  let places := (front.left.length + back.left.length : Int) - fraction.length
  do (← nearest? back.value 1).scale? (exponent + places)

end Magnitude

end SourceScan
