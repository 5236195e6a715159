import SourceScan.Number.Magnitude

/-!
# Number/Shortest — the shortest decimal of a magnitude

A magnitude is shown by the fewest digits that are rounded to it and, of the decimals with so few
digits, by the nearest one.  For a number of digits the candidates are the two neighbours of the
magnitude on the grid of decimals with so many digits.

* `Magnitude.shortest` — the digits and their exponent.
* `Magnitude.text` — the written form: positional with a point from `1e-5` up to below `1e16`, and
  with an exponent otherwise.
-/

namespace SourceScan.Magnitude

/-- The exponent of the greatest power of ten that is not above a positive fraction. -/
def floorLog10 (numerator denominator : Nat) : Int :=
  if denominator ≤ numerator then (digitCount (numerator / denominator) : Int) - 1
  else
    let guess := digitCount (denominator / numerator) - 1
    if denominator ≤ numerator * Nat.pow 10 guess then -(guess : Int) else -(guess : Int) - 1

/-- The decimal `digits * 10 ^ exponent` is rounded to the magnitude. -/
def readsBack (x : Magnitude) (digits : Nat) (exponent : Int) : Bool :=
  ofDecimal? digits exponent == some x

/-- **The candidate on a grid**: of the magnitude's two neighbours among the multiples of
`10 ^ exponent`, the nearer one that reads back; a tie goes to the even one. -/
def candidate? (x : Magnitude) (exponent : Int) : Option Nat :=
  let numerator := x.numerator * Nat.pow 10 (-exponent).toNat
  let denominator := x.denominator * Nat.pow 10 exponent.toNat
  let below := numerator / denominator
  let close := divideEven numerator denominator
  let other := if close = below then below + 1 else below
  if x.readsBack close exponent then some close
  else if x.readsBack other exponent then some other
  else none

/-- The candidate with the fewest digits, from a count of digits on, among so many further
counts. -/
def search (x : Magnitude) (leading : Int) : Nat → Nat → Nat × Int
  | _, 0 => (0, 0)
  | count, further + 1 =>
    let exponent := leading - count
    match x.candidate? exponent with
    | some digits => (digits, exponent)
    | none => search x leading (count + 1) further

/-- **The shortest decimal** of a magnitude that is not zero: digits and exponent.  Seventeen digits
always read back. -/
def shortest (x : Magnitude) : Nat × Int :=
  x.search (floorLog10 x.numerator x.denominator) 0 17

/-- Digits without the zeros at their end. -/
def trimZeros (digits : List Char) : List Char :=
  (digits.reverse.dropWhile (· == '0')).reverse

/-- **Digits with a point**: the first digit stands for the given power of ten. -/
def positional (digits : List Char) (leading : Int) : List Char :=
  if leading < 0 then
    '0' :: '.' :: List.replicate ((-leading).toNat - 1) '0' ++ digits
  else
    let whole := leading.toNat + 1
    let fraction := digits.drop whole
    digits.take whole ++ List.replicate (whole - digits.length) '0' ++ '.' ::
      (if fraction = [] then ['0'] else fraction)

/-- **Digits with an exponent**: the first digit stands before the point. -/
def scientific (digits : List Char) (leading : Int) : List Char :=
  let fraction := digits.drop 1
  digits.take 1 ++ (if fraction = [] then [] else '.' :: fraction) ++
    'e' :: (if leading < 0 then '-' else '+') :: Nat.toDigits 10 leading.natAbs

/-- **A magnitude in writing.** -/
def text (x : Magnitude) : List Char :=
  if x.mantissa = 0 then "0.0".toList
  else
    let (value, exponent) := x.shortest
    let written := Nat.toDigits 10 value
    let leading := exponent + (written.length : Int) - 1
    let digits := trimZeros written
    if -5 ≤ leading ∧ leading < 16 then positional digits leading else scientific digits leading

end SourceScan.Magnitude
