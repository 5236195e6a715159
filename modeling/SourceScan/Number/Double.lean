import SourceScan.Number.Scaling
import SourceScan.Number.Shortest

/-!
# Number/Double — numbers of binary floating point

A **double** is a magnitude with a sign, which zero has as well.

* `Double.read?` — the double that a decimal is read as.
* `Double.text` — a double in writing.
-/

namespace SourceScan

/-- **A finite number of the binary format.** -/
structure Double where
  negative : Bool
  magnitude : Magnitude
deriving DecidableEq, Repr

namespace Double

/-- **The double that a decimal is read as**, from its sign, the digits before and after its point
and its exponent, unless it is out of range. -/
def read? (negative : Bool) (whole fraction : List Char) (exponent : Int) : Option Double :=
  (Magnitude.read? whole fraction exponent).map fun magnitude => ⟨negative, magnitude⟩

/-- **A double in writing.** -/
def text (x : Double) : String :=
  String.ofList ((if x.negative then ['-'] else []) ++ x.magnitude.text)

end Double

end SourceScan
