import SourceScan.Json.Read
import SourceScan.Number.Decimal

/-!
# Json/Numeral — reading numbers

A number is a whole part without needless zeros, perhaps a fraction and perhaps an exponent.  One
without fraction and exponent is an integer if 64 bits hold it; every other number is read as a
double, and may be out of range.

* `Numeral` — the parts of a number; `Numeral.toNumber?` — its value.
* `numeral` — a number, after its sign.
* `skipNumeral` — a number that nobody asks for, whose range does not matter.
-/

namespace SourceScan.Json

/-- The text after its leading digits. -/
def afterDigits (text : List Char) : List Char := text.dropWhile Char.isDigit

theorem length_afterDigits_le (text : List Char) : (afterDigits text).length ≤ text.length :=
  (List.dropWhile_sublist Char.isDigit).length_le

/-- The text starts with a digit. -/
def startsWithDigit (text : List Char) : Bool := text.head?.any Char.isDigit

/-- **The parts of a number** without its sign. -/
structure Numeral where
  whole : List Char
  /-- The digits after the point, if there is one. -/
  fraction : Option (List Char)
  /-- The exponent, if there is one. -/
  exponent : Option Int
deriving DecidableEq, Repr

/-- **The value of a number.** -/
inductive Number where
  | integer (value : Int)
  | float (value : Double)
deriving DecidableEq, Repr

/-- The double that a number is read as, unless it is out of range. -/
def Numeral.toDouble? (numeral : Numeral) (negative : Bool) : Option Double :=
  Double.read? negative numeral.whole (numeral.fraction.getD []) (numeral.exponent.getD 0)

/-- The bound of the magnitude of a negative integer, which may reach it. -/
def negativeBound : Nat := 0x8000000000000000

/-- **The value of a number**: an integer if it is written as one and fits 64 bits with its sign,
else the double it is read as.  The zero with a minus is a double. -/
def Numeral.toNumber? (numeral : Numeral) (negative : Bool) : Option Number :=
  let double := (numeral.toDouble? negative).map Number.float
  match numeral.fraction, numeral.exponent with
  | none, none =>
    let value := decimal numeral.whole
    if negative then
      if 0 < value ∧ value ≤ negativeBound then some (.integer (-value)) else double
    else if value < wordBound then some (.integer value)
    else double
  | _, _ => double

/-- **The digits in front** of a text, as many as there are. -/
def leadingDigits (text : List Char) : Part text (List Char) :=
  ⟨digitRun text, afterDigits text, length_afterDigits_le text⟩

/-- **The whole part**: one digit, or several of which the first is not zero. -/
def whole : Reading (List Char)
  | [] => .error (.here (.ended .value) [])
  | c :: rest =>
    if ¬ c.isDigit then .error (.looking .invalidNumber (c :: rest))
    else if c = '0' then
      if startsWithDigit rest then .error (.looking .invalidNumber rest)
      else .ok (.one c rest [c])
    else .ok ((Read.one c rest ()).part ((leadingDigits rest).map (c :: ·)))

/-- **The fraction**, if there is one: a point and at least one digit. -/
def fraction : (text : List Char) → Except Fault (Part text (Option (List Char)))
  | '.' :: rest =>
    if startsWithDigit rest then .ok (((leadingDigits rest).map some).after '.')
    else if rest = [] then .error (.here (.ended .value) [])
    else .error (.looking .invalidNumber rest)
  | _ => .ok (.empty none)

/-- The largest exponent that a number other than zero may have. -/
def largestExponent : Nat := 0x7FFFFFFF

/-- **The digits of an exponent**, after the value of those already read; where it is limited, the
digit that takes it too far is the fault. -/
def exponentDigits (limited : Bool) (value : Nat) : (text : List Char) →
    Except Fault (Part text Nat)
  | [] => .ok (.empty value)
  | c :: rest =>
    if c.isDigit then
      let value := value * 10 + (c.toNat - '0'.toNat)
      if limited && decide (largestExponent < value) then .error (.here .numberOutOfRange rest)
      else do
        let read ← exponentDigits limited value rest
        .ok (read.after c)
    else .ok (.empty value)

/-- **The sign in front of an exponent**, if there is one: whether it is a minus. -/
def signOf : (text : List Char) → Part text Bool
  | '+' :: rest => .one '+' rest false
  | '-' :: rest => .one '-' rest true
  | _ => .empty false

/-- **The exponent**, if there is one.  It is limited where it makes a number larger: no zero is out
of range, and no small number. -/
def exponent (isZero : Bool) : (text : List Char) → Except Fault (Part text (Option Int))
  | [] => .ok (.empty none)
  | c :: rest =>
    if c = 'e' ∨ c = 'E' then
      let sign := signOf rest
      match sign.rest with
      | [] => .error (.here (.ended .value) [])
      | digit :: others =>
        if ¬ digit.isDigit then .error (.looking .invalidNumber (digit :: others))
        else do
          let read ← exponentDigits (!sign.value && !isZero) 0 sign.rest
          .ok (((sign.next read).map fun value : Nat =>
            some (if sign.value then -(value : Int) else value)).after c)
    else .ok (.empty none)

/-- **A number**, after its sign. -/
def numeral (negative : Bool) : Reading Number := fun text => do
  let whole ← whole text
  let fraction ← fraction whole.rest
  let isZero := (whole.value ++ fraction.value.getD []).all (· == '0')
  let exponent ← exponent isZero fraction.rest
  match Numeral.toNumber? ⟨whole.value, fraction.value, exponent.value⟩ negative with
  | some value => .ok ((whole.part (fraction.next exponent)).map fun _ => value)
  | none => .error (.here .numberOutOfRange exponent.rest)

/-- The fraction of a number that nobody asks for. -/
def skipFraction : (text : List Char) → Except Fault (Part text Unit)
  | '.' :: rest =>
    if startsWithDigit rest then .ok (((leadingDigits rest).map fun _ => ()).after '.')
    else .error (.looking .invalidNumber rest)
  | _ => .ok (.empty ())

/-- The exponent of a number that nobody asks for. -/
def skipExponent : (text : List Char) → Except Fault (Part text Unit)
  | [] => .ok (.empty ())
  | c :: rest =>
    if c = 'e' ∨ c = 'E' then
      let sign := signOf rest
      if startsWithDigit sign.rest then
        .ok (((sign.next (leadingDigits sign.rest)).map fun _ => ()).after c)
      else .error (.looking .invalidNumber sign.rest)
    else .ok (.empty ())

/-- The whole part of a number that nobody asks for. -/
def skipWhole : Reading Unit
  | [] => .error (.here .invalidNumber [])
  | c :: rest =>
    if ¬ c.isDigit then .error (.looking .invalidNumber (c :: rest))
    else if c = '0' then
      if startsWithDigit rest then .error (.looking .invalidNumber rest)
      else .ok (.one c rest ())
    else .ok ((Read.one c rest ()).part ((leadingDigits rest).map fun _ => ()))

/-- **A number that nobody asks for**, after its sign. -/
def skipNumeral : Reading Unit := fun text => do
  let whole ← skipWhole text
  let fraction ← skipFraction whole.rest
  let exponent ← skipExponent fraction.rest
  .ok (whole.part (fraction.next exponent))

end SourceScan.Json
