import Mathlib.Algebra.Group.Nat.Defs
import SourceScan.Number.Decimal
import SourceScan.Text.Position

/-!
# Proofs/Number/Decimal — runs of decimal digits

A run of digits says a number; the number alone does not say the run, which may start with any
number of zeros.  The number and the length of the run do.

* `decimal_replicate_zero_append` — zeros in front change nothing.
* `eq_of_decimal_eq` — runs of one length that say the same number are the same run.
* `leftpad_toDigits_decimal` — a run is its number written out, with zeros up to its length.
* `repr_injective` — an integer written out is that integer alone.
-/

namespace SourceScan

/-- Zeros in front of digits are digits. -/
theorem AllDigits.replicate_zero_append {digits : List Char} (all : AllDigits digits)
    (zeros : Nat) : AllDigits (List.replicate zeros '0' ++ digits) := by
  intro c member
  obtain zero | digit := List.mem_append.mp member
  · rw [List.eq_of_mem_replicate zero]
    decide
  · exact all c digit

/-- The first digits of a run are digits. -/
theorem AllDigits.take {digits : List Char} (all : AllDigits digits) (count : Nat) :
    AllDigits (digits.take count) :=
  fun c member => all c (List.mem_of_mem_take member)

/-- The first digit counts for as many places as follow it. -/
theorem decimal_cons (c : Char) (digits : List Char) :
    decimal (c :: digits) = 10 ^ digits.length * (c.toNat - '0'.toNat) + decimal digits := by
  rw [decimal, Nat.ofDigitChars_cons, Nat.mul_zero, Nat.zero_add,
    Nat.ofDigitChars_eq_ofDigitChars_zero, decimal]

/-- **Zeros in front change nothing.** -/
theorem decimal_replicate_zero_append (zeros : Nat) (digits : List Char) :
    decimal (List.replicate zeros '0' ++ digits) = decimal digits := by
  rw [decimal, Nat.ofDigitChars_append, Nat.ofDigitChars_replicate_zero, Nat.mul_zero, decimal]

/-- Digits behind a run make its number no smaller. -/
theorem decimal_le_decimal_append (digits more : List Char) :
    decimal digits ≤ decimal (digits ++ more) := by
  have weight : 1 ≤ 10 ^ more.length := Nat.pow_pos (by decide)
  calc decimal digits
      _ ≤ 10 ^ more.length * decimal digits := Nat.le_mul_of_pos_left _ weight
      _ ≤ 10 ^ more.length * decimal digits + decimal more := Nat.le_add_right _ _
      _ = decimal (digits ++ more) := by
        rw [decimal, decimal, decimal, Nat.ofDigitChars_append,
          ← Nat.ofDigitChars_eq_ofDigitChars_zero]

/-- The number a run says has no more places than the run. -/
theorem decimal_lt {digits : List Char} (all : AllDigits digits) :
    decimal digits < 10 ^ digits.length := by
  induction digits with
  | nil => exact Nat.one_pos
  | cons c digits ih =>
    obtain ⟨first, rest⟩ := allDigits_cons.mp all
    have below : c.toNat - '0'.toNat ≤ 9 := by
      have := (Char.isDigit_iff_toNat.mp first).2
      have : '9'.toNat = '0'.toNat + 9 := rfl
      omega
    have scaled := Nat.mul_le_mul_left (10 ^ digits.length) below
    have small := ih rest
    rw [decimal_cons, List.length_cons, Nat.pow_succ]
    omega

/-- **Runs of one length that say the same number are the same run.** -/
theorem eq_of_decimal_eq {left right : List Char} (allLeft : AllDigits left)
    (allRight : AllDigits right) (size : left.length = right.length)
    (same : decimal left = decimal right) : left = right := by
  induction left generalizing right with
  | nil => exact (List.length_eq_zero_iff.mp size.symm).symm
  | cons c left ih =>
    obtain ⟨d, right, rfl⟩ := List.exists_cons_of_length_eq_add_one size.symm
    obtain ⟨first, allLeft⟩ := allDigits_cons.mp allLeft
    obtain ⟨first', allRight⟩ := allDigits_cons.mp allRight
    have size : left.length = right.length := Nat.succ.inj size
    have small := decimal_lt allLeft
    have small' := decimal_lt allRight
    rw [decimal_cons, decimal_cons, ← size] at same
    rw [← size] at small'
    -- The first digits are the quotients by the weight of the first place.
    have head : c.toNat - '0'.toNat = d.toNat - '0'.toNat := by
      have weight : 0 < 10 ^ left.length := Nat.pow_pos (by decide)
      have quotient := congrArg (· / 10 ^ left.length) same
      simpa only [Nat.mul_add_div weight, Nat.div_eq_of_lt small, Nat.div_eq_of_lt small',
        Nat.add_zero] using quotient
    have code : c.toNat = d.toNat := by
      have := (Char.isDigit_iff_toNat.mp first).1
      have := (Char.isDigit_iff_toNat.mp first').1
      omega
    rw [head] at same
    rw [Char.toNat_inj.mp code, ih allLeft allRight size (Nat.add_left_cancel same)]

theorem allDigits_toDigits (value : Nat) : AllDigits (Nat.toDigits 10 value) :=
  fun _ member => Nat.isDigit_of_mem_toDigits (by decide) (by decide) member

/-- **A number is read back** from its digits. -/
theorem decimal_toDigits (value : Nat) : decimal (Nat.toDigits 10 value) = value :=
  Nat.ofDigitChars_ten_toDigits

/-- **A run is its number written out**, with zeros in front up to its length. -/
theorem leftpad_toDigits_decimal {digits : List Char} (nonempty : digits ≠ [])
    (all : AllDigits digits) :
    (Nat.toDigits 10 (decimal digits)).leftpad digits.length '0' = digits := by
  have fits : (Nat.toDigits 10 (decimal digits)).length ≤ digits.length :=
    (Nat.length_toDigits_le_iff (by decide) (List.length_pos_iff.mpr nonempty)).mpr
      (decimal_lt all)
  refine eq_of_decimal_eq ?_ all ?_ ?_
  · exact (allDigits_toDigits _).replicate_zero_append _
  · rw [List.length_leftpad, Nat.max_eq_left fits]
  · rw [List.leftpad, decimal_replicate_zero_append]
    exact decimal_toDigits _

/-- A digit is one byte long, so a run has as many bytes as digits. -/
theorem byteLength_of_allDigits {digits : List Char} (all : AllDigits digits) :
    byteLength digits = digits.length := by
  induction digits with
  | nil => rfl
  | cons c digits ih =>
    obtain ⟨first, rest⟩ := allDigits_cons.mp all
    have ascii : c.utf8Size = 1 := by
      refine Char.utf8Size_eq_one_iff.mpr ?_
      have below := (Char.isDigit_iff_toNat.mp first).2
      exact Nat.le_trans below (by decide)
    rw [byteLength_cons, ih rest, ascii, List.length_cons, Nat.add_comm]

/-! ## Integers -/

theorem toList_repr_ofNat (value : Nat) :
    (Int.ofNat value).repr.toList = Nat.toDigits 10 value := Nat.toList_repr

theorem toList_repr_negSucc (value : Nat) :
    (Int.negSucc value).repr.toList = '-' :: Nat.toDigits 10 (value + 1) := by
  change ("-" ++ Nat.repr (value + 1)).toList = _
  rw [String.toList_append, Nat.toList_repr]
  rfl

/-- An integer is written with digits and a minus. -/
theorem isDigit_or_of_mem_repr {value : Int} {c : Char} (member : c ∈ value.repr.toList) :
    c = '-' ∨ c.isDigit = true := by
  cases value with
  | ofNat value =>
    rw [toList_repr_ofNat] at member
    exact .inr (allDigits_toDigits value c member)
  | negSucc value =>
    rw [toList_repr_negSucc] at member
    exact (List.mem_cons.mp member).imp_right (allDigits_toDigits (value + 1) c)

/-- **An integer written out is that integer alone.** -/
theorem repr_injective : Function.Injective Int.repr := by
  have unsigned {value : Nat} {digits : List Char}
      (same : Nat.toDigits 10 value = '-' :: digits) : False := by
    have minus : '-' ∈ Nat.toDigits 10 value := same ▸ List.mem_cons_self
    exact absurd (allDigits_toDigits value '-' minus) (by decide)
  intro value value' same
  have digits := congrArg String.toList same
  cases value with
  | ofNat value =>
    cases value' with
    | ofNat value' =>
      rw [toList_repr_ofNat, toList_repr_ofNat] at digits
      have number := congrArg decimal digits
      rw [decimal_toDigits, decimal_toDigits] at number
      rw [number]
    | negSucc value' =>
      rw [toList_repr_ofNat, toList_repr_negSucc] at digits
      exact (unsigned digits).elim
  | negSucc value =>
    cases value' with
    | ofNat value' =>
      rw [toList_repr_ofNat, toList_repr_negSucc] at digits
      exact (unsigned digits.symm).elim
    | negSucc value' =>
      rw [toList_repr_negSucc, toList_repr_negSucc] at digits
      have number := congrArg decimal (List.tail_eq_of_cons_eq digits)
      rw [decimal_toDigits, decimal_toDigits] at number
      rw [Nat.succ.inj number]

end SourceScan
