import SourceScan.Json.Numeral
import SourceScan.Proofs.Json.Reads

/-!
# Proofs/Json/Numeral — reading numbers

A number is read as far as it goes, so a text that is written as one is read as that number only if
it does not go on: what follows is no digit, no point and no mark of an exponent.

* `Delimited` — what may follow a number.
* `digits_digitRun`, `leadingDigits_append` — a run of digits.
* `digits_of_whole`, `fraction_of_fraction`, `exponent_of_skipExponent` — the parts of a number.
* `unsigned_of_skipNumeral`, `Figures.Unsigned.skipNumeral` — a number that nobody asks for.
* `unsigned_of_numeral`, `Figures.Unsigned.numeral` — a number that is an integer without a sign.
-/

namespace SourceScan.Json

variable {text rest : List Char}

/-- **A number ends** where the rest starts: with no digit, no point and no exponent. -/
def Delimited (rest : List Char) : Prop :=
  ∀ c ∈ rest.head?, c.isDigit = false ∧ c ≠ '.' ∧ c ≠ 'e' ∧ c ≠ 'E'

/-- No digit is at the start of what delimits a number. -/
theorem Delimited.startsWithDigit (delimited : Delimited rest) : startsWithDigit rest = false := by
  cases rest with
  | nil => rfl
  | cons c rest => exact (delimited c rfl).1

/-! ## Runs of digits -/

/-- **The run in front** of a text that starts with a digit. -/
theorem digits_digitRun (starts : startsWithDigit text = true) :
    Digits (digitRun text) text (afterDigits text) := by
  refine ⟨?_, allDigits_digitRun text, List.takeWhile_append_dropWhile.symm⟩
  cases text with
  | nil => cases starts
  | cons c text =>
    have digit : c.isDigit = true := starts
    rw [digitRun, List.takeWhile_cons_of_pos digit]
    exact List.cons_ne_nil _ _

/-- A run with a digit in front. -/
theorem digits_cons_digitRun {c : Char} (digit : c.isDigit = true) (text : List Char) :
    Digits (c :: digitRun text) (c :: text) (afterDigits text) :=
  ⟨List.cons_ne_nil _ _, allDigits_cons.mpr ⟨digit, allDigits_digitRun text⟩,
    congrArg (c :: ·) List.takeWhile_append_dropWhile.symm⟩

/-- Digits in front of no digit are all the digits in front. -/
theorem leadingDigits_append {digits : List Char} (all : AllDigits digits)
    (ends : startsWithDigit rest = false) :
    (leadingDigits (digits ++ rest)).value = digits ∧
      (leadingDigits (digits ++ rest)).rest = rest := by
  have stop : ∀ c ∈ rest.head?, ¬ c.isDigit = true := by
    intro c first
    rw [startsWithDigit, Option.mem_def.mp first] at ends
    exact Bool.eq_false_iff.mp ends
  have left : afterDigits (digits ++ rest) = rest := by
    rw [afterDigits, List.dropWhile_append_of_pos all]
    cases rest with
    | nil => rfl
    | cons c rest => exact List.dropWhile_cons_of_neg (stop c rfl)
  exact ⟨digitRun_append all stop, left⟩

/-- **A run of digits** starts with one. -/
theorem Digits.startsWithDigit {digits : List Char} (run : Digits digits text rest) :
    startsWithDigit text = true := by
  obtain ⟨nonempty, all, rfl⟩ := run
  obtain ⟨c, digits, rfl⟩ := List.exists_cons_of_ne_nil nonempty
  exact (allDigits_cons.mp all).1

/-! ## The parts of a number -/

/-- **The whole part** is read as its digits. -/
theorem digits_of_whole {digits : List Char} (reads : Reads (whole text) digits rest) :
    Digits digits text rest ∧ (digits.head? = some '0' → digits = ['0']) := by
  rw [whole.eq_def] at reads
  split at reads
  · exact absurd reads not_reads_error
  rename_i c text
  split at reads
  · exact absurd reads not_reads_error
  rename_i digit
  rw [Classical.not_not] at digit
  split at reads
  · rename_i zero
    split at reads
    · exact absurd reads not_reads_error
    · obtain ⟨same, rfl⟩ := reads_ok.mp reads
      obtain rfl : [c] = digits := same
      exact ⟨⟨List.cons_ne_nil _ _, allDigits_cons.mpr ⟨digit, by simp [AllDigits]⟩, rfl⟩,
        fun _ => by rw [zero]⟩
  · rename_i notZero
    obtain ⟨rfl, rfl⟩ := reads_ok.mp reads
    exact ⟨digits_cons_digitRun digit text, fun zero => absurd (Option.some.inj zero) notZero⟩

/-- **The whole part is read** up to what is no digit. -/
theorem Digits.whole {digits : List Char} (run : Digits digits text rest)
    (zero : digits.head? = some '0' → digits = ['0']) (ends : Json.startsWithDigit rest = false) :
    Reads (whole text) digits rest := by
  obtain ⟨nonempty, all, rfl⟩ := run
  obtain ⟨c, digits, rfl⟩ := List.exists_cons_of_ne_nil nonempty
  obtain ⟨digit, others⟩ := allDigits_cons.mp all
  rw [List.cons_append, Json.whole, if_neg (not_not_intro digit)]
  by_cases same : c = '0'
  · obtain rfl : digits = [] := List.tail_eq_of_cons_eq (zero (congrArg some same))
    rw [if_pos same, List.nil_append, if_neg (Bool.eq_false_iff.mp ends)]
    exact reads_ok.mpr ⟨rfl, rfl⟩
  · obtain ⟨run, left⟩ := leadingDigits_append others ends
    rw [if_neg same, reads_ok]
    exact ⟨congrArg (c :: ·) run, left⟩

/-- A whole part that nobody asks for is read as any other. -/
theorem reads_skipWhole :
    Reads (skipWhole text) () rest ↔ ∃ digits, Reads (whole text) digits rest := by
  cases text with
  | nil => simp [skipWhole, whole]
  | cons c text =>
    rw [skipWhole, whole]
    split
    · simp
    split
    · split
      · simp
      · simp [Read.one]
    · simp [Read.part, Part.map]

/-- **A fraction** is read as its digits. -/
theorem fraction_of_fraction {digits : Option (List Char)}
    (leaves : Leaves (fraction text) digits rest) : Fraction digits text rest := by
  rw [fraction.eq_def] at leaves
  split at leaves
  · split at leaves
    · rename_i starts
      obtain ⟨rfl, rfl⟩ := leaves_ok.mp leaves
      exact .point (digits_digitRun starts)
    split at leaves <;> exact absurd leaves not_leaves_error
  · obtain ⟨rfl, rfl⟩ := leaves_ok.mp leaves
    exact .none

/-- **A fraction is read** up to what is no digit, where a missing one is followed by no point. -/
theorem Fraction.fraction {digits : Option (List Char)} (written : Fraction digits text rest)
    (ends : startsWithDigit rest = false) (noPoint : rest.head? ≠ some '.') :
    Leaves (fraction text) digits rest := by
  cases written with
  | none =>
    rw [fraction.eq_def]
    split
    · exact absurd rfl noPoint
    · exact leaves_ok.mpr ⟨rfl, rfl⟩
  | point run =>
    rw [Json.fraction, if_pos run.startsWithDigit, leaves_ok]
    obtain ⟨-, all, rfl⟩ := run
    obtain ⟨run, left⟩ := leadingDigits_append all ends
    exact ⟨congrArg some run, left⟩

/-- A fraction that nobody asks for is read as any other. -/
theorem leaves_skipFraction :
    Leaves (skipFraction text) () rest ↔ ∃ digits, Leaves (fraction text) digits rest := by
  rw [skipFraction.eq_def, fraction.eq_def]
  split
  · split
    · simp [Part.after, Part.map]
    · split <;> simp
  · simp [Part.empty]

/-- The sign of an exponent is read. -/
theorem sign_signOf (text : List Char) : Sign (signOf text).value text (signOf text).rest := by
  rw [signOf.eq_def]
  split
  · exact .plus
  · exact .minus
  · exact .none

/-- The sign of an exponent ends where its digits start. -/
theorem Sign.signOf {minus : Bool} {unsigned : List Char} (sign : Sign minus text unsigned)
    (starts : startsWithDigit unsigned = true) :
    (signOf text).value = minus ∧ (signOf text).rest = unsigned := by
  cases sign with
  | plus => exact ⟨rfl, rfl⟩
  | minus => exact ⟨rfl, rfl⟩
  | none =>
    rw [signOf.eq_def]
    split
    · cases starts
    · cases starts
    · exact ⟨rfl, rfl⟩

/-- **An exponent that nobody asks for** is one. -/
theorem exponent_of_skipExponent (leaves : Leaves (skipExponent text) () rest) :
    ∃ exponent, Exponent exponent text rest := by
  rw [skipExponent.eq_def] at leaves
  split at leaves
  · obtain ⟨-, rfl⟩ := leaves_ok.mp leaves
    exact ⟨none, .none⟩
  rename_i c text
  split at leaves
  · rename_i mark
    dsimp only at leaves
    split at leaves
    · rename_i starts
      obtain ⟨-, rfl⟩ := leaves_ok.mp leaves
      exact ⟨_, .marked mark (sign_signOf text) (digits_digitRun starts)⟩
    · exact absurd leaves not_leaves_error
  · obtain ⟨-, rfl⟩ := leaves_ok.mp leaves
    exact ⟨none, .none⟩

/-- **An exponent that nobody asks for is read** up to where the number ends. -/
theorem Exponent.skipExponent {exponent : Option (Bool × List Char)}
    (written : Exponent exponent text rest) (delimited : Delimited rest) :
    Leaves (skipExponent text) () rest := by
  cases written with
  | none =>
    cases text with
    | nil => exact leaves_ok.mpr ⟨rfl, rfl⟩
    | cons c text =>
      obtain ⟨-, -, small, large⟩ := delimited c rfl
      rw [Json.skipExponent, if_neg (not_or.mpr ⟨small, large⟩)]
      exact leaves_ok.mpr ⟨rfl, rfl⟩
  | marked mark sign run =>
    obtain ⟨-, left⟩ := sign.signOf run.startsWithDigit
    have starts := left ▸ run.startsWithDigit
    simp only [Json.skipExponent, if_pos mark, if_pos starts, leaves_ok, true_and]
    obtain ⟨-, all, same⟩ := run
    show afterDigits (Json.signOf _).rest = rest
    rw [left, same]
    exact (leadingDigits_append all delimited.startsWithDigit).2

/-! ## Numbers -/

theorem isSpace_of_isDigit {c : Char} (digit : c.isDigit = true) : isSpace c = false := by
  rw [← Bool.not_eq_true, isSpace_eq_true_iff]
  intro blank
  simp only [List.mem_cons, List.not_mem_nil, or_false] at blank
  obtain rfl | rfl | rfl | rfl := blank <;> cases digit

/-- **A number without its sign** starts with a digit. -/
theorem Figures.Unsigned.starts {figures : Figures} (written : figures.Unsigned text rest) :
    ∃ c after, text = c :: after ∧ c.isDigit = true := by
  obtain ⟨_, _, ⟨nonempty, all, rfl⟩, -⟩ := written.parts
  obtain ⟨c, digits, same⟩ := List.exists_cons_of_ne_nil nonempty
  rw [same] at all ⊢
  exact ⟨c, _, List.cons_append, (allDigits_cons.mp all).1⟩

/-- An exponent, or what follows a number without one, starts with no digit and no point. -/
theorem Exponent.starts {exponent : Option (Bool × List Char)}
    (written : Exponent exponent text rest) (delimited : Delimited rest) :
    startsWithDigit text = false ∧ text.head? ≠ some '.' := by
  cases written with
  | none => exact ⟨delimited.startsWithDigit, fun point => (delimited '.' point).2.1 rfl⟩
  | marked mark _ _ => obtain rfl | rfl := mark <;> exact ⟨rfl, by simp⟩

/-- A fraction, or what follows one that is missing, starts with no digit. -/
theorem Fraction.startsWithDigit {digits : Option (List Char)} (written : Fraction digits text rest)
    (ends : startsWithDigit rest = false) : Json.startsWithDigit text = false := by
  cases written with
  | none => exact ends
  | point _ => rfl

/-- **A number that nobody asks for** is one, with either sign. -/
theorem unsigned_of_skipNumeral (reads : Reads (skipNumeral text) () rest) (minus : Bool) :
    ∃ figures : Figures, figures.minus = minus ∧ figures.Unsigned text rest := by
  obtain ⟨foundWhole, readWhole, reads⟩ := reads_bind.mp reads
  obtain ⟨foundFraction, readFraction, reads⟩ := reads_bind.mp reads
  obtain ⟨foundExponent, readExponent, reads⟩ := reads_bind.mp reads
  obtain ⟨-, rfl⟩ := reads_ok.mp reads
  obtain ⟨whole, isWhole⟩ := reads_skipWhole.mp ⟨foundWhole, readWhole, rfl, rfl⟩
  obtain ⟨fraction, isFraction⟩ := leaves_skipFraction.mp ⟨foundFraction, readFraction, rfl, rfl⟩
  obtain ⟨exponent, isExponent⟩ := exponent_of_skipExponent ⟨foundExponent, readExponent, rfl, rfl⟩
  obtain ⟨run, zero⟩ := digits_of_whole isWhole
  exact ⟨⟨minus, whole, fraction, exponent⟩, rfl,
    ⟨_, _, run, fraction_of_fraction isFraction, isExponent⟩, zero⟩

/-- **A number that nobody asks for is read** up to where it ends. -/
theorem Figures.Unsigned.skipNumeral {figures : Figures} (written : figures.Unsigned text rest)
    (delimited : Delimited rest) : Reads (skipNumeral text) () rest := by
  obtain ⟨⟨afterWhole, afterFraction, run, fraction, exponent⟩, zero⟩ := written
  obtain ⟨ends, noPoint⟩ := exponent.starts delimited
  obtain ⟨foundWhole, readWhole, -, rfl⟩ :=
    reads_skipWhole.mpr ⟨_, run.whole zero (fraction.startsWithDigit ends)⟩
  obtain ⟨foundFraction, readFraction, -, rfl⟩ :=
    leaves_skipFraction.mpr ⟨_, fraction.fraction ends noPoint⟩
  obtain ⟨foundExponent, readExponent, -, rfl⟩ := exponent.skipExponent delimited
  rw [Json.skipNumeral, reads_bind]
  refine ⟨foundWhole, readWhole, reads_bind.mpr ⟨foundFraction, readFraction, ?_⟩⟩
  exact reads_bind.mpr ⟨foundExponent, readExponent, reads_ok.mpr ⟨rfl, rfl⟩⟩

/-- A double is no integer. -/
theorem map_float_ne_integer {double : Option Double} {value : Int} :
    double.map Number.float ≠ some (.integer value) := by
  cases double <;> simp

/-- **A number without a sign is an integer** if it has neither fraction nor exponent and fits 64
bits. -/
theorem toNumber?_eq_integer_iff {numeral : Numeral} {value : Int} :
    numeral.toNumber? false = some (.integer value) ↔ numeral.fraction = none ∧
      numeral.exponent = none ∧ decimal numeral.whole < 2 ^ 64 ∧ decimal numeral.whole = value := by
  obtain ⟨whole, _ | fraction, _ | exponent⟩ := numeral
  · change (if decimal whole < 2 ^ 64 then some (Number.integer (decimal whole)) else _) = _ ↔ _
    split
    · rename_i small
      simp only [Option.some.injEq, Number.integer.injEq, small, true_and]
    · rename_i large
      exact iff_of_false map_float_ne_integer fun found => large found.2.2.1
  all_goals exact iff_of_false map_float_ne_integer (by simp)

/-- **A number with a sign is an integer** only below zero. -/
theorem neg_of_toNumber?_eq_integer {numeral : Numeral} {value : Int}
    (found : numeral.toNumber? true = some (.integer value)) : value < 0 := by
  obtain ⟨whole, _ | fraction, _ | exponent⟩ := numeral
  · change (if 0 < decimal whole ∧ decimal whole ≤ negativeBound
      then some (Number.integer (-decimal whole)) else _) = _ at found
    split at found
    · rename_i range
      obtain rfl := Number.integer.inj (Option.some.inj found)
      omega
    · exact absurd found map_float_ne_integer
  all_goals exact absurd found map_float_ne_integer

/-- An exponent that is missing leaves the text as it is. -/
theorem exponent_none_of_exponent {isZero : Bool}
    (leaves : Leaves (exponent isZero text) none rest) : Exponent none text rest := by
  rw [exponent.eq_def] at leaves
  split at leaves
  · obtain ⟨-, rfl⟩ := leaves_ok.mp leaves
    exact .none
  split at leaves
  · dsimp only at leaves
    split at leaves
    · exact absurd leaves not_leaves_error
    split at leaves
    · exact absurd leaves not_leaves_error
    · obtain ⟨_, -, leaves⟩ := leaves_bind.mp leaves
      exact nomatch (leaves_ok.mp leaves).1
  · obtain ⟨-, rfl⟩ := leaves_ok.mp leaves
    exact .none

/-- There is no exponent where a number ends. -/
theorem Delimited.exponent (delimited : Delimited rest) (isZero : Bool) :
    Leaves (exponent isZero rest) none rest := by
  cases rest with
  | nil => exact leaves_ok.mpr ⟨rfl, rfl⟩
  | cons c rest =>
    obtain ⟨-, -, small, large⟩ := delimited c rfl
    rw [Json.exponent, if_neg (not_or.mpr ⟨small, large⟩)]
    exact leaves_ok.mpr ⟨rfl, rfl⟩

/-- **An integer without a sign** is read from its digits alone. -/
theorem unsigned_of_numeral {value : Int}
    (reads : Reads (numeral false text) (.integer value) rest) :
    ∃ digits, Figures.Unsigned ⟨false, digits, none, none⟩ text rest ∧
      decimal digits < 2 ^ 64 ∧ decimal digits = value := by
  obtain ⟨foundWhole, readWhole, reads⟩ := reads_bind.mp reads
  obtain ⟨foundFraction, readFraction, reads⟩ := reads_bind.mp reads
  obtain ⟨foundExponent, readExponent, reads⟩ := reads_bind.mp reads
  split at reads
  · rename_i number found
    obtain ⟨same, rfl⟩ := reads_ok.mp reads
    obtain rfl : number = .integer value := same
    obtain ⟨noFraction, noExponent, small, rfl⟩ := toNumber?_eq_integer_iff.mp found
    obtain ⟨run, zero⟩ := digits_of_whole ⟨foundWhole, readWhole, rfl, rfl⟩
    have fraction := fraction_of_fraction ⟨foundFraction, readFraction, noFraction, rfl⟩
    have exponent := exponent_none_of_exponent ⟨foundExponent, readExponent, noExponent, rfl⟩
    exact ⟨foundWhole.value, ⟨⟨_, _, run, fraction, exponent⟩, zero⟩, small, rfl⟩
  · exact absurd reads not_reads_error

/-- An integer with a sign is read only below zero. -/
theorem neg_of_numeral {value : Int} (reads : Reads (numeral true text) (.integer value) rest) :
    value < 0 := by
  obtain ⟨_, -, reads⟩ := reads_bind.mp reads
  obtain ⟨_, -, reads⟩ := reads_bind.mp reads
  obtain ⟨_, -, reads⟩ := reads_bind.mp reads
  split at reads
  · rename_i number found
    obtain rfl : number = .integer value := (reads_ok.mp reads).1
    exact neg_of_toNumber?_eq_integer found
  · exact absurd reads not_reads_error

/-- **An integer without a sign is read** up to where it ends, if it fits 64 bits. -/
theorem Figures.Unsigned.numeral {digits : List Char}
    (written : Figures.Unsigned ⟨false, digits, none, none⟩ text rest)
    (delimited : Delimited rest) (small : decimal digits < 2 ^ 64) :
    Reads (numeral false text) (.integer (decimal digits)) rest := by
  obtain ⟨⟨afterWhole, afterFraction, run, ⟨⟩, ⟨⟩⟩, zero⟩ := written
  have ends := delimited.startsWithDigit
  have noPoint : rest.head? ≠ some '.' := fun point => (delimited '.' point).2.1 rfl
  obtain ⟨foundWhole, readWhole, rfl, rfl⟩ := run.whole zero ends
  obtain ⟨foundFraction, readFraction, noFraction, left⟩ := Fraction.none.fraction ends noPoint
  rw [Json.numeral, reads_bind]
  refine ⟨foundWhole, readWhole, reads_bind.mpr ⟨foundFraction, readFraction, ?_⟩⟩
  obtain ⟨foundExponent, readExponent, noExponent, rest⟩ := (left.symm ▸ delimited).exponent
    ((foundWhole.value ++ foundFraction.value.getD []).all (· == '0'))
  refine reads_bind.mpr ⟨foundExponent, readExponent, ?_⟩
  have integer :
      Numeral.toNumber? ⟨foundWhole.value, foundFraction.value, foundExponent.value⟩ false =
        some (.integer (decimal foundWhole.value)) :=
    toNumber?_eq_integer_iff.mpr ⟨noFraction, noExponent, small, rfl⟩
  rw [integer]
  exact reads_ok.mpr ⟨rfl, rest.trans left⟩

end SourceScan.Json
