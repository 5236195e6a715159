/-!
# Number/Decimal — runs of decimal digits

A **run** is a text of decimal digits.  It says a number, and every text starts with one, which
may be empty: its digits up to the first character that is none.

* `decimal` — the number a run says.
* `digitRun` — the run a text starts with.
-/

namespace SourceScan

/-- **The number a run of digits says.** -/
def decimal (digits : List Char) : Nat := Nat.ofDigitChars 10 digits 0

/-- A text of digits alone. -/
def AllDigits (text : List Char) : Prop := ∀ c ∈ text, c.isDigit = true

theorem allDigits_cons {c : Char} {text : List Char} :
    AllDigits (c :: text) ↔ c.isDigit = true ∧ AllDigits text :=
  List.forall_mem_cons

/-- The digits a text starts with. -/
def digitRun (text : List Char) : List Char := text.takeWhile Char.isDigit

/-- The digits a text starts with are digits. -/
theorem allDigits_digitRun (text : List Char) : AllDigits (digitRun text) :=
  List.all_eq_true.mp List.all_takeWhile

/-- A run of digits ends where no digit follows. -/
theorem digitRun_append {digits rest : List Char} (all : AllDigits digits)
    (stop : ∀ c ∈ rest.head?, ¬ c.isDigit = true) : digitRun (digits ++ rest) = digits := by
  rw [digitRun, List.takeWhile_append_of_pos all]
  cases rest with
  | nil => exact List.append_nil digits
  | cons c rest => rw [List.takeWhile_cons_of_neg (stop c rfl), List.append_nil]

end SourceScan
