import SourceScan.Proofs.Text.Place

/-!
# Proofs/Text/Origin — positions seen from another origin

A text that does not stand at the start of a source has its places further on: its lines and its
bytes are counted on from where it stands, and its columns on its first line only, because every
later line starts anew.

* `Position.shift_step` — changing the origin and stepping over a character commute.
* `Position.shift_advance_start` — the places of a text behind another one.
-/

namespace SourceScan.Position

/-- **Changing the origin and stepping over a character commute**, at a place of a source: lines and
columns are counted from 1. -/
theorem shift_step (origin : Position) {position : Position} (c : Char)
    (line : 1 ≤ position.line) (column : 1 ≤ position.column) :
    origin.shift (position.step c) = (origin.shift position).step c := by
  by_cases feed : c = '\n'
  · have lines : origin.line + (position.line + 1) - 1 = origin.line + position.line - 1 + 1 := by
      omega
    have later : position.line + 1 ≠ 1 := by omega
    simp only [step, if_pos feed, shift, lines, if_neg later, Nat.add_assoc]
  · have columns : origin.column + (position.column + 1) - 1 =
        origin.column + position.column - 1 + 1 := by omega
    simp only [step, if_neg feed, shift, columns, Nat.add_assoc]
    split <;> rfl

/-- **A text behind another one** has its places where the first one ends. -/
theorem shift_advance_start (origin : Position) (text : List Char) :
    origin.shift (start.advance text) = origin.advance text := by
  induction text using List.reverseRecOn with
  | nil => rfl
  | append_singleton text c ih =>
    have place := advance_start text
    have line : 1 ≤ (start.advance text).line := by rw [place]; exact Nat.le_add_right _ _
    have column : 1 ≤ (start.advance text).column := by rw [place]; exact Nat.le_add_right _ _
    rw [advance_append, advance_append, ← ih]
    exact shift_step origin c line column

end SourceScan.Position
