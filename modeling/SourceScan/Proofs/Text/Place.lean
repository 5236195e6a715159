import Mathlib.Data.List.DropRight
import SourceScan.Proofs.Text.Bytes

/-!
# Proofs/Text/Place — the closed form of a position

A position is kept by stepping over one character after another.  What it says is a fact about the
text in front of it: how many line feeds it holds, how many characters follow the last of them, and
how many bytes it has.

* `Position.advance_start` — the position after a text, in closed form.
* `Position.line_advance_start_le`, `column_advance_start_le` — lines and columns are no more than
  bytes.
* `Position.IsPlaceOf` — a position that says of some boundary of a source just that.
-/

namespace SourceScan.Position

/-- The characters of a text behind its last line feed. -/
def lastLine (text : List Char) : List Char := text.rtakeWhile (· ≠ '\n')

/-- **The position after a text**: its line feeds, its last line and its bytes counted. -/
theorem advance_start (text : List Char) :
    start.advance text =
      ⟨1 + text.count '\n', 1 + (lastLine text).length, byteLength text⟩ := by
  induction text using List.reverseRecOn with
  | nil => rfl
  | append_singleton text c ih =>
    rw [advance_append, ih, advance_cons, advance_nil, step]
    by_cases feed : c = '\n'
    · have last : lastLine (text ++ [c]) = [] := by
        rw [lastLine, List.rtakeWhile_concat, if_neg (by simpa using feed)]
      rw [if_pos feed, last]
      simp [feed, Nat.add_assoc]
    · have last : lastLine (text ++ [c]) = lastLine text ++ [c] := by
        rw [lastLine, List.rtakeWhile_concat, if_pos (by simpa using feed), lastLine]
      rw [if_neg feed, last]
      simp [feed, Nat.add_assoc]

/-- The line after a text is bounded by the bytes of the text… -/
theorem line_advance_start_le (text : List Char) :
    (start.advance text).line ≤ 1 + byteLength text := by
  have feeds : text.count '\n' ≤ text.length := List.count_le_length
  rw [advance_start]
  exact Nat.add_le_add_left (feeds.trans (length_le_byteLength text)) 1

/-- …and so is the column. -/
theorem column_advance_start_le (text : List Char) :
    (start.advance text).column ≤ 1 + byteLength text := by
  have last : (lastLine text).length ≤ text.length := (List.rtakeWhile_suffix _ _).length_le
  rw [advance_start]
  exact Nat.add_le_add_left (last.trans (length_le_byteLength text)) 1

/-- The offset behind a string is its size. -/
theorem offset_advance_toList (before : String) :
    (start.advance before.toList).offset = before.utf8ByteSize := by
  rw [advance_start]
  exact byteLength_toList before

/-- **The position of a boundary of a source**: with the text in front of it, the offset is its size
in bytes, the line is one more than its line feeds, and the column is one more than the characters
of its last line. -/
def IsPlaceOf (position : Position) (source : String) : Prop :=
  ∃ before after : String, source = before ++ after ∧
    position.offset = before.utf8ByteSize ∧
    position.line = 1 + before.toList.count '\n' ∧
    position.column = 1 + (lastLine before.toList).length

/-- **Advancing over the front of a source** ends at a place of it. -/
theorem isPlaceOf_advance {source : String} {before after : List Char}
    (split : source.toList = before ++ after) : (start.advance before).IsPlaceOf source := by
  refine ⟨String.ofList before, String.ofList after, eq_ofList_append split, ?_⟩
  rw [← byteLength_toList, String.toList_ofList, advance_start]
  exact ⟨rfl, rfl, rfl⟩

end SourceScan.Position
