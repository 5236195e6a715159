import SourceScan.Proofs.Lex.Grammar
import SourceScan.Proofs.Text.Place

/-!
# Proofs/Lex/Wording — the wording of an error is short

The wording of an error says its line and its column, and then its cause.  The numbers in it count
parts of the source, so they have few digits, and of a run of digits that is too large no more than
the first twenty are said.  The run itself can be found in the source: it starts where the error
lies, and the error says how long it is.

* `utf8ByteSize_repr_le` — a number takes no more bytes than places.
* `Cause.Starts.utf8ByteSize_message_le`, `utf8ByteSize_message_le` — the wording is bounded.
* `LargeRun`, `exists_largeRun` — the run of digits an error stands for.
* `scan_error_wording` — both together.
-/

namespace SourceScan

open LexError

/-- **A number takes no more bytes than places.** -/
theorem utf8ByteSize_repr_le {value places : Nat} (positive : 0 < places)
    (small : value < 10 ^ places) : value.repr.utf8ByteSize ≤ places := by
  rw [← byteLength_toList, Nat.toList_repr, byteLength_of_allDigits (allDigits_toDigits value)]
  exact (Nat.length_toDigits_le_iff (by decide) positive).mpr small

/-- **A number that is too large has nineteen digits** at least. -/
theorem le_length_of_lt_decimal {digits : List Char} (all : AllDigits digits)
    (large : 2 ^ 63 - 1 < decimal digits) : 19 ≤ digits.length := by
  have below : 10 ^ 18 < 10 ^ digits.length := by
    have := decimal_lt all
    omega
  exact (Nat.pow_lt_pow_iff_right (by decide)).mp below

namespace LexError

/-- An error keeps no more than twenty bytes of a run of digits. -/
theorem Cause.Starts.utf8ByteSize_leading_le {leading : String} {count : Nat} {rest : List Char}
    (starts : (Cause.overflow leading count).Starts rest) : leading.utf8ByteSize ≤ 20 := by
  obtain ⟨-, rfl, rfl⟩ := starts
  rw [← byteLength_toList, String.toList_ofList,
    byteLength_of_allDigits ((allDigits_digitRun rest).take _), List.length_take]
  exact (Nat.min_le_left _ _).trans (Nat.min_le_left _ _)

/-- A run of digits is no longer than the text it starts. -/
theorem Cause.Starts.count_le {leading : String} {count : Nat} {rest : List Char}
    (starts : (Cause.overflow leading count).Starts rest) : count ≤ byteLength rest := by
  obtain ⟨-, rfl, -⟩ := starts
  exact (List.takeWhile_prefix Char.isDigit).length_le.trans (length_le_byteLength rest)

/-- **The wording of a cause is short**, in a source that is not too long to count. -/
theorem Cause.Starts.utf8ByteSize_message_le {cause : Cause} {rest : List Char}
    (starts : cause.Starts rest) (size : byteLength rest < 10 ^ 19) :
    cause.message.utf8ByteSize ≤ 83 := by
  cases cause with
  | unrecognized c =>
    have wording : message (.unrecognized c) =
        "Scanner encountered unrecognized character '" ++ c.toString ++ "'" := rfl
    have words : "Scanner encountered unrecognized character '".utf8ByteSize = 44 := rfl
    have close : "'".utf8ByteSize = 1 := rfl
    have character := c.utf8Size_le_four
    calc (message (.unrecognized c)).utf8ByteSize
        _ = 44 + c.utf8Size + 1 := by
          rw [wording, String.utf8ByteSize_append, String.utf8ByteSize_append, words, close,
            Char.toString_eq_singleton, String.utf8ByteSize_singleton]
        _ ≤ 83 := by omega
  | unterminated => decide
  | overflow leading count =>
    have wording : message (.overflow leading count) =
        "integer literal '" ++ leading ++ "...' (" ++ count.repr ++ " digits) is too large" := rfl
    have words : "integer literal '".utf8ByteSize = 17 := rfl
    have dots : "...' (".utf8ByteSize = 6 := rfl
    have close : " digits) is too large".utf8ByteSize = 21 := rfl
    have front : leading.utf8ByteSize ≤ 20 := starts.utf8ByteSize_leading_le
    have number : count.repr.utf8ByteSize ≤ 19 :=
      utf8ByteSize_repr_le (by decide) (starts.count_le.trans_lt size)
    calc (message (.overflow leading count)).utf8ByteSize
        _ = 17 + leading.utf8ByteSize + 6 + count.repr.utf8ByteSize + 21 := by
          simp only [wording, String.utf8ByteSize_append, words, dots, close]
        _ ≤ 83 := by omega

end LexError

namespace Lex

/-- **The wording of an error is short**, however long the source is that can be counted. -/
theorem utf8ByteSize_message_le {source : String} {error : LexError}
    (failed : scan source = .error error) (size : source.utf8ByteSize ≤ 2 ^ 63 - 1) :
    error.message.utf8ByteSize ≤ 128 := by
  obtain ⟨layout, rest, split, -, starts, place⟩ := scan_eq_error_iff.mp failed
  have whole : byteLength layout.text + byteLength rest ≤ 2 ^ 63 - 1 := by
    rw [← byteLength_append, ← split, byteLength_toList]
    exact size
  have line : error.position.line.repr.utf8ByteSize ≤ 19 := by
    have := Position.line_advance_start_le layout.text
    rw [place]
    exact utf8ByteSize_repr_le (by decide) (by omega)
  have column : error.position.column.repr.utf8ByteSize ≤ 19 := by
    have := Position.column_advance_start_le layout.text
    rw [place]
    exact utf8ByteSize_repr_le (by decide) (by omega)
  have cause : error.cause.message.utf8ByteSize ≤ 83 := starts.utf8ByteSize_message_le (by omega)
  have opening : "[".utf8ByteSize = 1 := rfl
  have colon : ":".utf8ByteSize = 1 := rfl
  have close : "] ".utf8ByteSize = 2 := rfl
  calc error.message.utf8ByteSize
      _ = 1 + error.position.line.repr.utf8ByteSize + 1 +
          error.position.column.repr.utf8ByteSize + 2 + error.cause.message.utf8ByteSize := by
        simp only [message, String.utf8ByteSize_append, opening, colon, close]
      _ ≤ 128 := by omega

/-- **A run of digits that is too large** stands in a source at an offset, and is as long as can
be: there is no digit in front of it and none behind it. -/
structure LargeRun (source : String) (offset : Nat) (run : List Char) : Prop where
  digits : AllDigits run
  large : 2 ^ 63 - 1 < decimal run
  whole : ∃ before after, source.toList = before ++ (run ++ after) ∧ byteLength before = offset ∧
    (∀ c ∈ before.getLast?, ¬ c.isDigit = true) ∧ ∀ c ∈ after.head?, ¬ c.isDigit = true

/-- **The run an error stands for** is the one where it lies, and the error keeps its first digits
and its length. -/
theorem exists_largeRun {source leading : String} {count : Nat} {position : Position}
    (failed : scan source = .error ⟨.overflow leading count, position⟩) :
    ∃ run, LargeRun source position.offset run ∧ count = run.length ∧
      leading.toList = run.take (min 20 count) := by
  obtain ⟨layout, rest, split, apart, ⟨large, rfl, rfl⟩, rfl⟩ := scan_eq_error_iff.mp failed
  obtain ⟨after, shape, all, stop⟩ := eq_takeWhile_append Char.isDigit rest
  refine ⟨digitRun rest, ⟨all, large, layout.text, after, ?_, ?_, ?_, stop⟩, rfl,
    String.toList_ofList⟩
  · rw [split]
    exact congrArg (layout.text ++ ·) shape
  · rw [Position.advance_start]
  · -- A digit in front would run into the first one of the run.
    intro c last digit
    obtain ⟨d, first⟩ : ∃ d, rest.head? = some d := by
      cases rest with
      | nil => exact absurd large (by decide)
      | cons d rest => exact ⟨d, rfl⟩
    have digit' : d.isDigit = true := Cause.Starts.isDigit_head large first
    exact apart ⟨c, last, d, first, (joins_of_isDigit digit).mpr digit'⟩

/-- **The wording of errors.**  If a source of no more than `2 ^ 63 - 1` bytes fails to scan, the
wording of its error has no more than 128 bytes.  An error that stands for a run of digits keeps its
first twenty digits, and says where in the source it is and how long, which is nineteen digits at
least. -/
theorem scan_error_wording {source : String} {error : LexError}
    (failed : scan source = .error error) :
    (source.utf8ByteSize ≤ 2 ^ 63 - 1 → error.message.utf8ByteSize ≤ 128) ∧
    ∀ leading count, error.cause = .overflow leading count →
      19 ≤ count ∧ AllDigits leading.toList ∧ leading.length = min 20 count ∧
      ∃ run, slice source.toList error.position.offset (error.position.offset + count) = some run ∧
        LargeRun source error.position.offset run ∧ leading.toList = run.take (min 20 count) := by
  refine ⟨utf8ByteSize_message_le failed, fun leading count overflow => ?_⟩
  obtain ⟨cause, position⟩ := error
  obtain rfl : cause = .overflow leading count := overflow
  obtain ⟨run, largeRun, rfl, front⟩ := exists_largeRun failed
  obtain ⟨before, after, split, size, -, -⟩ := largeRun.whole
  refine ⟨le_length_of_lt_decimal largeRun.digits largeRun.large, ?_, ?_, run, ?_, largeRun, front⟩
  · rw [front]
    exact largeRun.digits.take _
  · rw [← String.length_toList, front, List.length_take]
    omega
  · exact slice_append before run after split size
      (congrArg (position.offset + ·) (byteLength_of_allDigits largeRun.digits))

/-- Zeros in front of a number that is too large are digits of its run: twenty digits are kept of
twenty-two, and the run ends at the letter behind it. -/
theorem scan_error_wording_zeros :
    LexError.message ⟨.overflow "00092233720368547758" 22, ⟨2, 2, 5⟩⟩ =
      "[2:2] integer literal '00092233720368547758...' (22 digits) is too large" ∧
    (LexError.message ⟨.overflow "00092233720368547758" 22, ⟨2, 2, 5⟩⟩).utf8ByteSize ≤ 128 ∧
    AllDigits "00092233720368547758".toList ∧
    LargeRun "é;\n 0009223372036854775808x" 5 "0009223372036854775808".toList := by
  have failed : scan "é;\n 0009223372036854775808x" =
      .error ⟨.overflow "00092233720368547758" 22, ⟨2, 2, 5⟩⟩ := rfl
  obtain ⟨short, kept⟩ := scan_error_wording failed
  obtain ⟨-, digits, -, run, held, largeRun, -⟩ := kept _ _ rfl
  have sliced : slice "é;\n 0009223372036854775808x".toList 5 27 =
      some "0009223372036854775808".toList := by decide +kernel
  obtain rfl := Option.some.inj (sliced.symm.trans held)
  exact ⟨rfl, short (by decide), digits, largeRun⟩

end Lex

end SourceScan
