import SourceScan.Proofs.Lex.Result
import SourceScan.Proofs.Text.Origin

/-!
# Proofs/Lex/Origin — scanning behind another text

A scan carries nothing from one token to the next but its place.  So a text is scanned from any
origin as it is from the start, and the scan of two texts in a row is the scan of the first and then
that of the second, all places of which are seen from where the first ends.  The one condition is
that the first text does not run into the second.

* `SpannedToken.shift`, `LexError.shift` — what is found in a text, seen from another origin.
* `result_scanFrom_eq_shift` — the origin of a scan only shifts what it finds.
* `result_scanFrom_append` — two texts in a row.
* `scanSource_append` — the law for whole sources.
-/

namespace SourceScan

/-- A spanned token seen from another origin. -/
def SpannedToken.shift (origin : Position) (spanned : SpannedToken) : SpannedToken :=
  ⟨spanned.token, ⟨origin.shift spanned.span.start, origin.shift spanned.span.stop⟩⟩

/-- An error seen from another origin. -/
def LexError.shift (origin : Position) (error : LexError) : LexError :=
  ⟨error.cause, origin.shift error.position⟩

namespace Lex

/-- **The tokens of a layout are shifted with its origin**, also behind some text. -/
theorem Layout.map_shift_spanned (origin : Position) (layout : Layout) (before : List Char) :
    (layout.spanned (Position.start.advance before)).map (SpannedToken.shift origin) =
      layout.spanned (origin.advance before) := by
  induction layout generalizing before with
  | ofGap gap blank => rfl
  | cons piece layout clear ih =>
    have place (text : List Char) : origin.shift ((Position.start.advance before).advance text) =
        (origin.advance before).advance text := by
      rw [← Position.advance_append, Position.shift_advance_start, Position.advance_append]
    have later := ih (before ++ piece.text)
    rw [Position.advance_append, Position.advance_append] at later
    rw [spanned_cons, spanned_cons, List.map_cons, later, SpannedToken.shift, place, place]

/-- **The origin of a scan only shifts what it finds.** -/
theorem result_scanFrom_eq_shift (origin : Position) (text : List Char) :
    (scanFrom origin text).result =
      ((scanFrom Position.start text).result.map
        (List.map (SpannedToken.shift origin))).mapError (LexError.shift origin) := by
  obtain ⟨layout, rest, rfl, apart, rfl | ⟨cause, starts⟩⟩ := exists_layout text
  · rw [List.append_nil, result_scanFrom_text, result_scanFrom_text]
    exact congrArg Except.ok (layout.map_shift_spanned origin []).symm
  · rw [result_scanFrom_starts _ apart starts, result_scanFrom_starts _ apart starts,
      ← Position.shift_advance_start origin]
    rfl

/-- **Two texts in a row** are scanned one after the other, if the first does not run into the
second. -/
theorem result_scanFrom_append {origin : Position} {left right : List Char}
    {spanned : List SpannedToken} (scanned : (scanFrom origin left).result = .ok spanned)
    (apart : ¬ RunsInto left right) :
    (scanFrom origin (left ++ right)).result =
      (scanFrom (origin.advance left) right).result.map (spanned ++ ·) := by
  obtain ⟨layout, rfl, rfl⟩ := result_eq_ok_iff.mp scanned
  have waits : (Machine.begin origin).Waits := rfl
  have place : ((Machine.begin origin).through layout).position = origin.advance layout.text :=
    Machine.position_through _ layout
  have tokens : ((Machine.begin origin).through layout).produced =
      (layout.spanned origin).reverse ++ [] := Machine.produced_through _ layout
  rw [scanFrom_eq_run, Machine.run_layout waits layout apart,
    result_run_of_waits (Machine.waits_through waits layout), place, tokens, List.append_nil,
    List.reverse_reverse]

/-- **The law of concatenation.**  A source that scans, and does not run into what is put behind it,
keeps its tokens; what is put behind it is scanned as it is alone, with its tokens or its error seen
from where the first source ends. -/
theorem scanSource_append {left right : String} {spanned : List SpannedToken}
    (scanned : (scanSource left).result = .ok spanned)
    (apart : ¬ RunsInto left.toList right.toList) :
    (∀ later, (scanSource right).result = .ok later →
      (scanSource (left ++ right)).result =
        .ok (spanned ++ later.map (SpannedToken.shift (Position.start.advance left.toList)))) ∧
    ∀ error, (scanSource right).result = .error error →
      (scanSource (left ++ right)).result =
        .error (error.shift (Position.start.advance left.toList)) := by
  have whole : (scanSource (left ++ right)).result =
      (scanFrom (Position.start.advance left.toList) right.toList).result.map (spanned ++ ·) := by
    rw [scanSource, String.toList_append]
    exact result_scanFrom_append scanned apart
  rw [result_scanFrom_eq_shift, ← scanSource] at whole
  refine ⟨fun later found => ?_, fun error found => ?_⟩
  · rw [whole, found]
    rfl
  · rw [whole, found]
    rfl

/-- Behind a string that ends on the second line, columns are counted on from its end, and anew on
the third line; so is the place of an error. -/
theorem scanSource_append_multiline :
    (scanSource "\"x\n\"1 é\n;").result =
      .ok [⟨.string "x\n", ⟨1, 1, 0⟩, ⟨2, 2, 4⟩⟩, ⟨.integer 1, ⟨2, 2, 4⟩, ⟨2, 3, 5⟩⟩,
        ⟨.identifier "é", ⟨2, 4, 6⟩, ⟨2, 5, 8⟩⟩, ⟨.semicolon, ⟨3, 1, 9⟩, ⟨3, 2, 10⟩⟩] ∧
    (scanSource "\"x\n\"1\n \"").result = .error ⟨.unterminated, ⟨3, 2, 7⟩⟩ := by
  have quoted : (scanSource "\"x\n\"").result = .ok [⟨.string "x\n", ⟨1, 1, 0⟩, ⟨2, 2, 4⟩⟩] := rfl
  have ends (rest : List Char) : ¬ RunsInto "\"x\n\"".toList rest := by
    rintro ⟨c, last, d, -, joins⟩
    obtain rfl := Option.some.inj last
    exact not_joins_of_sign (by decide) joins
  exact ⟨(scanSource_append quoted (ends "1 é\n;".toList)).1
      [⟨.integer 1, ⟨1, 1, 0⟩, ⟨1, 2, 1⟩⟩, ⟨.identifier "é", ⟨1, 3, 2⟩, ⟨1, 4, 4⟩⟩,
        ⟨.semicolon, ⟨2, 1, 5⟩, ⟨2, 2, 6⟩⟩] rfl,
    (scanSource_append quoted (ends "1\n \"".toList)).2 ⟨.unterminated, ⟨2, 2, 3⟩⟩ rfl⟩

end Lex

end SourceScan
