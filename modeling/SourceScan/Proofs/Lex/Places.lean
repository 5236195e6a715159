import SourceScan.Proofs.Lex.Grammar
import SourceScan.Proofs.Lex.Span

/-!
# Proofs/Lex/Places — every reported position is the place of a boundary

A scan reports the starts and the ends of its spans, or the position of its error.  All of them are
reached by advancing over the front of the source, so each is the place of a boundary: its line and
its column are counted off the text in front of it.

* `Outcome.positions` — the positions a scan reports.
* `isPlaceOf_of_mem_positions` — they are places of the source.
-/

namespace SourceScan.Lex

/-- **The positions that come of a scan**: the ends of its spans, or the place of its error. -/
def Outcome.positions (outcome : Outcome) : List Position :=
  match outcome.result with
  | .ok spanned => spanned.flatMap fun s => [s.span.start, s.span.stop]
  | .error error => [error.position]

/-- The span of a token in place lies between places of the source. -/
theorem InPlace.isPlaceOf {source : String} {spanned : SpannedToken}
    (place : InPlace Position.start source.toList spanned) :
    spanned.span.start.IsPlaceOf source ∧ spanned.span.stop.IsPlaceOf source := by
  obtain ⟨before, lexeme, after, split, -, start, stop⟩ := place
  rw [start, stop]
  exact ⟨Position.isPlaceOf_advance split,
    Position.isPlaceOf_advance (split.trans (List.append_assoc ..).symm)⟩

/-- **Every reported position is a place of the source.** -/
theorem isPlaceOf_of_mem_positions {source : String} {position : Position}
    (reported : position ∈ (scanSource source).positions) : position.IsPlaceOf source := by
  rw [Outcome.positions] at reported
  cases scanned : (scanSource source).result with
  | ok spanned =>
    rw [scanned] at reported
    obtain ⟨s, member, ends⟩ := List.mem_flatMap.mp reported
    obtain ⟨layout, text, rfl⟩ := result_eq_ok_iff.mp scanned
    have place : InPlace Position.start source.toList s := by
      rw [← text]
      exact Layout.inPlace_of_mem member
    obtain rfl | ends := List.mem_cons.mp ends
    · exact place.isPlaceOf.1
    · obtain rfl := List.mem_singleton.mp ends
      exact place.isPlaceOf.2
  | error error =>
    rw [scanned] at reported
    obtain rfl := List.mem_singleton.mp reported
    obtain ⟨layout, rest, split, -, -, place⟩ := result_eq_error_iff.mp scanned
    rw [place]
    exact Position.isPlaceOf_advance split

/-- Behind a string with a line feed in it, of a source that scans and of one that does not. -/
theorem isPlaceOf_of_mem_positions_multiline :
    Position.IsPlaceOf ⟨2, 3, 8⟩ "é \"a\n\r\" 007" ∧ Position.IsPlaceOf ⟨2, 3, 6⟩ "\"é\n\"\r#" :=
  ⟨isPlaceOf_of_mem_positions (List.mem_of_getElem? (i := 3) rfl),
    isPlaceOf_of_mem_positions (List.mem_of_getElem? (i := 0) rfl)⟩

end SourceScan.Lex
