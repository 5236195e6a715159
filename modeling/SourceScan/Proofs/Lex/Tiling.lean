import SourceScan.Proofs.Lex.Grammar
import SourceScan.Proofs.Lex.Span
import SourceScan.Proofs.Token.WellFormed

/-!
# Proofs/Lex/Tiling — the spans of a scan tile its source

The spans of the tokens of a source lie in order and apart, begin and end where characters do, and
leave nothing out but blanks.  What a span holds is known from the spanned token alone: the length
of the span is what the text of an integer does not say.

* `SpannedToken.lexeme` — the lexeme of a spanned token, without the source.
* `rebuild` — the source again, from the gaps and the lexemes.
* `Layout.rebuild_spanned` — a layout is put together again.
* `Tiling`, `tiling_of_scanSource` — what the spans of a source are like.
-/

namespace SourceScan

open Codepoint

/-- **The lexeme of a spanned token**: the text of the token, which for an integer has as many zeros
in front as the span has room for. -/
def SpannedToken.lexeme : SpannedToken → List Char
  | ⟨.integer value, span⟩ => (Token.integer value).text.toList.leftpad span.length '0'
  | ⟨token, _⟩ => token.text.toList

/-- **A source put together again** from an offset on: the gaps in front of the spanned tokens, which
are slices of it, and the lexemes, which are not taken from it. -/
def rebuild (source : List Char) : Nat → List SpannedToken → Option (List Char)
  | offset, [] => slice source offset (byteLength source)
  | offset, spanned :: rest => do
    let gap ← slice source offset spanned.span.start.offset
    let after ← rebuild source spanned.span.stop.offset rest
    return gap ++ spanned.lexeme ++ after

/-- **A lexeme is known** from its token and its length. -/
theorem Token.Lexeme.lexeme_eq {token : Token} {lexeme : List Char} {span : Span}
    (lexical : token.Lexeme lexeme) (size : span.length = byteLength lexeme) :
    SpannedToken.lexeme ⟨token, span⟩ = lexeme := by
  cases lexical with
  | identifier _ _ => exact String.toList_ofList
  | @string content _ =>
    change ("\"" ++ String.ofList content ++ "\"").toList = _
    rw [String.toList_append, String.toList_append, String.toList_ofList (l := content)]
    rfl
  | integer nonempty all valued _ =>
    rw [SpannedToken.lexeme, size, byteLength_of_allDigits all, toList_text_integer valued]
    exact leftpad_toDigits_decimal nonempty all
  | semicolon => exact String.toList_singleton ';'
  | operator op => exact String.toList_singleton op.char

namespace Lex

/-- A token alone is a layout. -/
theorem scan_lexeme {token : Token} {lexeme : List Char} (lexical : token.Lexeme lexeme) :
    scan (String.ofList lexeme) = .ok [token] := by
  refine scan_eq_ok_iff.mpr ⟨.ofPiece ⟨[], token, lexeme, .nil, lexical⟩, ?_, rfl⟩
  rw [Layout.text_ofPiece, String.toList_ofList]
  rfl

/-- **A layout is put together again** from its gaps and lexemes, behind whatever stands in front
of it. -/
theorem Layout.rebuild_spanned {origin : Position} (layout : Layout) (front : List Char)
    (place : origin.offset = byteLength front) :
    rebuild (front ++ layout.text) (byteLength front) (layout.spanned origin) =
      some layout.text := by
  induction layout generalizing origin front with
  | ofGap gap blank =>
    refine slice_append front gap [] ?_ rfl ?_
    · rw [List.append_nil, Layout.text_ofGap]
    · rw [Layout.text_ofGap, byteLength_append]
  | cons piece layout clear ih =>
    have start : (origin.advance piece.gap).offset = byteLength front + byteLength piece.gap := by
      rw [Position.offset_advance, place]
    have stop : (origin.advance piece.text).offset = byteLength (front ++ piece.text) := by
      rw [Position.offset_advance, place, byteLength_append]
    have gap : slice (front ++ (Layout.cons piece layout clear).text) (byteLength front)
        (origin.advance piece.gap).offset = some piece.gap := by
      refine slice_append front piece.gap (piece.lexeme ++ layout.text) ?_ rfl start.symm
      rw [Layout.text_cons, Piece.text, List.append_assoc]
    have size : (Span.mk (origin.advance piece.gap) (origin.advance piece.text)).length =
        byteLength piece.lexeme := by
      rw [Span.length, start, stop, byteLength_append, Piece.text, byteLength_append]
      omega
    have rest : rebuild (front ++ (Layout.cons piece layout clear).text)
        (origin.advance piece.text).offset (layout.spanned (origin.advance piece.text)) =
          some layout.text := by
      rw [stop, Layout.text_cons, ← List.append_assoc]
      exact ih _ stop
    rw [Layout.spanned_cons, rebuild, gap, rest, piece.lexical.lexeme_eq size, Layout.text_cons]
    rfl

namespace InPlace

variable {source : String} {spanned : SpannedToken}

/-- A token in place has a span of some length. -/
theorem start_lt_stop (place : InPlace Position.start source.toList spanned) :
    spanned.span.start.offset < spanned.span.stop.offset := by
  obtain ⟨before, lexeme, after, -, lexical, start, stop⟩ := place.exists_lexeme
  have := lexical.byteLength_pos
  omega

/-- **What a token in place gives as its lexeme** is its slice of the source, and a lexeme. -/
theorem lexeme_eq (place : InPlace Position.start source.toList spanned) :
    slice source.toList spanned.span.start.offset spanned.span.stop.offset = some spanned.lexeme ∧
      spanned.token.Lexeme spanned.lexeme := by
  obtain ⟨before, lexeme, after, split, lexical, start, stop⟩ := place.exists_lexeme
  have size : spanned.span.length = byteLength lexeme := by
    rw [Span.length, start, stop, Nat.add_sub_cancel_left]
  rw [lexical.lexeme_eq size, start, stop]
  exact ⟨slice_append before lexeme after split rfl rfl, lexical⟩

/-- The span of a token in place lies between boundaries of characters. -/
theorem boundaries (place : InPlace Position.start source.toList spanned) :
    (String.Pos.Raw.mk spanned.span.start.offset).IsValid source ∧
      (String.Pos.Raw.mk spanned.span.stop.offset).IsValid source := by
  obtain ⟨before, lexeme, after, split, -, start, stop⟩ := place.exists_lexeme
  rw [start, stop, ← byteLength_append]
  exact ⟨isValid_byteLength split,
    isValid_byteLength (split.trans (List.append_assoc ..).symm)⟩

end InPlace

/-- **The spans of the tokens of a source.** -/
structure Tiling (source : String) (spanned : List SpannedToken) : Prop where
  /-- There is one span for each token. -/
  tokens : scan source = .ok (spanned.map SpannedToken.token)
  /-- No span is empty or runs backwards. -/
  proper : ∀ s ∈ spanned, s.span.start.offset < s.span.stop.offset
  /-- …so its length is what it takes from its start to its end. -/
  length : ∀ s ∈ spanned, s.span.isEmpty = false ∧
    s.span.start.offset + s.span.length = s.span.stop.offset
  /-- The spans lie in order and do not overlap. -/
  ordered : spanned.Pairwise fun earlier later =>
    earlier.span.stop.offset ≤ later.span.start.offset
  /-- The spans start and end at boundaries of characters. -/
  boundaries : ∀ s ∈ spanned, (String.Pos.Raw.mk s.span.start.offset).IsValid source ∧
    (String.Pos.Raw.mk s.span.stop.offset).IsValid source
  /-- What lies outside all spans is white space. -/
  blank : ∀ before c after, source.toList = before ++ c :: after →
    (∀ s ∈ spanned, ¬ (s.span.start.offset ≤ byteLength before ∧
      byteLength before < s.span.stop.offset)) → isBlank c = true
  /-- A span holds the lexeme that its spanned token gives. -/
  slices : ∀ s ∈ spanned,
    slice source.toList s.span.start.offset s.span.stop.offset = some s.lexeme
  /-- The gaps and the lexemes in order are the source. -/
  rebuilt : rebuild source.toList 0 spanned = some source.toList
  /-- What a span holds scans as its token alone. -/
  alone : ∀ s ∈ spanned, ∀ piece,
    slice source.toList s.span.start.offset s.span.stop.offset = some piece →
      scan (String.ofList piece) = .ok [s.token]

/-- **The spans of a scan tile its source.** -/
theorem tiling_of_scanSource {source : String} {spanned : List SpannedToken}
    (scanned : (scanSource source).result = .ok spanned) : Tiling source spanned := by
  have tokens : scan source = .ok (spanned.map SpannedToken.token) :=
    scan_eq_ok_iff_result.mpr ⟨spanned, scanned, rfl⟩
  obtain ⟨layout, text, rfl⟩ := result_eq_ok_iff.mp scanned
  have place : ∀ s ∈ layout.spanned Position.start, InPlace Position.start source.toList s := by
    intro s member
    rw [← text]
    exact Layout.inPlace_of_mem member
  exact {
    tokens
    proper := fun s member => (place s member).start_lt_stop
    length := fun s member => by
      have forward := (place s member).start_lt_stop
      rw [Span.isEmpty, beq_eq_false_iff_ne, Span.length]
      omega
    ordered := layout.pairwise_spanned Position.start
    boundaries := fun s member => (place s member).boundaries
    blank := fun before c after split outside =>
      Layout.isBlank_of_outside Position.start (text.trans split) fun s member => by
        rw [show Position.start.offset = 0 from rfl, Nat.zero_add]
        exact outside s member
    slices := fun s member => (place s member).lexeme_eq.1
    rebuilt := by
      rw [← text]
      exact layout.rebuild_spanned [] rfl
    alone := fun s member piece held => by
      obtain ⟨sliced, lexical⟩ := (place s member).lexeme_eq
      obtain rfl := Option.some.inj (held.symm.trans sliced)
      exact scan_lexeme lexical
  }

/-- A letter of two bytes, a string with a line feed in it, and a number with zeros in front. -/
theorem tiling_of_scanSource_mixed :
    Tiling "é \"a\n\r\" 007" [⟨.identifier "é", ⟨1, 1, 0⟩, ⟨1, 2, 2⟩⟩,
      ⟨.string "a\n\r", ⟨1, 3, 3⟩, ⟨2, 3, 8⟩⟩, ⟨.integer 7, ⟨2, 4, 9⟩, ⟨2, 7, 12⟩⟩] :=
  tiling_of_scanSource rfl

end Lex

end SourceScan
