import SourceScan.Proofs.Lex.Result
import SourceScan.Proofs.Text.Place

/-!
# Proofs/Lex/Span — where the tokens of a layout lie

A layout says of each token where it lies, as positions counted on from its start.  A lexeme of the
token stands there, the tokens lie in order and apart, and outside their spans there are only
blanks.

* `InPlace` — a lexeme of a spanned token stands in a text where its span says.
* `Layout.inPlace_of_mem` — the tokens of a layout are in place in its text.
* `Layout.pairwise_spanned` — they lie in order.
* `Layout.isBlank_of_outside` — what they do not cover is blank.
-/

namespace SourceScan

open Codepoint

theorem Token.Lexeme.byteLength_pos {token : Token} {lexeme : List Char}
    (lexical : token.Lexeme lexeme) : 0 < byteLength lexeme :=
  Nat.pos_of_ne_zero fun none => lexical.ne_nil (byteLength_eq_zero_iff.mp none)

namespace Lex

/-- **A spanned token is in place** in a text if a lexeme of it stands where its span says, the text
starting at a position. -/
def InPlace (origin : Position) (text : List Char) (spanned : SpannedToken) : Prop :=
  ∃ before lexeme after, text = before ++ (lexeme ++ after) ∧ spanned.token.Lexeme lexeme ∧
    spanned.span.start = origin.advance before ∧
    spanned.span.stop = origin.advance (before ++ lexeme)

/-- What stands in the place of a token, by its offsets. -/
theorem InPlace.exists_lexeme {text : List Char} {spanned : SpannedToken}
    (place : InPlace Position.start text spanned) :
    ∃ before lexeme after, text = before ++ (lexeme ++ after) ∧
      spanned.token.Lexeme lexeme ∧ spanned.span.start.offset = byteLength before ∧
      spanned.span.stop.offset = byteLength before + byteLength lexeme := by
  obtain ⟨before, lexeme, after, split, lexical, start, stop⟩ := place
  refine ⟨before, lexeme, after, split, lexical, ?_, ?_⟩
  · rw [start, Position.advance_start]
  · rw [stop, Position.advance_start, byteLength_append]

namespace Layout

variable {layout : Layout} {origin : Position}

/-- **The tokens of a layout are in place** in its text. -/
theorem inPlace_of_mem {spanned : SpannedToken} (member : spanned ∈ layout.spanned origin) :
    InPlace origin layout.text spanned := by
  induction layout generalizing origin with
  | ofGap gap blank => cases member
  | cons piece layout clear ih =>
    rw [text_cons]
    obtain rfl | member := List.mem_cons.mp member
    · exact ⟨piece.gap, piece.lexeme, layout.text, List.append_assoc .., piece.lexical, rfl, rfl⟩
    · obtain ⟨before, lexeme, after, text, lexical, start, stop⟩ := ih member
      refine ⟨piece.text ++ before, lexeme, after, ?_, lexical, ?_, ?_⟩
      · rw [text, List.append_assoc]
      · rw [start, Position.advance_append]
      · rw [stop, ← Position.advance_append, List.append_assoc]

/-- A token of a layout does not end behind the layout. -/
theorem le_offset_of_mem {spanned : SpannedToken} (member : spanned ∈ layout.spanned origin) :
    spanned.span.stop.offset ≤ (origin.advance layout.text).offset := by
  obtain ⟨before, lexeme, after, text, -, -, stop⟩ := inPlace_of_mem member
  rw [stop, text, ← List.append_assoc, Position.advance_append origin (before ++ lexeme),
    Position.offset_advance _ after]
  exact Nat.le_add_right _ _

/-- A token of a layout does not start before the layout. -/
theorem offset_le_of_mem {spanned : SpannedToken} (member : spanned ∈ layout.spanned origin) :
    origin.offset ≤ spanned.span.start.offset := by
  obtain ⟨before, lexeme, after, -, -, start, -⟩ := inPlace_of_mem member
  rw [start, Position.offset_advance]
  exact Nat.le_add_right _ _

/-- **The spans of a layout lie in order** and do not overlap. -/
theorem pairwise_spanned (layout : Layout) (origin : Position) :
    (layout.spanned origin).Pairwise fun earlier later =>
      earlier.span.stop.offset ≤ later.span.start.offset := by
  induction layout generalizing origin with
  | ofGap gap blank =>
    rw [spanned_ofGap]
    exact .nil
  | cons piece layout clear ih =>
    exact .cons (fun later member => offset_le_of_mem member) (ih _)

end Layout

/-- **The tokens that are scanned are in place.** -/
theorem inPlace_of_result {origin : Position} {text : List Char} {spanned : List SpannedToken}
    {s : SpannedToken} (scanned : (scanFrom origin text).result = .ok spanned)
    (member : s ∈ spanned) : InPlace origin text s := by
  obtain ⟨layout, rfl, rfl⟩ := result_eq_ok_iff.mp scanned
  exact Layout.inPlace_of_mem member

/-- A character of two texts in a row stands in the first or in the second. -/
theorem append_eq_append_cons {left right before after : List Char} {c : Char}
    (same : left ++ right = before ++ c :: after) :
    (∃ inner, left = before ++ c :: inner) ∨
      ∃ inner, before = left ++ inner ∧ right = inner ++ c :: after := by
  obtain ⟨inner, rfl, rest⟩ | ⟨inner, rfl, rest⟩ := List.append_eq_append_iff.mp same
  · exact Or.inr ⟨inner, rfl, rest⟩
  · cases inner with
    | nil => exact Or.inr ⟨[], by rw [List.append_nil, List.append_nil], rest.symm⟩
    | cons d inner =>
      obtain ⟨rfl, -⟩ := List.cons.inj rest
      exact Or.inl ⟨inner, rfl⟩

namespace Layout

variable {layout : Layout}

/-- **Outside the spans of a layout there are only blanks.** -/
theorem isBlank_of_outside (origin : Position) {before after : List Char} {c : Char}
    (text : layout.text = before ++ c :: after)
    (outside : ∀ spanned ∈ layout.spanned origin,
      ¬ (spanned.span.start.offset ≤ origin.offset + byteLength before ∧
        origin.offset + byteLength before < spanned.span.stop.offset)) :
    isBlank c = true := by
  induction layout generalizing origin before with
  | ofGap gap blank =>
    rw [text_ofGap] at text
    rw [text] at blank
    exact blank c (List.mem_append_right _ List.mem_cons_self)
  | cons piece layout clear ih =>
    rw [text_cons, Piece.text, List.append_assoc] at text
    rw [spanned_cons] at outside
    obtain ⟨inner, gap⟩ | ⟨inner, rfl, solid⟩ := append_eq_append_cons text
    · refine piece.blank c ?_
      rw [gap]
      exact List.mem_append_right _ List.mem_cons_self
    obtain ⟨inner', lexeme⟩ | ⟨inner', rfl, later⟩ := append_eq_append_cons solid
    · -- The character stands in the lexeme, which the first span covers.
      refine absurd ?_ (outside _ List.mem_cons_self)
      have := c.utf8Size_pos
      simp only [Position.offset_advance, Piece.text, lexeme, byteLength_append, byteLength_cons]
      omega
    · refine ih (origin.advance piece.text) later fun spanned member => ?_
      have apart := outside spanned (List.mem_cons_of_mem _ member)
      simp only [Position.offset_advance, Piece.text, byteLength_append] at apart ⊢
      omega

end Layout

end Lex

end SourceScan
