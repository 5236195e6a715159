import SourceScan.Proofs.Lex.Grammar
import SourceScan.Proofs.Token.WellFormed

/-!
# Proofs/Lex/Rendering — a rendering is scanned as the tokens it was made of

Tokens are rendered by their texts with something blank between any two neighbours.  Well-formed
tokens come back from the scan of their rendering, whatever the blanks; all others do not, because
a scan makes well-formed tokens only.

* `Separator`, `Token.join` — what stands between two neighbours, and the rendering with it.
* `Token.render_eq_join` — one space is such a separator.
* `Layout.exists_of_wellFormed` — a rendering of well-formed tokens is a layout of them.
* `scan_join` — a rendering scans as its tokens exactly if they are well-formed.
-/

namespace SourceScan

/-- **A separator**: some blanks, and at least one. -/
structure Separator where
  text : String
  blank : Lex.AllBlank text.toList
  nonempty : text.toList ≠ []

/-- The separator that is one space. -/
def Separator.space : Separator := ⟨" ", List.all_eq_true.mp rfl, by decide⟩

namespace Token

/-- **A list of tokens as a source**, with a separator for every two neighbours; `between 0` stands
between the first two. -/
def join (between : Nat → Separator) : List Token → String
  | [] => ""
  | [token] => token.text
  | token :: next :: tokens =>
    token.text ++ (between 0).text ++ join (fun i => between (i + 1)) (next :: tokens)

/-- **Rendering is joining by single spaces.** -/
theorem render_eq_join (tokens : List Token) : render tokens = join (fun _ => .space) tokens := by
  induction tokens with
  | nil => exact String.intercalate_nil
  | cons token tokens ih =>
    cases tokens with
    | nil => exact String.intercalate_singleton
    | cons next tokens =>
      rw [join, ← ih]
      exact String.intercalate_cons_cons

end Token

namespace Lex

/-- **A rendering of well-formed tokens is a layout of them**, also behind a gap. -/
theorem Layout.exists_of_wellFormed {tokens : List Token}
    (formed : ∀ token ∈ tokens, token.WellFormed) (between : Nat → Separator) {gap : List Char}
    (blank : AllBlank gap) :
    ∃ layout : Layout, layout.text = gap ++ (Token.join between tokens).toList ∧
      layout.tokens = tokens := by
  fun_induction Token.join between tokens generalizing gap with
  | case1 => exact ⟨.ofGap gap blank, (List.append_nil gap).symm, rfl⟩
  | case2 between token =>
    have lexical := (formed token List.mem_cons_self).lexeme
    exact ⟨.ofPiece ⟨gap, token, _, blank, lexical⟩, text_ofPiece _, rfl⟩
  | case3 between token next tokens ih =>
    -- The separator is the gap of the next token, and keeps it from being absorbed.
    obtain ⟨layout, text, same⟩ :=
      ih (fun token member => formed token (List.mem_cons_of_mem _ member)) (between 0).blank
    have lexical := (formed token List.mem_cons_self).lexeme
    have clear : Clear token layout.text := by
      rw [text]
      exact (between 0).blank.clear (between 0).nonempty token _
    refine ⟨.cons ⟨gap, token, _, blank, lexical⟩ layout clear, ?_, ?_⟩
    · rw [text_cons, text, Piece.text, String.toList_append, String.toList_append,
        List.append_assoc, List.append_assoc]
    · rw [tokens_cons, same]

/-- **A scan makes well-formed tokens.** -/
theorem wellFormed_of_scan {source : String} {tokens : List Token}
    (scanned : scan source = .ok tokens) : ∀ token ∈ tokens, token.WellFormed := by
  obtain ⟨layout, -, rfl⟩ := scan_eq_ok_iff.mp scanned
  intro token member
  obtain ⟨piece, -, rfl⟩ := List.mem_map.mp member
  exact piece.lexical.wellFormed

/-- A rendering scans as its tokens if they are well-formed, and only then. -/
theorem scan_join_eq_ok_iff {tokens : List Token} (between : Nat → Separator) :
    scan (Token.join between tokens) = .ok tokens ↔ ∀ token ∈ tokens, token.WellFormed := by
  refine ⟨wellFormed_of_scan, fun formed => scan_eq_ok_iff.mpr ?_⟩
  exact Layout.exists_of_wellFormed formed between .nil

/-- **Rendering and scanning agree.**  With whatever blanks between neighbours, single spaces among
them, a rendering scans as its tokens exactly if they are well-formed.  The tokens of any source
are, so they survive being rendered and scanned again. -/
theorem scan_join (tokens : List Token) :
    (∀ between : Nat → Separator, scan (Token.join between tokens) = .ok tokens ↔
      ∀ token ∈ tokens, token.WellFormed) ∧
    (scan (Token.render tokens) = .ok tokens ↔ ∀ token ∈ tokens, token.WellFormed) ∧
    ∀ source, scan source = .ok tokens →
      (∀ token ∈ tokens, token.WellFormed) ∧ scan (Token.render tokens) = .ok tokens ∧
        ∀ between : Nat → Separator, scan (Token.join between tokens) = .ok tokens := by
  have spaced : scan (Token.render tokens) = .ok tokens ↔ ∀ token ∈ tokens, token.WellFormed := by
    rw [Token.render_eq_join]
    exact scan_join_eq_ok_iff _
  refine ⟨fun between => scan_join_eq_ok_iff between, spaced, fun source scanned => ?_⟩
  have formed := wellFormed_of_scan scanned
  exact ⟨formed, spaced.mpr formed, fun between => (scan_join_eq_ok_iff between).mpr formed⟩

/-- The tokens of `x="a b"007` come back from their rendering.  The text of `-5` comes back as an
operator and a number, and that of a string with quotes in it as two strings. -/
theorem scan_join_quoted :
    scan "x = \"a b\" 7" = .ok [.identifier "x", .operator .equal, .string "a b", .integer 7] ∧
    scan (Token.render [.integer (-5)]) ≠ .ok [.integer (-5)] ∧
    scan (Token.render [.string "a\" \"b"]) ≠ .ok [.string "a\" \"b"] := by
  have sourced : scan "x=\"a b\"007" =
      .ok [.identifier "x", .operator .equal, .string "a b", .integer 7] := rfl
  obtain ⟨-, spaced, -⟩ := scan_join [.integer (-5)]
  obtain ⟨-, quoted, -⟩ := scan_join [.string "a\" \"b"]
  refine ⟨((scan_join _).2.2 _ sourced).2.1, fun negative => ?_, fun split => ?_⟩
  · have positive : 0 ≤ (-5 : Int64).toInt := spaced.mp negative _ List.mem_cons_self
    exact absurd positive (by decide)
  · exact quoted.mp split _ List.mem_cons_self (by decide)

end Lex

end SourceScan
