import SourceScan.Proofs.Token.Lexeme

/-!
# Proofs/Token/WellFormed — the tokens that are written as lexemes

A token may carry any text and any integer of 64 bits, but a source can only say some of them: the
text of `-5` is an operator and a number, and a string that holds a quote ends too early.  The
tokens whose text is one of their lexemes are the **well-formed** ones, and no other token has a
lexeme at all.

* `Token.WellFormed` — what a token must carry.
* `Token.Lexeme.wellFormed` — a token with a lexeme is well-formed.
* `Token.WellFormed.lexeme` — the text of a well-formed token is a lexeme of it.
-/

namespace SourceScan

open Codepoint

/-- The text of an integer that is not negative is its decimal digits. -/
theorem toList_text_integer {value : Int64} {number : Nat} (valued : value.toInt = number) :
    (Token.integer value).text.toList = Nat.toDigits 10 number := by
  change value.toInt.repr.toList = _
  rw [valued]
  exact Nat.toList_repr

namespace Token

/-- **A well-formed token**: an integer is not negative, a string holds no quote, and an identifier
has characters, all of them those of identifiers. -/
def WellFormed : Token → Prop
  | .operator _ | .semicolon => True
  | .integer value => 0 ≤ value.toInt
  | .string content => '"' ∉ content.toList
  | .identifier name => name ≠ "" ∧ ∀ c ∈ name.toList, isIdentifierChar c = true

/-- **A token with a lexeme is well-formed.** -/
theorem Lexeme.wellFormed {token : Token} {lexeme : List Char} (lexical : token.Lexeme lexeme) :
    token.WellFormed := by
  cases lexical with
  | identifier nonempty letters =>
    refine ⟨fun empty => nonempty (String.ofList_eq_empty_iff.mp empty), ?_⟩
    rw [String.toList_ofList]
    exact letters
  | string unquoted =>
    rw [WellFormed, String.toList_ofList]
    exact unquoted
  | integer _ _ valued _ =>
    rw [WellFormed, valued]
    exact Int.natCast_nonneg _
  | semicolon => trivial
  | operator op => trivial

/-- The digits of an integer that is not negative are a lexeme of it. -/
theorem lexeme_integer {value : Int64} (positive : 0 ≤ value.toInt) :
    (integer value).Lexeme (integer value).text.toList := by
  obtain ⟨number, valued⟩ := Int.eq_ofNat_of_zero_le positive
  have bound := value.toInt_lt
  have read := decimal_toDigits number
  rw [toList_text_integer valued]
  refine .integer Nat.toDigits_ne_nil (allDigits_toDigits number) ?_ ?_
  · rw [read, valued]
  · rw [read]
    omega

/-- **The text of a well-formed token is a lexeme of it.** -/
theorem WellFormed.lexeme {token : Token} (formed : token.WellFormed) :
    token.Lexeme token.text.toList := by
  cases token with
  | operator op =>
    rw [text, String.toList_singleton]
    exact .operator op
  | semicolon => exact .semicolon
  | integer value => exact lexeme_integer formed
  | string content =>
    have lexical : (string (String.ofList content.toList)).Lexeme _ := .string formed
    rw [String.ofList_toList] at lexical
    rw [text, String.toList_append, String.toList_append]
    exact lexical
  | identifier name =>
    obtain ⟨nonempty, letters⟩ := formed
    have lexical : (identifier (String.ofList name.toList)).Lexeme _ :=
      .identifier (fun empty => nonempty (String.toList_eq_nil_iff.mp empty)) letters
    rwa [String.ofList_toList] at lexical

end Token

end SourceScan
