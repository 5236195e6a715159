import SourceScan.Proofs.Codepoint.Class
import SourceScan.Proofs.Number.Decimal

/-!
# Proofs/Token/Lexeme — how the tokens are written

A **lexeme** is a text that is a token.  Identifiers, strings, signs have one each; an integer has
one for every number of zeros in front.  A token **absorbs** a character that would make its lexeme
longer, which is why two tokens of one kind **fuse** if nothing stands between them.

* `Token.Lexeme` — the lexemes of a token.
* `Lexeme.joins_iff` — what the last character of a lexeme joins is what its token absorbs.
* `Lexeme.fuses_iff` — a token fuses with another if it absorbs the first character of it.
-/

namespace SourceScan

open Codepoint

/-- **The lexemes of a token.** -/
inductive Token.Lexeme : Token → List Char → Prop
  /-- An identifier is its name. -/
  | identifier {name : List Char} (nonempty : name ≠ [])
      (letters : ∀ c ∈ name, isIdentifierChar c = true) :
      Lexeme (.identifier (String.ofList name)) name
  /-- A string is its content between quotes, and holds none. -/
  | string {content : List Char} (unquoted : '"' ∉ content) :
      Lexeme (.string (String.ofList content)) ('"' :: content ++ ['"'])
  /-- An integer is any run of digits that says its value. -/
  | integer {value : Int64} {digits : List Char} (nonempty : digits ≠ [])
      (all : AllDigits digits) (valued : value.toInt = decimal digits)
      (fits : decimal digits ≤ 2 ^ 63 - 1) : Lexeme (.integer value) digits
  | semicolon : Lexeme .semicolon [';']
  /-- An operator is its character. -/
  | operator (op : Operator) : Lexeme (.operator op) [op.char]

/-- **A token absorbs a character** that would make it longer. -/
def Token.Absorbs : Token → Char → Prop
  | .identifier _, c => isIdentifierChar c = true
  | .integer _, c => c.isDigit = true
  | .string _, _ | .semicolon, _ | .operator _, _ => False

/-- **Two tokens fuse** if they are of one kind that takes all it can. -/
def Token.Fuses : Token → Token → Prop
  | .identifier _, .identifier _ | .integer _, .integer _ => True
  | _, _ => False

/-- **Two characters join** if both belong to identifiers or both are digits. -/
def Joins (c d : Char) : Prop :=
  isIdentifierChar c = true ∧ isIdentifierChar d = true ∨ c.isDigit = true ∧ d.isDigit = true

/-- What joins a digit is a digit. -/
theorem joins_of_isDigit {c d : Char} (digit : c.isDigit = true) :
    Joins c d ↔ d.isDigit = true := by
  rw [Joins, isIdentifierChar_of_isDigit digit]
  simp [digit]

/-- What joins a character of an identifier is one. -/
theorem joins_of_isIdentifierChar {c d : Char} (letter : isIdentifierChar c = true) :
    Joins c d ↔ isIdentifierChar d = true := by
  rw [Joins, isDigit_of_isIdentifierChar letter]
  simp [letter]

/-- A blank joins nothing. -/
theorem not_joins_of_isBlank {c d : Char} (blank : isBlank c = true) : ¬ Joins c d := by
  rw [Joins, isIdentifierChar_of_isBlank blank, isDigit_of_isBlank blank]
  simp

/-- A sign joins nothing. -/
theorem not_joins_of_sign {c d : Char} (sign : c ∈ signs) : ¬ Joins c d := by
  obtain ⟨-, letter, digit⟩ := sign_class sign
  rw [Joins, letter, digit]
  simp

namespace Token

/-- A blank is absorbed by no token. -/
theorem not_absorbs_of_isBlank {c : Char} (blank : isBlank c = true) (token : Token) :
    ¬ token.Absorbs c := by
  cases token <;> simp [Absorbs, isIdentifierChar_of_isBlank blank, isDigit_of_isBlank blank]

namespace Lexeme

variable {token next : Token} {lexeme : List Char}

theorem ne_nil (lexical : token.Lexeme lexeme) : lexeme ≠ [] := by
  cases lexical with
  | identifier nonempty _ => exact nonempty
  | integer nonempty _ _ _ => exact nonempty
  | string _ => exact List.cons_ne_nil _ _
  | semicolon => exact List.cons_ne_nil _ _
  | operator op => exact List.cons_ne_nil _ _

/-- **The last character of a lexeme joins what its token absorbs.** -/
theorem joins_iff (lexical : token.Lexeme lexeme) {c d : Char} (last : c ∈ lexeme.getLast?) :
    Joins c d ↔ token.Absorbs d := by
  cases lexical with
  | identifier _ letters => exact joins_of_isIdentifierChar (letters c (List.mem_of_getLast? last))
  | integer _ all _ _ => exact joins_of_isDigit (all c (List.mem_of_getLast? last))
  | string _ =>
    rw [List.getLast?_concat] at last
    obtain rfl := Option.some.inj last
    exact iff_of_false (not_joins_of_sign (by decide)) id
  | semicolon =>
    obtain rfl := Option.some.inj last
    exact iff_of_false (not_joins_of_sign (by decide)) id
  | operator op =>
    obtain rfl := Option.some.inj last
    exact iff_of_false (not_joins_of_sign op.char_mem_signs) id

/-- **A token fuses with another** if it absorbs the first character of a lexeme of it. -/
theorem fuses_iff (lexical : next.Lexeme lexeme) {c : Char} (first : c ∈ lexeme.head?) :
    token.Fuses next ↔ token.Absorbs c := by
  -- A sign is absorbed by nothing, and no token fuses with one that starts with a sign.
  have sign : c ∈ signs → ¬ token.Absorbs c := fun sign => by
    obtain ⟨-, letter, digit⟩ := sign_class sign
    cases token <;> simp [Absorbs, letter, digit]
  cases lexical with
  | identifier _ letters =>
    have letter := letters c (List.mem_of_head? first)
    cases token <;> simp [Fuses, Absorbs, letter, isDigit_of_isIdentifierChar letter]
  | integer _ all _ _ =>
    have digit := all c (List.mem_of_head? first)
    cases token <;> simp [Fuses, Absorbs, digit, isIdentifierChar_of_isDigit digit]
  | string _ =>
    obtain rfl := Option.some.inj first
    exact iff_of_false (by cases token <;> exact id) (sign (by decide))
  | semicolon =>
    obtain rfl := Option.some.inj first
    exact iff_of_false (by cases token <;> exact id) (sign (by decide))
  | operator op =>
    obtain rfl := Option.some.inj first
    exact iff_of_false (by cases token <;> exact id) (sign op.char_mem_signs)

end Lexeme

end Token

end SourceScan
