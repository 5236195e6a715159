import SourceScan.Proofs.Number.Decimal
import SourceScan.Proofs.Text.Quoted
import SourceScan.Token.Basic

/-!
# Proofs/Token/Shown — a shown token is that of one token

A shown token starts with the name of its kind, which is a word of letters, and what follows the
word starts with none.  So the kind can be read back, and then what the token carries: a name of an
operator, an integer, or a quoted text, each of which is that of one value.

* `kind`, `shown_eq` — the kind of a token, and what is shown behind it.
* `shown_injective` — tokens that are shown alike are the same.
-/

namespace SourceScan

/-- **The name of an operator** is that of one operator. -/
theorem Operator.name_injective : Function.Injective Operator.name := by
  intro operator operator' same
  cases operator <;> cases operator' <;> simp [name] at same ⊢

namespace Token

/-- The name of the kind of a token. -/
def kind : Token → String
  | operator _ => "ArithOp"
  | semicolon => "Semicolon"
  | integer _ => "IntegerLiteral"
  | string _ => "StringLiteral"
  | identifier _ => "Identifier"

/-- What is shown of a token behind its kind. -/
def carried : Token → String
  | operator op => "(" ++ op.name ++ ")"
  | semicolon => ""
  | integer value => "(" ++ value.toInt.repr ++ ")"
  | string content => "(" ++ Quoted.quote content ++ ")"
  | identifier name => "(" ++ Quoted.quote name ++ ")"

/-- Parentheses behind a word. -/
theorem parentheses_append (word text : String) :
    word ++ "(" ++ text ++ ")" = word ++ ("(" ++ text ++ ")") := by
  rw [String.append_assoc, String.append_assoc, String.append_assoc]

/-- **A shown token** is its kind with what it carries. -/
theorem shown_eq (token : Token) : token.shown = token.kind ++ token.carried := by
  cases token with
  | semicolon => rfl
  | operator op => exact parentheses_append "ArithOp" op.name
  | integer value => exact parentheses_append "IntegerLiteral" value.toInt.repr
  | string content => exact parentheses_append "StringLiteral" (Quoted.quote content)
  | identifier name => exact parentheses_append "Identifier" (Quoted.quote name)

/-- **The kind of a shown token** is the word of letters it starts with. -/
theorem takeWhile_shown (token : Token) :
    token.shown.toList.takeWhile Char.isAlpha = token.kind.toList := by
  have letters : ∀ c ∈ token.kind.toList, c.isAlpha = true := by
    cases token <;> rw [kind] <;> exact List.all_eq_true.mp (by decide)
  have ends : token.carried.toList.takeWhile Char.isAlpha = [] := by
    cases token with
    | semicolon => rfl
    | _ =>
      rw [carried, String.append_assoc, String.toList_append]
      rfl
  rw [shown_eq, String.toList_append, List.takeWhile_append_of_pos letters, ends, List.append_nil]

/-- What stands in parentheses is one text. -/
theorem parentheses_inj {text text' : String} (same : "(" ++ text ++ ")" = "(" ++ text' ++ ")") :
    text = text' :=
  (String.append_right_inj _).mp ((String.append_left_inj _).mp same)

/-- **Tokens that are shown alike are the same.** -/
theorem shown_injective : Function.Injective shown := by
  intro token token' same
  have kinds : token.kind = token'.kind := by
    rw [← String.toList_inj, ← takeWhile_shown, ← takeWhile_shown, same]
  have carries : token.carried = token'.carried := by
    rw [shown_eq, shown_eq, kinds] at same
    exact (String.append_right_inj _).mp same
  cases token with
  | operator op =>
    cases token' with
    | operator op' => rw [Operator.name_injective (parentheses_inj carries)]
    | _ => simp [kind] at kinds
  | semicolon =>
    cases token' with
    | semicolon => rfl
    | _ => simp [kind] at kinds
  | integer value =>
    cases token' with
    | integer value' => rw [Int64.toInt_inj.mp (repr_injective (parentheses_inj carries))]
    | _ => simp [kind] at kinds
  | string content =>
    cases token' with
    | string content' => rw [Quoted.quote_injective (parentheses_inj carries)]
    | _ => simp [kind] at kinds
  | identifier name =>
    cases token' with
    | identifier name' => rw [Quoted.quote_injective (parentheses_inj carries)]
    | _ => simp [kind] at kinds

end Token

end SourceScan
