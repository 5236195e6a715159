import SourceScan.Text.Quoted

/-!
# Token/Basic — the tokens of the language

A **token** is an operator, a semicolon, an integer, a string or an identifier.  Keywords are
identifiers like any other.

* `Operator.ofChar?`, `Operator.char` — the five operators and their characters.
* `Token.text` — a token as it is written in a source.
* `Token.render` — a list of tokens, with one space between two of them.
* `Token.shown` — a token as a log shows it.
-/

namespace SourceScan

/-- **The operators**: arithmetic and the equals sign. -/
inductive Operator where
  | add
  | sub
  | mul
  | div
  | equal
deriving DecidableEq, Repr

namespace Operator

/-- The character of an operator. -/
def char : Operator → Char
  | add => '+'
  | sub => '-'
  | mul => '*'
  | div => '/'
  | equal => '='

/-- The name of an operator. -/
def name : Operator → String
  | add => "Add"
  | sub => "Sub"
  | mul => "Mul"
  | div => "Div"
  | equal => "Equal"

/-- **The operator of a character**, if it is one. -/
def ofChar? (c : Char) : Option Operator :=
  [add, sub, mul, div, equal].find? fun operator => operator.char == c

/-- **Reading and writing an operator agree.** -/
theorem ofChar?_eq_some_iff {c : Char} {operator : Operator} :
    ofChar? c = some operator ↔ c = operator.char := by
  constructor
  · intro found
    have same := List.find?_some found
    exact (beq_iff_eq.mp same).symm
  · rintro rfl
    cases operator <;> rfl

end Operator

/-- **A token**. -/
inductive Token where
  | operator (operator : Operator)
  | semicolon
  /-- An integer of 64 bits; a scan only makes those that are not negative. -/
  | integer (value : Int64)
  /-- A string, by the characters between its quotes: there are no escapes. -/
  | string (content : String)
  | identifier (name : String)
deriving DecidableEq

namespace Token

/-- **The text of a token**, as it is written in a source. -/
def text : Token → String
  | operator op => String.singleton op.char
  | semicolon => ";"
  | integer value => value.toInt.repr
  | string content => "\"" ++ content ++ "\""
  | identifier name => name

/-- **A list of tokens as a source**: their texts with one space between neighbours. -/
def render (tokens : List Token) : String := " ".intercalate (tokens.map text)

/-- **A token as a log shows it**: its kind, and what it carries in parentheses.  Texts are quoted,
so that the end of a text is never in doubt and no control character reaches the log. -/
def shown : Token → String
  | operator op => "ArithOp(" ++ op.name ++ ")"
  | semicolon => "Semicolon"
  | integer value => "IntegerLiteral(" ++ value.toInt.repr ++ ")"
  | string content => "StringLiteral(" ++ Quoted.quote content ++ ")"
  | identifier name => "Identifier(" ++ Quoted.quote name ++ ")"

end Token

end SourceScan
