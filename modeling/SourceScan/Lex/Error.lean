import SourceScan.Text.Position

/-!
# Lex/Error — why a source has no tokens

A lexical error has a **cause** and the position where the offending construct starts.  It ends the
scan: no token of a failing source survives.

* `LexError.Cause.ofDigits` — the cause of a run of digits that is too large; only its first
  characters and its length are kept, so that a message stays short.
* `LexError.message` — the wording.
-/

namespace SourceScan

/-- **The causes** of a lexical error. -/
inductive LexError.Cause where
  /-- No token starts with the character, and it is no white space. -/
  | unrecognized (character : Char)
  /-- The source ends inside a string. -/
  | unterminated
  /-- The digits make an integer beyond the largest one of 64 bits. -/
  | overflow (leading : String) (digits : Nat)
deriving DecidableEq, Repr

/-- **A lexical error**: its cause, at the start of the offending construct. -/
structure LexError where
  cause : LexError.Cause
  position : Position
deriving DecidableEq, Repr

namespace LexError

/-- How many characters of a run of digits are kept. -/
def Cause.leadingLength : Nat := 20

/-- The cause of a run of digits that is too large. -/
def Cause.ofDigits (digits : String) : Cause :=
  .overflow (String.ofList (digits.toList.take leadingLength)) digits.utf8ByteSize

/-- The wording of a cause. -/
def Cause.message : Cause → String
  | .unrecognized c => "Scanner encountered unrecognized character '" ++ c.toString ++ "'"
  | .unterminated => "unterminated string literal"
  | .overflow leading digits =>
    "integer literal '" ++ leading ++ "...' (" ++ digits.repr ++ " digits) is too large"

/-- **The wording of an error**: its line and column, then its cause. -/
def message (error : LexError) : String :=
  "[" ++ error.position.line.repr ++ ":" ++ error.position.column.repr ++ "] " ++
    error.cause.message

end LexError

end SourceScan
