import SourceScan.Json.Value
import SourceScan.Text.Position
import SourceScan.Token.Basic

/-!
# Token/Spanned — tokens with their spans, and their JSON dump

A spanned token is a token with the range of the source it was scanned from.

* `Token.toJson`, `Position.toJson`, `Span.toJson`, `SpannedToken.toJson` — the JSON forms.  A token
  is an object whose one key names its kind, or that name alone when there is nothing to add.
* `Token.dump`, `SpannedToken.dump` — the JSON text of a list.
-/

namespace SourceScan

/-- **A token and the span it was scanned from.** -/
structure SpannedToken where
  token : Token
  span : Span
deriving DecidableEq

/-- The JSON form of a token: its kind, with what it carries. -/
def Token.toJson : Token → Json
  | .operator op => .object [("ArithOp", .string op.name)]
  | .semicolon => .string "Semicolon"
  | .integer value => .object [("IntegerLiteral", .number value.toInt)]
  | .string content => .object [("StringLiteral", .string content)]
  | .identifier name => .object [("Identifier", .string name)]

/-- The JSON form of a position. -/
def Position.toJson (position : Position) : Json :=
  .object [("line", .number position.line), ("column", .number position.column),
    ("byte_offset", .number position.offset)]

/-- The JSON form of a span. -/
def Span.toJson (span : Span) : Json :=
  .object [("start", span.start.toJson), ("end", span.stop.toJson)]

/-- The JSON form of a spanned token. -/
def SpannedToken.toJson (spanned : SpannedToken) : Json :=
  .object [("token", spanned.token.toJson), ("span", spanned.span.toJson)]

/-- **The dump of a list of tokens**: its JSON text. -/
def Token.dump (tokens : List Token) : String := (Json.list (tokens.map Token.toJson)).render

/-- **The dump of a list of spanned tokens**: its JSON text. -/
def SpannedToken.dump (tokens : List SpannedToken) : String :=
  (Json.list (tokens.map SpannedToken.toJson)).render

end SourceScan
