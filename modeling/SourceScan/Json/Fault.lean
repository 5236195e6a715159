import SourceScan.Number.Double
import SourceScan.Text.Position
import SourceScan.Text.Quoted

/-!
# Json/Fault — what is wrong with a document

A document is at **fault** where reading it stops: it is cut short, or is no JSON, or its data do
not fit what is asked for.  A fault is found at the text still to be read there, and reported at a
line and column, which count the bytes of the document.

* `Json.Cause`, `Json.Category` — the causes, and the three kinds of them.
* `Json.Fault` — a cause at a text still to be read.
* `Json.Place` — a line and column; `Place.after` reads them off the bytes before the place.
-/

namespace SourceScan.Json

/-- **The brackets** of a document. -/
inductive Bracket where
  | list
  | object
deriving DecidableEq, Repr

/-- The character that closes a bracket. -/
def Bracket.closer : Bracket → Char
  | list => ']'
  | object => '\x7d'

/-- **What a document can end inside of.** -/
inductive Unfinished where
  | value
  | string
  | inside (bracket : Bracket)
deriving DecidableEq, Repr

/-- **A value of the wrong type**, as far as a message tells it. -/
inductive Found where
  | null
  | bool (value : Bool)
  | integer (value : Int)
  | float (value : Double)
  | string (text : String)
  | sequence
  | map
deriving DecidableEq, Repr

/-- **The causes** of a fault. -/
inductive Cause where
  | ended (inside : Unfinished)
  | misspelt
  | invalidEscape
  | controlCharacter
  | loneSurrogate
  | brokenPair
  | invalidNumber
  | numberOutOfRange
  | noValue
  | noSeparator (bracket : Bracket)
  | keyNotString
  | noColon
  | trailingComma
  | trailingCharacters
  | invalidType (found : Found) (expected : String)
  | invalidValue (found : Found) (expected : String)
  | unknownName (name : String) (known : List String)
  | duplicateField (key : String)
deriving DecidableEq, Repr

/-- **The kinds of cause.** -/
inductive Category where
  /-- The document ends too early. -/
  | truncated
  /-- The document is no JSON. -/
  | malformed
  /-- The document is JSON, as far as it was read, but not what is asked for. -/
  | unsuitable
deriving DecidableEq, Repr

/-- The kind of a cause. -/
def Cause.category : Cause → Category
  | ended _ => .truncated
  | invalidType .. | invalidValue .. | unknownName .. | duplicateField _ => .unsuitable
  | _ => .malformed

/-- What a document ends inside of, in words. -/
def Unfinished.text : Unfinished → String
  | value => "a value"
  | string => "a string"
  | inside .list => "a list"
  | inside .object => "an object"

/-- A value of the wrong type, in words. -/
def Found.text : Found → String
  | null => "null"
  | bool true => "boolean `true`"
  | bool false => "boolean `false`"
  | integer value => "integer `" ++ value.repr ++ "`"
  | float value => "floating point `" ++ value.text ++ "`"
  | string text => "string " ++ Quoted.quote text
  | sequence => "sequence"
  | map => "map"

/-- **The wording of a cause.** -/
def Cause.message : Cause → String
  | ended inside => "EOF while parsing " ++ inside.text
  | misspelt => "expected ident"
  | invalidEscape => "invalid escape"
  | controlCharacter =>
    "control character (\\u0000-\\u001F) found while parsing a string"
  | loneSurrogate => "lone leading surrogate in hex escape"
  | brokenPair => "unexpected end of hex escape"
  | invalidNumber => "invalid number"
  | numberOutOfRange => "number out of range"
  | noValue => "expected value"
  | noSeparator bracket => "expected `,` or `" ++ bracket.closer.toString ++ "`"
  | keyNotString => "key must be a string"
  | noColon => "expected `:`"
  | trailingComma => "trailing comma"
  | trailingCharacters => "trailing characters"
  | invalidType found expected => "invalid type: " ++ found.text ++ ", expected " ++ expected
  | invalidValue found expected => "invalid value: " ++ found.text ++ ", expected " ++ expected
  | unknownName name known =>
    "unknown variant `" ++ name ++ "`, expected one of " ++
      ", ".intercalate (known.map fun other => "`" ++ other ++ "`")
  | duplicateField key => "duplicate field `" ++ key ++ "`"

/-- **A fault**: its cause, at the text still to be read and so many bytes beyond its start. -/
structure Fault where
  cause : Cause
  left : List Char
  beyond : Nat
deriving DecidableEq, Repr

/-- A fault at the place reached. -/
def Fault.here (cause : Cause) (left : List Char) : Fault := ⟨cause, left, 0⟩

/-- A fault in the byte looked at: its place is just after that byte. -/
def Fault.looking (cause : Cause) (left : List Char) : Fault := ⟨cause, left, 1⟩

/-- **A place in a document**: its line, from 1, and the bytes before it on that line. -/
structure Place where
  line : Nat
  column : Nat
deriving DecidableEq, Repr

/-- The byte that ends a line. -/
def lineFeed : UInt8 := 10

/-- **The place after some bytes**: one line more than there are line feeds, and as many columns as
there are bytes after the last one. -/
def Place.after (bytes : List UInt8) : Place :=
  ⟨bytes.count lineFeed + 1, (bytes.reverse.takeWhile (· != lineFeed)).length⟩

/-- **The place of a fault** in its document, at most the end. -/
def Fault.place (fault : Fault) (document : List Char) : Place :=
  Place.after ((document.flatMap String.utf8EncodeChar).take
    (byteLength document - byteLength fault.left + fault.beyond))

end SourceScan.Json
