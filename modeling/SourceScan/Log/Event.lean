import SourceScan.Json.Value
import SourceScan.Lex.Error
import SourceScan.Log.Level
import SourceScan.Source.Reader
import SourceScan.Token.Basic

/-!
# Log/Event — what happens while a source is loaded and scanned

Every **event** has a severity, a target that names the phase it belongs to, a message, and fields
in a fixed order.

* `Log.Event` — the events; `Log.Mode` — the constructs a scan announces before it reads them.
* `Log.Event.severity`, `target`, `message`, `fields` — how an event is described.
* `Log.Outcome` — a result together with the events on the way to it.
-/

namespace SourceScan.Log

/-- **The constructs a scan announces**: those that may take more than one character. -/
inductive Mode where
  | identifier
  | string
  | number
deriving DecidableEq, Repr

/-- The name of a mode. -/
def Mode.name : Mode → String
  | identifier => "identifier"
  | string => "string"
  | number => "number"

/-- **The events** of loading and scanning. -/
inductive Event where
  /-- A scan begins. -/
  | created
  /-- A construct begins. -/
  | entered (mode : Mode)
  /-- A token ends; it started at the given place. -/
  | produced (token : Token) (line column : Nat)
  /-- The scan is over, with so many tokens. -/
  | complete (count : Nat)
  /-- The scan ends in an error. -/
  | aborted (error : LexError)
  /-- A source of so many bytes has been read. -/
  | loaded (bytes : Nat)
  /-- A source could not be read. -/
  | unreadable (fault : ReadFault)
  /-- A source is not text from the offset on. -/
  | undecodable (offset : Nat)
deriving DecidableEq

/-- **The value of a field**: a number or a text. -/
inductive Field where
  | number (value : Nat)
  | text (value : String)
deriving DecidableEq, Repr

/-- A field in a line of text. -/
def Field.plain : Field → String
  | number value => value.repr
  | text value => value

/-- A field in a JSON object. -/
def Field.toJson : Field → Json
  | number value => .number value
  | text value => .string value

/-- The target shared by all events of the lexer. -/
def lexerTarget : String := "gfn::lexer"

namespace Event

/-- How grave an event is. -/
def severity : Event → Severity
  | created | entered _ | produced .. => .trace
  | complete _ | loaded _ => .debug
  | aborted _ | unreadable _ | undecodable _ => .warn

/-- The phase an event belongs to. -/
def target : Event → String
  | unreadable _ | undecodable _ => lexerTarget ++ "::stream"
  | _ => lexerTarget ++ "::scanner"

/-- What an event says. -/
def message : Event → String
  | created => "Creating new Scanner"
  | entered mode => "Entering " ++ mode.name ++ " mode"
  | produced .. => "Produced token"
  | complete _ => "Scan complete"
  | aborted _ => "Lex error, aborting scan"
  | loaded _ => "Loaded source"
  | unreadable _ => "Failed to read source"
  | undecodable _ => "Source is not valid UTF-8"

/-- The fields of an event, in their order. -/
def fields : Event → List (String × Field)
  | created | entered _ => []
  | produced token line column =>
    [("token", .text token.shown), ("line", .number line), ("column", .number column)]
  | complete count => [("count", .number count)]
  | aborted error => [("error", .text error.message)]
  | loaded bytes => [("bytes", .number bytes)]
  | unreadable fault => [("error", .text fault.text)]
  | undecodable offset => [("offset", .number offset)]

end Event

/-- **An outcome**: a result or an error, and the events that led to it, in the order they
happened. -/
structure Outcome (ε α : Type) where
  result : Except ε α
  events : List Event

end SourceScan.Log
