import SourceScan.Codepoint.Class
import SourceScan.Log.Event
import SourceScan.Number.Decimal
import SourceScan.Token.Spanned

/-!
# Lex/Machine — the scanner as a machine fed one character at a time

The machine is either in a gap between tokens or inside an identifier, a string or a number, whose
start and characters it then remembers.  A character is fed to it:

* inside a string, it ends the string if it is a quote and belongs to it otherwise;
* inside an identifier or a number, it belongs to it or closes it, and is then dispatched;
* in a gap, it is **dispatched**: skipped, or the start of a construct, or a whole token, or an
  error.

So an identifier and a number take every character they can, and a closed token leaves no trace in
the machine but itself.

* `Machine.feed`, `Machine.feedAll` — one character, a text.
* `Machine.close` — the end of the construct the machine is in, at a boundary.
* `Machine.finish` — the end of the source.
-/

namespace SourceScan.Lex

/-- **What the machine is inside of.**  A construct remembers where it starts and the characters it
holds so far, the latest first. -/
inductive Mode where
  | gap
  | identifier (start : Position) (read : List Char)
  | string (start : Position) (read : List Char)
  | number (start : Position) (read : List Char)
deriving DecidableEq, Repr

/-- **The state of a scan.**  Tokens and events are kept latest first. -/
structure Machine where
  position : Position
  mode : Mode
  produced : List SpannedToken
  events : List Log.Event

/-- **A failed scan**: its error, and all its events, latest first. -/
structure Failure where
  error : LexError
  events : List Log.Event

/-- The largest integer of 64 bits. -/
def largest : Nat := 0x7FFFFFFFFFFFFFFF

namespace Machine

/-- The machine at the start of a scan. -/
def begin (position : Position) : Machine := ⟨position, .gap, [], [.created]⟩

/-- The machine one character on, in a given mode. -/
def take (machine : Machine) (c : Char) (mode : Mode) : Machine :=
  { machine with position := machine.position.step c, mode := mode }

/-- The machine one character on, at the first character of a construct, which is announced. -/
def enter (machine : Machine) (announced : Log.Mode) (c : Char) (mode : Mode) : Machine :=
  { machine.take c mode with events := .entered announced :: machine.events }

/-- **A token ends** where the machine stands. -/
def produce (machine : Machine) (token : Token) (start : Position) : Machine :=
  { machine with
    mode := .gap
    produced := ⟨token, start, machine.position⟩ :: machine.produced
    events := .produced token start.line start.column :: machine.events }

/-- **The scan fails** on a construct. -/
def fail (machine : Machine) (cause : LexError.Cause) (start : Position) : Failure :=
  ⟨⟨cause, start⟩, .aborted ⟨cause, start⟩ :: machine.events⟩

/-- **The end of the construct** the machine is in, if it can end here. -/
def close (machine : Machine) : Except Failure Machine :=
  match machine.mode with
  | .gap => .ok machine
  | .identifier start read =>
    .ok (machine.produce (.identifier (String.ofList read.reverse)) start)
  | .string start _ => .error (machine.fail .unterminated start)
  | .number start read =>
    let value := decimal read.reverse
    if value ≤ largest then .ok (machine.produce (.integer (Int64.ofNat value)) start)
    else .error (machine.fail (.ofDigits (String.ofList read.reverse)) start)

/-- **A character in a gap**: skipped, or the start of a construct, or a token of its own. -/
def dispatch (machine : Machine) (c : Char) : Except Failure Machine :=
  let start := machine.position
  if Codepoint.isBlank c then .ok (machine.take c .gap)
  else if Codepoint.isIdentifierChar c then
    .ok (machine.enter .identifier c (.identifier start [c]))
  else if c = '"' then .ok (machine.enter .string c (.string start []))
  else if c.isDigit then .ok (machine.enter .number c (.number start [c]))
  else if c = ';' then .ok ((machine.take c .gap).produce .semicolon start)
  else
    match Operator.ofChar? c with
    | some op => .ok ((machine.take c .gap).produce (.operator op) start)
    | none => .error (machine.fail (.unrecognized c) start)

/-- **One character fed** to the machine. -/
def feed (machine : Machine) (c : Char) : Except Failure Machine :=
  match machine.mode with
  | .gap => machine.dispatch c
  | .identifier start read =>
    if Codepoint.isIdentifierChar c then .ok (machine.take c (.identifier start (c :: read)))
    else do (← machine.close).dispatch c
  | .string start read =>
    if c = '"' then
      .ok ((machine.take c .gap).produce (.string (String.ofList read.reverse)) start)
    else .ok (machine.take c (.string start (c :: read)))
  | .number start read =>
    if c.isDigit then .ok (machine.take c (.number start (c :: read)))
    else do (← machine.close).dispatch c

/-- **A text fed** to the machine, character by character. -/
def feedAll (machine : Machine) (text : List Char) : Except Failure Machine :=
  text.foldlM feed machine

@[simp] theorem feedAll_nil (machine : Machine) : machine.feedAll [] = .ok machine := rfl

@[simp] theorem feedAll_cons (machine : Machine) (c : Char) (text : List Char) :
    machine.feedAll (c :: text) = machine.feed c >>= fun next => next.feedAll text := rfl

/-- Feeding a text is feeding its first part and then its second. -/
theorem feedAll_append (machine : Machine) (left right : List Char) :
    machine.feedAll (left ++ right) = machine.feedAll left >>= fun next => next.feedAll right :=
  List.foldlM_append

/-- **The end of the source**: the last construct is closed. -/
def finish (machine : Machine) : Except Failure Machine := do
  let closed ← machine.close
  .ok { closed with events := .complete closed.produced.length :: closed.events }

end Machine

end SourceScan.Lex
