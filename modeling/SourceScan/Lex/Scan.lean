import SourceScan.Lex.Pull

/-!
# Lex/Scan — scanning a source

A scan feeds a text to the machine and ends it.  Its **outcome** is the tokens with their spans, or
the first error of the source, and in either case the events, in the order they happened.

* `Lex.scanFrom` — a text that starts at a given position.
* `Lex.scanStream` — a stream, from where it stands.
* `Lex.scanSource` — a whole source.
* `Lex.scan` — a whole source, for its tokens alone.
-/

namespace SourceScan.Lex

/-- **What comes of a scan**: its tokens in the order of the source, or its error. -/
abbrev Outcome := Log.Outcome LexError (List SpannedToken)

/-- The outcome of the last state of the machine. -/
def outcome : Except Failure Machine → Outcome
  | .ok machine => ⟨.ok machine.produced.reverse, machine.events.reverse⟩
  | .error failure => ⟨.error failure.error, failure.events.reverse⟩

/-- **Scanning a text** that starts at a position. -/
def scanFrom (start : Position) (text : List Char) : Outcome :=
  outcome ((Machine.begin start).feedAll text >>= Machine.finish)

/-- **Scanning a stream** from where it stands, up to the first `none` it gives. -/
def scanStream (stream : Stream) : Outcome := outcome ((Pull.begin stream).run.map Pull.machine)

/-- **Scanning a source.** -/
def scanSource (source : String) : Outcome := scanFrom Position.start source.toList

/-- **The tokens of a source**, or its first error. -/
def scan (source : String) : Except LexError (List Token) :=
  (scanSource source).result.map (·.map SpannedToken.token)

end SourceScan.Lex
