import SourceScan.Lex.Machine
import SourceScan.Text.Stream

/-!
# Lex/Pull — the scanner pulling its characters from a stream

Where the machine is fed its characters, this scanner **pulls** them from a stream: it looks at the
next character to see what construct starts there, and then takes the characters of the construct,
looking at each before it consumes it.  The character behind a construct has been looked at but not
consumed, and the next construct starts with it.

* `Pull.produced` — the tokens so far with their spans, which are kept in a list of their own.
* `Pull.construct` — the construct that starts with a character that was looked at.
* `Pull.run` — one construct after another, until the stream gives none.

The tokens and events are those of the machine fed what the stream is drained of.
-/

namespace SourceScan.Lex

/-- **The state of a scan that pulls.**  Tokens, spans and events are kept latest first. -/
structure Pull where
  stream : Stream
  /-- Where the construct being scanned starts. -/
  start : Position
  tokens : List Token
  /-- The spans of the tokens, in the same order. -/
  spans : List Span
  events : List Log.Event

namespace Pull

/-- A scan about to begin, wherever its stream stands. -/
def begin (stream : Stream) : Pull := ⟨stream, Position.start, [], [], [.created]⟩

/-- **The tokens with their spans**, latest first. -/
def produced (pull : Pull) : List SpannedToken :=
  List.zipWith SpannedToken.mk pull.tokens pull.spans

/-- The machine in the place of the scan, in a gap. -/
def machine (pull : Pull) : Machine := ⟨pull.stream.position, .gap, pull.produced, pull.events⟩

/-- One character on. -/
def skip (pull : Pull) : Pull := { pull with stream := pull.stream.advance.2 }

/-- A construct is announced. -/
def enter (pull : Pull) (announced : Log.Mode) : Pull :=
  { pull with events := .entered announced :: pull.events }

/-- **A token ends** where the stream stands. -/
def produce (pull : Pull) (token : Token) : Pull :=
  { pull with
    tokens := token :: pull.tokens
    spans := ⟨pull.start, pull.stream.position⟩ :: pull.spans
    events := .produced token pull.start.line pull.start.column :: pull.events }

/-- **The scan fails** on the construct. -/
def fail (pull : Pull) (cause : LexError.Cause) : Failure :=
  ⟨⟨cause, pull.start⟩, .aborted ⟨cause, pull.start⟩ :: pull.events⟩

/-- An identifier: all the characters of identifiers there are. -/
def identifier (pull : Pull) : Pull :=
  let entered := pull.enter .identifier
  let taken := entered.stream.takeWhile Codepoint.isIdentifierChar
  produce { entered with stream := taken.2 } (.identifier (String.ofList taken.1))

/-- A string: the opening quote, the characters in front of the next one, and that. -/
def string (pull : Pull) : Except Failure Pull :=
  let entered := (pull.enter .string).skip
  match entered.stream.takeUntil '"' with
  | (some content, stream) =>
    .ok (produce (skip { entered with stream := stream }) (.string (String.ofList content)))
  | (none, stream) => .error (fail { entered with stream := stream } .unterminated)

/-- A number: all the digits there are, if 64 bits hold their value. -/
def number (pull : Pull) : Except Failure Pull :=
  let entered := pull.enter .number
  let taken := entered.stream.takeWhile Char.isDigit
  let value := decimal taken.1
  let passed := { entered with stream := taken.2 }
  if value ≤ largest then .ok (passed.produce (.integer (Int64.ofNat value)))
  else .error (passed.fail (.ofDigits (String.ofList taken.1)))

/-- An operator, if the character is one. -/
def operator (pull : Pull) (c : Char) : Except Failure Pull :=
  match Operator.ofChar? c with
  | some op => .ok (pull.skip.produce (.operator op))
  | none => .error (pull.fail (.unrecognized c))

/-- **The construct that starts with a character**, which was looked at and not consumed. -/
def construct (pull : Pull) (c : Char) : Except Failure Pull :=
  if Codepoint.isBlank c then .ok pull.skip
  else if Codepoint.isIdentifierChar c then .ok pull.identifier
  else if c = '"' then pull.string
  else if c.isDigit then pull.number
  else if c = ';' then .ok (pull.skip.produce .semicolon)
  else pull.operator c

/-! ## A construct takes its first character -/

variable {pull next : Pull} {c : Char} {text : List Char}

theorem drain_skip (left : pull.stream.drain = c :: text) : pull.skip.stream.drain = text := by
  obtain ⟨rest, taken, rfl, -⟩ := Stream.exists_advance left
  exact congrArg (·.2.drain) taken

theorem position_skip (left : pull.stream.drain = c :: text) :
    pull.skip.stream.position = pull.stream.position.step c := by
  obtain ⟨rest, taken, -, moved⟩ := Stream.exists_advance left
  rw [← moved]
  exact congrArg (·.2.position) taken

/-- Taking all of a class leaves no more than what is behind the first of it. -/
theorem length_drain_takeWhile {p : Char → Bool} {stream : Stream} (left : stream.drain = c :: text)
    (belongs : p c = true) : (stream.takeWhile p).2.drain.length ≤ text.length := by
  rw [(Stream.takeWhile_eq p stream).2.1, left, List.dropWhile_cons_of_pos belongs]
  exact (List.dropWhile_sublist p).length_le

/-- What is behind a string is behind its opening quote. -/
theorem length_drain_string (left : pull.stream.drain = c :: text)
    (read : pull.string = .ok next) : next.stream.drain.length ≤ text.length := by
  have inside : (pull.enter .string).skip.stream.drain = text := drain_skip left
  obtain ⟨content, rest, stream, split, -, taken, closing, -⟩ | ⟨-, none⟩ :=
    Stream.takeUntil_eq '"' (pull.enter .string).skip.stream
  · rw [string, taken] at read
    obtain rfl := Except.ok.inj read
    have behind : stream.advance.2.drain = rest := by
      obtain ⟨_, taken, rfl, -⟩ := Stream.exists_advance closing
      exact congrArg (·.2.drain) taken
    rw [inside] at split
    change stream.advance.2.drain.length ≤ _
    rw [behind, split, List.length_append, List.length_cons]
    omega
  · rw [string] at read
    split at read
    · rename_i taken
      rw [taken] at none
      cases none
    · cases read

theorem length_drain_number (left : pull.stream.drain = c :: text) (digit : c.isDigit = true)
    (read : pull.number = .ok next) : next.stream.drain.length ≤ text.length := by
  have taken := length_drain_takeWhile left digit
  rw [number] at read
  split at read
  · obtain rfl := Except.ok.inj read
    exact taken
  · cases read

theorem length_drain_operator (left : pull.stream.drain = c :: text)
    (read : pull.operator c = .ok next) : next.stream.drain.length ≤ text.length := by
  rw [operator] at read
  split at read
  · obtain rfl := Except.ok.inj read
    exact Nat.le_of_eq (congrArg List.length (drain_skip left))
  · cases read

/-- **A construct leaves no more than what is behind its first character.** -/
theorem length_drain_construct (left : pull.stream.drain = c :: text)
    (read : pull.construct c = .ok next) : next.stream.drain.length ≤ text.length := by
  have skipped : pull.skip.stream.drain.length ≤ text.length :=
    Nat.le_of_eq (congrArg List.length (drain_skip left))
  unfold construct at read
  split at read
  · obtain rfl := Except.ok.inj read
    exact skipped
  split at read
  · rename_i letter
    obtain rfl := Except.ok.inj read
    exact length_drain_takeWhile left letter
  split at read
  · exact length_drain_string left read
  split at read
  · rename_i digit
    exact length_drain_number left digit read
  split at read
  · obtain rfl := Except.ok.inj read
    exact skipped
  · exact length_drain_operator left read

/-- **One construct after another**, until the stream gives none. -/
def run (pull : Pull) : Except Failure Pull :=
  match _looked : pull.stream.peek with
  | (none, stream) =>
    .ok { pull with
      stream := stream
      events := .complete pull.tokens.length :: pull.events }
  | (some c, stream) =>
    match _read : construct { pull with stream := stream, start := stream.position } c with
    | .ok next => next.run
    | .error failure => .error failure
termination_by pull.stream.drain.length
decreasing_by
  obtain ⟨text, left, left'⟩ := Stream.drain_of_peek _looked
  rw [left]
  exact Nat.lt_succ_of_le (length_drain_construct left' _read)

end Pull

end SourceScan.Lex
