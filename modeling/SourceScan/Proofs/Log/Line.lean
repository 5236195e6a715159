import Mathlib.Data.List.TakeWhile
import SourceScan.Proofs.Log.Transcript
import SourceScan.Proofs.Token.Shown

/-!
# Proofs/Log/Line — a source forges no line of a log

What a source says reaches a log in two ways.  A token is shown with its texts quoted, and a quoted
text has no line break.  An error is worded with what the source has at its place as it stands: a
character that no token starts with, or digits.  A line break is a blank, and so it is neither.

* `OneLine` — a text without line breaks; what is shown and worded of a source is such a text.
* `Event.Scanned`, `scanned_of_mem_events` — what a scan may tell.
* `Entry.oneLine_compact`, `Entry.oneLine_pretty` — an event of a scan is written on one line.
* `log_lines` — the log of some sources, and the token behind a logged one.
-/

namespace SourceScan.Log

open SourceScan.Lex

/-! ## Texts on one line -/

/-- **A text on one line**: no line feed and no carriage return. -/
def OneLine (text : String) : Prop := '\n' ∉ text.toList ∧ '\r' ∉ text.toList

instance (text : String) : Decidable (OneLine text) :=
  inferInstanceAs (Decidable ('\n' ∉ text.toList ∧ '\r' ∉ text.toList))

variable {text text' : String}

theorem oneLine_iff : OneLine text ↔ ∀ c ∈ text.toList, c ≠ '\n' ∧ c ≠ '\r' := by
  constructor
  · rintro ⟨noFeed, noReturn⟩ c member
    exact ⟨fun feed => noFeed (feed ▸ member), fun ret => noReturn (ret ▸ member)⟩
  · intro others
    exact ⟨fun feed => (others _ feed).1 rfl, fun ret => (others _ ret).2 rfl⟩

/-- One line behind another is one line. -/
theorem OneLine.append (line : OneLine text) (line' : OneLine text') : OneLine (text ++ text') := by
  rw [oneLine_iff, String.toList_append] at *
  intro c member
  exact (List.mem_append.mp member).elim (line c) (line' c)

/-- A text of characters that are no blanks is one line. -/
theorem oneLine_of_not_isBlank
    (solid : ∀ c ∈ text.toList, Codepoint.isBlank c = false) : OneLine text := by
  refine oneLine_iff.mpr fun c member => ⟨?_, ?_⟩
  · rintro rfl
    exact absurd (solid _ member) (by decide)
  · rintro rfl
    exact absurd (solid _ member) (by decide)

theorem oneLine_repr (value : Nat) : OneLine value.repr := by
  refine oneLine_of_not_isBlank fun c member => ?_
  rw [Nat.toList_repr] at member
  exact Codepoint.isBlank_of_isDigit (allDigits_toDigits value c member)

theorem oneLine_repr_int (value : Int) : OneLine value.repr := by
  refine oneLine_of_not_isBlank fun c member => ?_
  obtain rfl | digit := isDigit_or_of_mem_repr member
  · decide
  · exact Codepoint.isBlank_of_isDigit digit

theorem oneLine_quote (text : String) : OneLine (Quoted.quote text) :=
  oneLine_iff.mpr fun _ => Quoted.ne_of_mem_quote

/-- **A shown token is one line**, whatever its texts hold. -/
theorem oneLine_shown (token : Token) : OneLine token.shown := by
  have close : OneLine ")" := by decide
  cases token with
  | operator op => cases op <;> decide
  | semicolon => decide
  | integer value =>
    have word : OneLine "IntegerLiteral(" := by decide
    exact (word.append (oneLine_repr_int _)).append close
  | string content =>
    have word : OneLine "StringLiteral(" := by decide
    exact (word.append (oneLine_quote content)).append close
  | identifier name =>
    have word : OneLine "Identifier(" := by decide
    exact (word.append (oneLine_quote name)).append close

/-- **The wording of a cause is one line** if a text starts with a defect of it: the character is no
blank, and the leading digits are digits. -/
theorem oneLine_message_cause {cause : LexError.Cause} {rest : List Char}
    (starts : cause.Starts rest) : OneLine cause.message := by
  cases cause with
  | unrecognized c =>
    obtain ⟨-, solid, -⟩ := starts
    have character : OneLine c.toString := by
      refine oneLine_of_not_isBlank fun d member => ?_
      rw [Char.toString_eq_singleton, String.toList_singleton] at member
      obtain rfl := List.mem_singleton.mp member
      exact solid
    have words : OneLine "Scanner encountered unrecognized character '" := by decide
    have close : OneLine "'" := by decide
    exact (words.append character).append close
  | unterminated => decide
  | overflow leading count =>
    obtain ⟨-, -, rfl⟩ := starts
    have digits : OneLine (String.ofList ((digitRun rest).take (min 20 count))) := by
      refine oneLine_of_not_isBlank fun c member => ?_
      rw [String.toList_ofList] at member
      exact Codepoint.isBlank_of_isDigit ((allDigits_digitRun rest).take _ c member)
    have words : OneLine "integer literal '" := by decide
    have dots : OneLine "...' (" := by decide
    have close : OneLine " digits) is too large" := by decide
    exact (((words.append digits).append dots).append (oneLine_repr count)).append close

/-- **The wording of an error is one line** if a text starts with its defect. -/
theorem oneLine_message {error : LexError} {rest : List Char}
    (starts : error.cause.Starts rest) : OneLine error.message := by
  have opening : OneLine "[" := by decide
  have colon : OneLine ":" := by decide
  have close : OneLine "] " := by decide
  have place := ((opening.append (oneLine_repr error.position.line)).append colon).append
    (oneLine_repr error.position.column)
  exact (place.append close).append (oneLine_message_cause starts)

/-! ## What a scan tells -/

/-- **What a scan may tell**: that it begins or is over, constructs and tokens, and an error that a
text starts with. -/
def Event.Scanned : Event → Prop
  | .created | .entered _ | .produced .. | .complete _ => True
  | .aborted error => ∃ rest, error.cause.Starts rest
  | .loaded _ | .unreadable _ | .undecodable _ => False

variable {event : Event}

/-- What is told of a token. -/
theorem scanned_of_mem_events_token {spanned : SpannedToken} (told : event ∈ spanned.events) :
    event.Scanned := by
  obtain ⟨token, span⟩ := spanned
  obtain announced | produced := List.mem_append.mp told
  · cases token <;> cases announced <;> trivial
  · obtain rfl := List.mem_singleton.mp produced
    trivial

/-- **What a scan tells.** -/
theorem scanned_of_mem_events {source : String} (told : event ∈ (scanSource source).events) :
    event.Scanned := by
  have tokens {spanned : List SpannedToken}
      (told : event ∈ spanned.flatMap SpannedToken.events) : event.Scanned := by
    obtain ⟨_, -, told⟩ := List.mem_flatMap.mp told
    exact scanned_of_mem_events_token told
  cases result : (scanSource source).result with
  | ok spanned =>
    rw [events_scanSource_of_ok result] at told
    obtain _ | ⟨_, told⟩ := told
    · trivial
    obtain told | told := List.mem_append.mp told
    · exact tokens told
    · obtain rfl := List.mem_singleton.mp told
      trivial
  | error error =>
    obtain ⟨_, rest, -, -, starts, -⟩ := result_eq_error_iff.mp result
    obtain ⟨-, -, spanned, -, -, -, events⟩ := events_scanSource_of_error result
    rw [events] at told
    obtain _ | ⟨_, told⟩ := told
    · trivial
    obtain told | told := List.mem_append.mp told
    · exact tokens told
    obtain told | told := List.mem_append.mp told
    · obtain ⟨cause, position⟩ := error
      cases cause <;> cases told <;> trivial
    · obtain rfl := List.mem_singleton.mp told
      exact ⟨rest, starts⟩

/-- The target of an event is one line. -/
theorem Event.oneLine_target (event : Event) : OneLine event.target := by
  have stream : OneLine (lexerTarget ++ "::stream") := by decide
  have scanner : OneLine (lexerTarget ++ "::scanner") := by decide
  cases event with
  | unreadable _ | undecodable _ => exact stream
  | _ => exact scanner

namespace Event.Scanned

/-- The message of an event is one line. -/
theorem oneLine_message (scanned : event.Scanned) : OneLine event.message := by
  cases event with
  | entered mode => cases mode <;> decide
  | loaded _ | unreadable _ | undecodable _ => exact scanned.elim
  | _ =>
    rw [message]
    decide

/-- **The fields of an event are one line** each, with their names. -/
theorem oneLine_fields (scanned : event.Scanned) :
    ∀ field ∈ event.fields, OneLine field.1 ∧ OneLine field.2.plain := by
  cases event with
  | created | entered mode => nofun
  | produced token line column =>
    simp only [fields, List.forall_mem_cons, List.not_mem_nil, false_implies, implies_true,
      and_true]
    exact ⟨⟨by decide, oneLine_shown token⟩, ⟨by decide, oneLine_repr line⟩,
      by decide, oneLine_repr column⟩
  | complete count =>
    simp only [fields, List.forall_mem_singleton]
    exact ⟨by decide, oneLine_repr count⟩
  | aborted error =>
    obtain ⟨rest, starts⟩ := scanned
    simp only [fields, List.forall_mem_singleton]
    exact ⟨by decide, Log.oneLine_message starts⟩
  | loaded _ | unreadable _ | undecodable _ => exact scanned.elim

end Event.Scanned

/-! ## Entries -/

namespace Entry

theorem oneLine_label (event : Event) : OneLine (label event) := by
  rw [label]
  cases event.severity <;> decide

/-- **Fields put behind a line** leave it one line. -/
theorem oneLine_foldl {separator equals : String} (separated : OneLine separator)
    (equated : OneLine equals) {fields : List (String × Field)}
    (lines : ∀ field ∈ fields, OneLine field.1 ∧ OneLine field.2.plain) {line : String}
    (start : OneLine line) :
    OneLine (fields.foldl
      (fun line field => line ++ separator ++ field.1 ++ equals ++ field.2.plain) line) := by
  induction fields generalizing line with
  | nil => exact start
  | cons field fields ih =>
    obtain ⟨⟨name, value⟩, lines⟩ := List.forall_mem_cons.mp lines
    exact ih lines ((((start.append separated).append name).append equated).append value)

/-- **An event of a scan is written on one line** without its target. -/
theorem oneLine_compact (scanned : event.Scanned) : OneLine (compact event) := by
  have blank : OneLine " " := by decide
  have equals : OneLine "=" := by decide
  exact oneLine_foldl blank equals scanned.oneLine_fields
    (((oneLine_label event).append blank).append scanned.oneLine_message)

/-- **An event of a scan is written on one line** with its target. -/
theorem oneLine_pretty (scanned : event.Scanned) : OneLine (pretty event) := by
  have blank : OneLine " " := by decide
  have colon : OneLine ": " := by decide
  have comma : OneLine ", " := by decide
  exact oneLine_foldl comma colon scanned.oneLine_fields
    (((((oneLine_label event).append blank).append event.oneLine_target).append colon).append
      scanned.oneLine_message)

end Entry

/-- What the log of some sources holds comes of the scan of one of them. -/
theorem exists_of_mem_log {config : LogConfig} {installs : Nat} {sources : List String}
    {entry : Entry} (held : entry ∈ (Session.run config installs (sources.map .source)).log) :
    ∃ source ∈ sources, ∃ event ∈ (scanSource source).events,
      entry = .ofEvent config.format event := by
  cases installs with
  | zero =>
    rw [Session.run_zero] at held
    cases held
  | succ more =>
    rw [Session.log_run_succ] at held
    obtain ⟨event, told, rfl⟩ := List.mem_map.mp held
    obtain ⟨_, taken, told⟩ := List.mem_flatMap.mp (List.mem_filter.mp told).1
    obtain ⟨source, member, rfl⟩ := List.mem_map.mp taken
    exact ⟨source, member, event, told, rfl⟩

/-- **A source forges no line of a log.**  Whatever a source holds, every event of its scan is
written on one line in the two formats of lines, so that in a log with one of these formats every
entry is one line, however many sources are scanned.  And the token field of a produced token is
that of one token: tokens that are logged alike are the same. -/
theorem log_lines :
    (∀ source, ∀ event ∈ (scanSource source).events,
      OneLine (Entry.compact event) ∧ OneLine (Entry.pretty event)) ∧
    (∀ (config : LogConfig) installs (sources : List String),
      config.format = .compact ∨ config.format = .pretty →
        ∀ entry ∈ (Session.run config installs (sources.map .source)).log,
          ∃ line, entry = .line line ∧ OneLine line) ∧
    (∀ token token' line column line' column',
      (Event.produced token line column).fields.lookup "token" =
          (Event.produced token' line' column').fields.lookup "token" →
        token = token') := by
  have lines (source) (event) (told : event ∈ (scanSource source).events) :
      OneLine (Entry.compact event) ∧ OneLine (Entry.pretty event) :=
    ⟨Entry.oneLine_compact (scanned_of_mem_events told),
      Entry.oneLine_pretty (scanned_of_mem_events told)⟩
  refine ⟨lines, fun config installs sources format entry held => ?_, ?_⟩
  · obtain ⟨source, -, event, told, rfl⟩ := exists_of_mem_log held
    obtain ⟨compact, pretty⟩ := lines source event told
    obtain format | format := format
    · rw [format]
      exact ⟨_, rfl, compact⟩
    · rw [format]
      exact ⟨_, rfl, pretty⟩
  · intro token token' line column line' column' same
    have shown : some (Field.text token.shown) = some (Field.text token'.shown) := same
    exact Token.shown_injective (Field.text.inj (Option.some.inj shown))

/-- A string with a line feed and what looks like an entry, and a character of no use behind it. -/
theorem log_lines_feigned :
    let source := "\"\nWARN Scan complete\" #"
    let feigned := Event.produced (.string "\nWARN Scan complete") 1 1
    let log := (Session.run ⟨.trace, none, .compact⟩ 1 [.source source]).log
    (∀ event ∈ (scanSource source).events,
        OneLine (Entry.compact event) ∧ OneLine (Entry.pretty event)) ∧
      (∀ entry ∈ log, ∃ line, entry = .line line ∧ OneLine line) ∧
      log = [.created, .entered .string, feigned,
        .aborted ⟨.unrecognized '#', ⟨2, 21, 22⟩⟩].map (Entry.ofEvent .compact) ∧
      Entry.compact feigned = "TRACE Produced token " ++
        "token=StringLiteral(\"\\nWARN Scan complete\") line=1 column=1" ∧
      Token.string "\\n" = .string (String.ofList ['\\', 'n']) := by
  intro source feigned log
  obtain ⟨events, entries, tokens⟩ := log_lines
  have written : log = (Step.eventsOf [.source source]).map (Entry.ofEvent .compact) :=
    (Session.log_run_succ ..).trans (heard_trace ..)
  have told : Step.eventsOf [.source "\"\nWARN Scan complete\" #"] =
      [.created, .entered .string, .produced (.string "\nWARN Scan complete") 1 1,
        .aborted ⟨.unrecognized '#', ⟨2, 21, 22⟩⟩] := rfl
  exact ⟨events source, entries ⟨.trace, none, .compact⟩ 1 [source] (.inl rfl),
    written.trans (congrArg _ told), by decide, tokens _ _ 1 1 2 2 rfl⟩

end SourceScan.Log
