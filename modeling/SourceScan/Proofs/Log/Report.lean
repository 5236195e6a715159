import SourceScan.Log.Entry
import SourceScan.Proofs.Lex.Transcript
import SourceScan.Source.Load

/-!
# Proofs/Log/Report — the words of a log

What a log tells of an event is a **report**: how grave the event is, the phase it belongs to, what
it says, and with which fields.  Here the reports of a scan are spelled out, and so is the entry
that each format makes of a report.

* `Event.report` — the report of an event.
* `Report.ofToken`, `Report.ofError` — what is reported of a token, and of an error.
* `Report.completed`, `Report.abandoned` — what is reported of a scan; `Report.loaded` and
  `Report.refused` — of loading a source.
* `Report.written` — the entry of a report; `map_ofEvent` — it is the entry of the event.
-/

namespace SourceScan

namespace Log

/-- **A report**: what a log tells of an event, in whatever format. -/
structure Report where
  severity : Severity
  target : String
  message : String
  fields : List (String × Field)
deriving DecidableEq, Repr

/-- The report of an event. -/
def Event.report (event : Event) : Report :=
  ⟨event.severity, event.target, event.message, event.fields⟩

namespace Report

/-! ## What is reported -/

/-- A report of the scanner. -/
def ofScanner (severity : Severity) (message : String) (fields : List (String × Field)) : Report :=
  ⟨severity, "gfn::lexer::scanner", message, fields⟩

/-- A report of the stream, which is always a warning. -/
def ofStream (message : String) (fields : List (String × Field)) : Report :=
  ⟨.warn, "gfn::lexer::stream", message, fields⟩

/-- A token has been produced. -/
def produced (spanned : SpannedToken) : Report :=
  ofScanner .trace "Produced token" [("token", .text spanned.token.shown),
    ("line", .number spanned.span.start.line), ("column", .number spanned.span.start.column)]

/-- **What is reported of a token**: its construct, if it may take more than one character, and then
the token with the line and the column of its start. -/
def ofToken (spanned : SpannedToken) : List Report :=
  match spanned.token with
  | .identifier _ => [ofScanner .trace "Entering identifier mode" [], produced spanned]
  | .string _ => [ofScanner .trace "Entering string mode" [], produced spanned]
  | .integer _ => [ofScanner .trace "Entering number mode" [], produced spanned]
  | .operator _ | .semicolon => [produced spanned]

/-- **What is reported of an error**: the construct it lies in, if there is one, and then the
error. -/
def ofError (error : LexError) : List Report :=
  let aborted := ofScanner .warn "Lex error, aborting scan" [("error", .text error.message)]
  match error.cause with
  | .unterminated => [ofScanner .trace "Entering string mode" [], aborted]
  | .overflow .. => [ofScanner .trace "Entering number mode" [], aborted]
  | .unrecognized _ => [aborted]

/-- The first report of a scan. -/
def created : Report := ofScanner .trace "Creating new Scanner" []

/-- **What is reported of a scan that succeeds.** -/
def completed (spanned : List SpannedToken) : List Report :=
  created :: (spanned.flatMap ofToken ++
    [ofScanner .debug "Scan complete" [("count", .number spanned.length)]])

/-- **What is reported of a scan that fails** behind some tokens. -/
def abandoned (spanned : List SpannedToken) (error : LexError) : List Report :=
  created :: (spanned.flatMap ofToken ++ ofError error)

/-- **What is reported of a source that is loaded.** -/
def loaded (source : String) : Report :=
  ofScanner .debug "Loaded source" [("bytes", .number source.utf8ByteSize)]

/-- **What is reported of a source that is not loaded.** -/
def refused : LoadError → Report
  | .unreadable fault => ofStream "Failed to read source" [("error", .text fault.text)]
  | .undecodable offset => ofStream "Source is not valid UTF-8" [("offset", .number offset)]

/-- The events of a token are reported so. -/
theorem map_report_events (spanned : SpannedToken) :
    spanned.events.map Event.report = ofToken spanned := by
  obtain ⟨token, span⟩ := spanned
  cases token <;> rfl

/-- The events of tokens are reported so, one token after another. -/
theorem map_report_flatMap (spanned : List SpannedToken) :
    (spanned.flatMap SpannedToken.events).map Event.report = spanned.flatMap ofToken := by
  rw [List.map_flatMap]
  exact List.flatMap_congr fun token _ => map_report_events token

/-- **The events of a scan that succeeds are reported so.** -/
theorem map_report_completed (spanned : List SpannedToken) :
    (Lex.completed spanned).map Event.report = completed spanned := by
  rw [Lex.completed, List.map_cons, List.map_append, map_report_flatMap]
  rfl

/-- **The events of a scan that fails are reported so.** -/
theorem map_report_abandoned (spanned : List SpannedToken) (error : LexError) :
    (Lex.abandoned spanned error).map Event.report = abandoned spanned error := by
  have last : (Lex.Machine.announcedDefect error.cause ++ [Event.aborted error]).map Event.report =
      ofError error := by
    obtain ⟨cause, position⟩ := error
    cases cause <;> rfl
  rw [Lex.abandoned, List.map_cons, List.map_append, map_report_flatMap, last]
  rfl

/-! ## How it is written -/

/-- The word of a severity. -/
def word : Severity → String
  | .error => "ERROR"
  | .warn => "WARN"
  | .info => "INFO"
  | .debug => "DEBUG"
  | .trace => "TRACE"

/-- The word of a severity in five columns. -/
def label (severity : Severity) : String :=
  if severity = .warn ∨ severity = .info then " " ++ word severity else word severity

/-- The value of a field in a line. -/
def plain : Field → String
  | .number value => value.repr
  | .text value => value

/-- The value of a field in an object. -/
def encoded : Field → Json
  | .number value => .number value
  | .text value => .string value

/-- **A report in writing**: a line without or with its target, or an object. -/
def written (format : Format) (report : Report) : Entry :=
  match format with
  | .compact => .line (label report.severity ++ " " ++ report.message ++
      String.join (report.fields.map fun field => " " ++ field.1 ++ "=" ++ plain field.2))
  | .pretty => .line (label report.severity ++ " " ++ report.target ++ ": " ++ report.message ++
      String.join (report.fields.map fun field => ", " ++ field.1 ++ ": " ++ plain field.2))
  | .json => .object (.object [("level", .string (word report.severity)),
      ("target", .string report.target),
      ("fields", .object (("message", .string report.message) ::
        report.fields.map fun field => (field.1, encoded field.2)))])

theorem label_severity (event : Event) : Entry.label event = label event.severity := by
  rw [Entry.label]
  cases event.severity <;> rfl

/-- Fields put behind a line one after another are put behind it at once. -/
theorem foldl_fields (separator equals : String) (fields : List (String × Field)) (line : String) :
    fields.foldl (fun line field => line ++ separator ++ field.1 ++ equals ++ field.2.plain) line =
      line ++ String.join (fields.map fun field =>
        separator ++ field.1 ++ equals ++ plain field.2) := by
  induction fields generalizing line with
  | nil => exact String.append_empty.symm
  | cons field fields ih =>
    have same : field.2.plain = plain field.2 := by cases field.2 <;> rfl
    rw [List.foldl_cons, ih, List.map_cons, String.join_cons, same]
    simp only [String.append_assoc]

/-- **An event is written as its report.** -/
theorem ofEvent_eq_written (format : Format) (event : Event) :
    Entry.ofEvent format event = written format event.report := by
  cases format with
  | pretty =>
    rw [Entry.ofEvent, Entry.pretty, foldl_fields, label_severity]
    rfl
  | compact =>
    rw [Entry.ofEvent, Entry.compact, foldl_fields, label_severity]
    rfl
  | json =>
    have level : event.severity.name = word event.severity := by cases event.severity <;> rfl
    have values : (event.fields.map fun field => (field.1, field.2.toJson)) =
        event.fields.map fun field => (field.1, encoded field.2) :=
      List.map_congr_left fun field _ => by cases field.2 <;> rfl
    rw [Entry.ofEvent, Entry.record, level, values]
    rfl

/-- **The entries of some events** are those of their reports. -/
theorem map_ofEvent (format : Format) (events : List Event) :
    events.map (Entry.ofEvent format) = (events.map Event.report).map (written format) := by
  rw [List.map_map]
  exact List.map_congr_left fun event _ => ofEvent_eq_written format event

end Report

end Log

end SourceScan
