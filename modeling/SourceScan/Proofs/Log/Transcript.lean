import SourceScan.Proofs.Log.Report
import SourceScan.Proofs.Log.Session
import SourceScan.Proofs.Source.Loading
import SourceScan.Proofs.Text.Bytes

/-!
# Proofs/Log/Transcript — the loudest log is a transcript

At the loudest level the log of a session holds all that happens, in its order.  What happens in the
scan of a source is told by its tokens and its error; what happens in that of a reader is that its
source is loaded, and then the scan of the source, or else one warning.

* `events_scanReader_of_ok`, `events_scanReader_of_error` — what happens in the scan of a reader.
* `log_transcript` — all of it, as it happens, as it is reported and as the log holds it.
-/

namespace SourceScan

open Log SourceScan.Lex

/-- **What is told of a load that fails.** -/
def LoadError.event : LoadError → Event
  | .unreadable fault => .unreadable fault
  | .undecodable offset => .undecodable offset

/-- It is reported as a refusal. -/
theorem LoadError.report_event (error : LoadError) : error.event.report = Report.refused error := by
  cases error <;> rfl

variable {config : ScannerConfig} {reader : Reader}

theorem events_loadSource (config : ScannerConfig) (reader : Reader) :
    (loadSource config reader).events =
      match (loadSource config reader).result with
      | .ok _ => []
      | .error error => [error.event] := by
  rw [loadSource]
  split
  · rfl
  · split <;> rfl

/-- **A source that is loaded** is told by its size, and then by its scan. -/
theorem events_scanReader_of_ok {source : String}
    (loaded : (loadSource config reader).result = .ok source) :
    (scanReader config reader).events =
      .loaded source.utf8ByteSize :: (scanSource source).events := by
  have silent := events_loadSource config reader
  rw [loaded] at silent
  rw [scanReader, loaded, silent]
  rfl

/-- **A source that is not loaded** is told by one warning. -/
theorem events_scanReader_of_error {error : LoadError}
    (failed : (loadSource config reader).result = .error error) :
    (scanReader config reader).events = [error.event] := by
  have warned := events_loadSource config reader
  rw [failed] at warned
  rw [scanReader, failed]
  exact warned

namespace Log

/-- **The loudest log is a transcript.**  If the level of the lexer is the loudest, the log of a
source that scans reports that the scan begins, of every token in order the construct announced and
the token with its place, and how many there are; that of a source that fails reports so of the
tokens of the text in front of the error, then the construct in which it lies, and the error.  For a
reader the size of the source comes first, or one warning is all. -/
theorem log_transcript (config : LogConfig) (loud : config.lexer.getD config.global = .trace) :
    (∀ source spanned, (scanSource source).result = .ok spanned →
      (scanSource source).events = completed spanned ∧
      (scanSource source).events.map Event.report = Report.completed spanned ∧
      (Session.run config 1 [.source source]).log =
        (Report.completed spanned).map (Report.written config.format)) ∧
    (∀ source error, (scanSource source).result = .error error →
      ∃ (before rest : String) (spanned : List SpannedToken), source = before ++ rest ∧
        before.utf8ByteSize = error.position.offset ∧
        (scanSource before).result = .ok spanned ∧
        (scanSource source).events = abandoned spanned error ∧
        (scanSource source).events.map Event.report = Report.abandoned spanned error ∧
        (Session.run config 1 [.source source]).log =
          (Report.abandoned spanned error).map (Report.written config.format)) ∧
    (∀ reader source, (loadSource {} reader).result = .ok source →
      (scanReader {} reader).events =
        .loaded source.utf8ByteSize :: (scanSource source).events ∧
      (Session.run config 1 [.reader reader]).log =
        (Report.loaded source).written config.format ::
          (Session.run config 1 [.source source]).log) ∧
    (∀ reader error, (loadSource {} reader).result = .error error →
      (scanReader {} reader).events = [error.event] ∧
      (Session.run config 1 [.reader reader]).log =
        [(Report.refused error).written config.format]) ∧
    ∀ steps, (Session.run config 1 steps).log =
      steps.flatMap fun step => (Session.run config 1 [step]).log := by
  have level : config.lexerLevel = .trace := loud
  have whole (steps : List Step) : (Session.run config 1 steps).log =
      (Step.eventsOf steps).map (Entry.ofEvent config.format) := by
    rw [Session.log_run_succ, level, heard_trace]
  have single (step : Step) : (Session.run config 1 [step]).log =
      step.outcome.events.map (Entry.ofEvent config.format) := by
    rw [whole, Step.eventsOf, List.flatMap_singleton]
  have sourced (source : String) : (Session.run config 1 [.source source]).log =
      (scanSource source).events.map (Entry.ofEvent config.format) := single (.source source)
  have read (reader : Reader) : (Session.run config 1 [.reader reader]).log =
      (scanReader {} reader).events.map (Entry.ofEvent config.format) := single (.reader reader)
  refine ⟨fun source spanned scanned => ?_, fun source error failed => ?_,
    fun reader source loaded => ?_, fun reader error failed => ?_, fun steps => ?_⟩
  · have told := events_scanSource_of_ok scanned
    have reported := Report.map_report_completed spanned
    rw [sourced, Report.map_ofEvent, told, reported]
    exact ⟨rfl, rfl, rfl⟩
  · obtain ⟨before, rest, spanned, split, size, scanned, told⟩ := events_scanSource_of_error failed
    have reported := Report.map_report_abandoned spanned error
    refine ⟨before, rest, spanned, split, size, scanned, ?_⟩
    rw [sourced, Report.map_ofEvent, told, reported]
    exact ⟨rfl, rfl, rfl⟩
  · have told := events_scanReader_of_ok loaded
    rw [read, sourced, told, List.map_cons, Report.ofEvent_eq_written]
    exact ⟨rfl, rfl⟩
  · have told := events_scanReader_of_error failed
    rw [read, told, List.map_singleton, Report.ofEvent_eq_written, LoadError.report_event]
    exact ⟨rfl, rfl⟩
  · rw [whole, Step.eventsOf, List.map_flatMap]
    exact List.flatMap_congr fun step _ => (single step).symm

/-- A source of two tokens on two lines, one with a string that is never closed behind a token, a
reader that delivers a semicolon, and one that fails. -/
theorem log_transcript_unclosed :
    (Session.run ⟨.off, some .trace, .compact⟩ 1 [.source "a\n7"]).log =
        [.line "TRACE Creating new Scanner", .line "TRACE Entering identifier mode",
          .line "TRACE Produced token token=Identifier(\"a\") line=1 column=1",
          .line "TRACE Entering number mode",
          .line "TRACE Produced token token=IntegerLiteral(7) line=2 column=1",
          .line "DEBUG Scan complete count=2"] ∧
      (Session.run ⟨.off, some .trace, .pretty⟩ 1 [.source "; \""]).log =
        [.line "TRACE gfn::lexer::scanner: Creating new Scanner",
          .line ("TRACE gfn::lexer::scanner: Produced token, " ++
            "token: Semicolon, line: 1, column: 1"),
          .line "TRACE gfn::lexer::scanner: Entering string mode",
          .line (" WARN gfn::lexer::scanner: Lex error, aborting scan, " ++
            "error: [1:3] unterminated string literal")] ∧
      (Session.run ⟨.trace, none, .json⟩ 1 [.reader [.data [0x3B]]]).log =
        .object (.object [("level", .string "DEBUG"), ("target", .string "gfn::lexer::scanner"),
          ("fields", .object [("message", .string "Loaded source"), ("bytes", .number 1)])]) ::
          (Session.run ⟨.trace, none, .json⟩ 1 [.source ";"]).log ∧
      (Session.run ⟨.trace, none, .compact⟩ 1
        [.reader [.fault ⟨.other "TimedOut", "timed out"⟩]]).log =
        [.line " WARN Failed to read source error=timed out"] := by
  refine ⟨?_, ?_, ?_, ?_⟩
  · obtain ⟨scanned, -⟩ := log_transcript ⟨.off, some .trace, .compact⟩ rfl
    exact (scanned "a\n7" [⟨.identifier "a", ⟨1, 1, 0⟩, ⟨1, 2, 1⟩⟩,
      ⟨.integer 7, ⟨2, 1, 2⟩, ⟨2, 2, 3⟩⟩] rfl).2.2
  · obtain ⟨-, failed, -⟩ := log_transcript ⟨.off, some .trace, .pretty⟩ rfl
    obtain ⟨before, rest, spanned, split, size, scanned, -, -, log⟩ :=
      failed "; \"" ⟨.unterminated, ⟨1, 3, 2⟩⟩ rfl
    have cut : before ++ rest = "; " ++ "\"" := split.symm
    obtain ⟨rfl, -⟩ := string_append_cancel cut size
    have semicolon : (scanSource "; ").result = .ok [⟨.semicolon, ⟨1, 1, 0⟩, ⟨1, 2, 1⟩⟩] := rfl
    obtain rfl := Except.ok.inj (scanned.symm.trans semicolon)
    exact log
  · obtain ⟨-, -, loaded, -⟩ := log_transcript ⟨.trace, none, .json⟩ rfl
    exact (loaded _ ";" ((result_loadSource_eq_ok_iff {} rfl).mpr rfl)).2
  · obtain ⟨-, -, -, refused, -⟩ := log_transcript ⟨.trace, none, .compact⟩ rfl
    exact (refused _ (.unreadable ⟨.other "TimedOut", "timed out"⟩)
      (result_loadSource_of_fault {} rfl)).2

end Log

end SourceScan
