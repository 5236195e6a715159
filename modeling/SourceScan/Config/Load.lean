import SourceScan.Config.Basic
import SourceScan.Json.Record

/-!
# Config/Load — loading a configuration from a document

A configuration is loaded from a JSON document.  Fields that are left out take their defaults and
unknown ones are passed over; anything else that does not fit is an error with its place.

* `Config.load` — the configuration of a document.
* `ConfigError.message` — the wording of an error.
-/

namespace SourceScan

/-- **Why a document is no configuration**, and where. -/
structure ConfigError where
  cause : Json.Cause
  place : Json.Place
deriving DecidableEq, Repr

/-- **The wording of an error**: its cause, then its line and column. -/
def ConfigError.message (error : ConfigError) : String :=
  "invalid configuration: " ++ error.cause.message ++ " at line " ++ error.place.line.repr ++
    " column " ++ error.place.column.repr

open Json (Reading)

/-- The levels by their names. -/
def Log.Level.names : List (String × Log.Level) := all.map fun level => (level.name, level)

/-- The formats by their names. -/
def Log.Format.names : List (String × Log.Format) := all.map fun format => (format.name, format)

/-- A level in a document: a choice of names. -/
def Log.Level.reading : Reading Log.Level := Json.choice names

/-- A format in a document: a choice of names. -/
def Log.Format.reading : Reading Log.Format := Json.choice names

/-- The settings for reading in a document. -/
def ScannerConfig.reading : Reading ScannerConfig :=
  Json.record "struct ScannerConfig"
    [.of "read_capacity" (Json.unsigned "usize") fun capacity config =>
      { config with readCapacity := capacity }]
    {}

/-- The settings of a log in a document. -/
def LogConfig.reading : Reading LogConfig :=
  Json.record "struct LogConfig"
    [.of "global" Log.Level.reading fun level config => { config with global := level },
      .of "lexer" (Json.optional Log.Level.reading) fun level config =>
        { config with lexer := level },
      .of "format" Log.Format.reading fun format config => { config with format := format }]
    {}

namespace Config

/-- The configuration in a document. -/
def reading : Reading Config :=
  Json.record "struct Config"
    [.of "scanner" ScannerConfig.reading fun scanner config => { config with scanner := scanner },
      .of "log" LogConfig.reading fun log config => { config with log := log }]
    {}

/-- **Loading a configuration** from a document. -/
def load (document : String) : Except ConfigError Config :=
  (Json.document reading document.toList).mapError fun fault =>
    ⟨fault.cause, fault.place document.toList⟩

end Config

end SourceScan
