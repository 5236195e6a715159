import SourceScan.Json.Value
import SourceScan.Log.Entry

/-!
# Config/Basic — the configuration

A configuration says in what pieces a source is read and what its log holds.  Every field has a
default, so that a document names only what it changes.

* `Config`, `ScannerConfig`, `LogConfig` — the configuration and its two parts.
* `LogConfig.lexerLevel` — the level of the lexer: its own, or else the level of everything.
* `Config.toJson`, `Config.dump` — the document that names every field.
-/

namespace SourceScan

/-- **How a source is read.** -/
structure ScannerConfig where
  /-- How many bytes a read has room for. -/
  readCapacity : UInt64 := 4096
deriving DecidableEq, Repr

/-- **What a log holds**, and how. -/
structure LogConfig where
  /-- The level of everything. -/
  global : Log.Level := .info
  /-- A level for the lexer alone. -/
  lexer : Option Log.Level := none
  /-- How an entry is written. -/
  format : Log.Format := .compact
deriving DecidableEq, Repr

/-- **The configuration.** -/
structure Config where
  scanner : ScannerConfig := {}
  log : LogConfig := {}
deriving DecidableEq, Repr

/-- **The level of the lexer**: its own, or else the level of everything. -/
def LogConfig.lexerLevel (config : LogConfig) : Log.Level := config.lexer.getD config.global

/-- The JSON form of the settings for reading. -/
def ScannerConfig.toJson (config : ScannerConfig) : Json :=
  .object [("read_capacity", .number config.readCapacity.toNat)]

/-- The JSON form of the settings of a log. -/
def LogConfig.toJson (config : LogConfig) : Json :=
  .object [("global", .string config.global.name),
    ("lexer", config.lexer.elim .null fun level => .string level.name),
    ("format", .string config.format.name)]

/-- **The JSON form of a configuration**, which names every field. -/
def Config.toJson (config : Config) : Json :=
  .object [("scanner", config.scanner.toJson), ("log", config.log.toJson)]

/-- **The document of a configuration.** -/
def Config.dump (config : Config) : String := config.toJson.render

end SourceScan
