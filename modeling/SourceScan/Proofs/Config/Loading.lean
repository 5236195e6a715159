import SourceScan.Config.Load
import SourceScan.Proofs.Json.Record

/-!
# Proofs/Config/Loading — which documents are configurations

A configuration is loaded from exactly those documents whose tree has a meaning to the schema, and
it is the meaning.  The schema is written down for trees, with no word of how a document is read;
each record of it is then matched with what is read for its fields.

* `ScannerConfig.meaning?`, `LogConfig.meaning?`, `Config.meaning?` — the schema.
* `ScannerConfig.spec`, `LogConfig.spec`, `Config.spec` — what is known of the fields.
* `Config.load_eq_ok_iff` — the documents that are configurations.
-/

namespace SourceScan

open Json (Tree Recognizes FieldSpec RecordSpec slot)

/-! ## The schema -/

/-- **The level** that a tree means: one of the names of levels. -/
def Log.Level.meaning? : Tree → Option Log.Level :=
  Tree.choice? [("off", .off), ("error", .error), ("warn", .warn), ("info", .info),
    ("debug", .debug), ("trace", .trace)]

/-- **The format** that a tree means: one of the names of formats. -/
def Log.Format.meaning? : Tree → Option Log.Format :=
  Tree.choice? [("pretty", .pretty), ("compact", .compact), ("json", .json)]

/-- **The settings for reading** that a tree means. -/
def ScannerConfig.meaning? (tree : Tree) : Option ScannerConfig := do
  let entries ← tree.entries? ["read_capacity"]
  let readCapacity ← slot entries "read_capacity" Tree.unsigned? 4096
  some { readCapacity }

/-- **The settings of a log** that a tree means. -/
def LogConfig.meaning? (tree : Tree) : Option LogConfig := do
  let entries ← tree.entries? ["global", "lexer", "format"]
  let global ← slot entries "global" Log.Level.meaning? .info
  let lexer ← slot entries "lexer" (Tree.optional? Log.Level.meaning?) none
  let format ← slot entries "format" Log.Format.meaning? .compact
  some { global, lexer, format }

/-- **The configuration** that a tree means. -/
def Config.meaning? (tree : Tree) : Option Config := do
  let entries ← tree.entries? ["scanner", "log"]
  let scanner ← slot entries "scanner" ScannerConfig.meaning? {}
  let log ← slot entries "log" LogConfig.meaning? {}
  some { scanner, log }

/-! ## The readings and the schema -/

theorem Log.Level.recognizes : Recognizes Log.Level.reading Log.Level.meaning? :=
  Json.recognizes_choice _

theorem Log.Format.recognizes : Recognizes Log.Format.reading Log.Format.meaning? :=
  Json.recognizes_choice _

namespace ScannerConfig

/-- The capacity for reading. -/
def capacityField : FieldSpec ScannerConfig where
  key := "read_capacity"
  Value := UInt64
  reading := Json.unsigned "usize"
  meaning := Tree.unsigned?
  put capacity config := { config with readCapacity := capacity }
  recognizes := Json.recognizes_unsigned "usize"

/-- What is known of the settings for reading. -/
def spec : RecordSpec ScannerConfig where
  fields := [capacityField]
  distinct := List.nodup_singleton _
  commutes := List.pairwise_singleton _ _

theorem spec_fill (entries : List (String × Tree)) :
    spec.keys.foldlM (spec.fill entries) {} =
      (slot entries "read_capacity" Tree.unsigned? 4096).bind fun readCapacity =>
        some { readCapacity } :=
  have capacity : capacityField ∈ spec.fields := List.mem_cons_self
  RecordSpec.fill_bind capacity rfl

theorem recognizes : Recognizes reading meaning? :=
  (spec.recognizes "struct ScannerConfig" {}).congr fun _ => bind_congr spec_fill

end ScannerConfig

namespace LogConfig

/-- The level of everything. -/
def globalField : FieldSpec LogConfig where
  key := "global"
  Value := Log.Level
  reading := Log.Level.reading
  meaning := Log.Level.meaning?
  put level config := { config with global := level }
  recognizes := Log.Level.recognizes

/-- The level for the lexer alone. -/
def lexerField : FieldSpec LogConfig where
  key := "lexer"
  Value := Option Log.Level
  reading := Json.optional Log.Level.reading
  meaning := Tree.optional? Log.Level.meaning?
  put level config := { config with lexer := level }
  recognizes := Json.recognizes_optional Log.Level.recognizes

/-- How an entry is written. -/
def formatField : FieldSpec LogConfig where
  key := "format"
  Value := Log.Format
  reading := Log.Format.reading
  meaning := Log.Format.meaning?
  put format config := { config with format := format }
  recognizes := Log.Format.recognizes

/-- What is known of the settings of a log. -/
def spec : RecordSpec LogConfig where
  fields := [globalField, lexerField, formatField]
  distinct := by decide
  commutes := List.pairwise_cons.mpr
    ⟨List.forall_mem_cons.mpr ⟨fun _ _ _ => rfl, List.forall_mem_singleton.mpr fun _ _ _ => rfl⟩,
      List.pairwise_pair.mpr fun _ _ _ => rfl⟩

theorem spec_fill (entries : List (String × Tree)) :
    spec.keys.foldlM (spec.fill entries) {} =
      (slot entries "global" Log.Level.meaning? .info).bind fun global =>
        (slot entries "lexer" (Tree.optional? Log.Level.meaning?) none).bind fun lexer =>
          (slot entries "format" Log.Format.meaning? .compact).bind fun format =>
            some { global, lexer, format } := by
  have global : globalField ∈ spec.fields := List.mem_cons_self
  have lexer : lexerField ∈ spec.fields := List.mem_cons_of_mem _ List.mem_cons_self
  have format : formatField ∈ spec.fields :=
    List.mem_cons_of_mem _ (List.mem_cons_of_mem _ List.mem_cons_self)
  refine (RecordSpec.fill_bind global rfl).trans (Option.bind_congr fun level _ => ?_)
  refine (RecordSpec.fill_bind lexer rfl).trans (Option.bind_congr fun lexerLevel _ => ?_)
  exact RecordSpec.fill_bind format rfl

theorem recognizes : Recognizes reading meaning? :=
  (spec.recognizes "struct LogConfig" {}).congr fun _ => bind_congr spec_fill

end LogConfig

namespace Config

/-- The settings for reading, as a part. -/
def scannerField : FieldSpec Config where
  key := "scanner"
  Value := ScannerConfig
  reading := ScannerConfig.reading
  meaning := ScannerConfig.meaning?
  put scanner config := { config with scanner := scanner }
  recognizes := ScannerConfig.recognizes

/-- The settings of a log, as a part. -/
def logField : FieldSpec Config where
  key := "log"
  Value := LogConfig
  reading := LogConfig.reading
  meaning := LogConfig.meaning?
  put log config := { config with log := log }
  recognizes := LogConfig.recognizes

/-- What is known of the configuration. -/
def spec : RecordSpec Config where
  fields := [scannerField, logField]
  distinct := by decide
  commutes := List.pairwise_pair.mpr fun _ _ _ => rfl

theorem spec_fill (entries : List (String × Tree)) :
    spec.keys.foldlM (spec.fill entries) {} =
      (slot entries "scanner" ScannerConfig.meaning? {}).bind fun scanner =>
        (slot entries "log" LogConfig.meaning? {}).bind fun log => some { scanner, log } := by
  have scanner : scannerField ∈ spec.fields := List.mem_cons_self
  have log : logField ∈ spec.fields := List.mem_cons_of_mem _ List.mem_cons_self
  refine (RecordSpec.fill_bind scanner rfl).trans (Option.bind_congr fun settings _ => ?_)
  exact RecordSpec.fill_bind log rfl

theorem recognizes : Recognizes reading meaning? :=
  (spec.recognizes "struct Config" {}).congr fun _ => bind_congr spec_fill

/-- **A configuration is loaded** from exactly the documents that are a single tree, with blanks
around it, that means the configuration. -/
theorem load_eq_ok_iff (text : String) (config : Config) :
    load text = .ok config ↔
      ∃ tree, Json.Document tree text.toList ∧ meaning? tree = some config := by
  rw [← Json.document_eq_ok_iff recognizes]
  unfold load
  cases Json.document reading text.toList with
  | ok found => simp only [Except.mapError, Except.ok.injEq]
  | error fault => exact iff_of_false nofun nofun

/-- A key that nobody knows makes no difference, and a list may be shorter than its fields. -/
example : meaning? (.object [([.char 'x', .code 0xD83D, .code 0xDE00], .list [.null]),
    ("log".toList.map .char, .list [.string ("debug".toList.map .char), .null])]) =
      some { log := { global := .debug } } := by rfl

end Config

end SourceScan
