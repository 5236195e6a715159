import SourceScan.Config.Basic
import SourceScan.Lex.Scan
import SourceScan.Source.Reader

/-!
# Source/Load — loading a source and scanning it

Loading reads a whole source and decodes it; only then is anything scanned.  So of two things wrong
with a source a fault of the reader is reported first, then bytes that are no text, and only then
what is wrong with the text.

* `loadSource` — the text of a reader.
* `scanReader` — the tokens of a reader, with their spans.
* `tokensOfReader` — its tokens alone.
-/

namespace SourceScan

/-- **Why a source cannot be loaded.** -/
inductive LoadError where
  /-- A read failed. -/
  | unreadable (fault : ReadFault)
  /-- The bytes are not text from the offset on. -/
  | undecodable (offset : Nat)
deriving DecidableEq, Repr

/-- The wording of a load error. -/
def LoadError.message : LoadError → String
  | unreadable fault => "I/O error while reading source: " ++ fault.text
  | undecodable offset => "UTF-8 decode error at byte offset " ++ offset.repr

/-- **Why a reader has no tokens**: its source cannot be loaded, or cannot be scanned. -/
inductive ScanError where
  | load (error : LoadError)
  | lex (error : LexError)
deriving DecidableEq, Repr

/-- **Loading a source**: all its bytes are read, in pieces that fit the room the configuration
gives, and then decoded.  The room is taken to be there: a capacity beyond the largest size of an
allocation (`2 ^ 63 - 1` bytes), for which the buffer cannot be made and the load ends without a
result, is not modelled. -/
def loadSource (config : ScannerConfig) (reader : Reader) : Log.Outcome LoadError String :=
  match reader.readAll (max 1 config.readCapacity.toNat) with
  | .error fault => ⟨.error (.unreadable fault), [.unreadable fault]⟩
  | .ok bytes =>
    match Utf8.decode bytes.toByteArray with
    | .error offset => ⟨.error (.undecodable offset), [.undecodable offset]⟩
    | .ok source => ⟨.ok source, []⟩

/-- **Scanning a reader**: its source is loaded, and then scanned. -/
def scanReader (config : ScannerConfig) (reader : Reader) :
    Log.Outcome ScanError (List SpannedToken) :=
  let loading := loadSource config reader
  match loading.result with
  | .error error => ⟨.error (.load error), loading.events⟩
  | .ok source =>
    let scanning := Lex.scanSource source
    ⟨scanning.result.mapError .lex,
      loading.events ++ .loaded source.utf8ByteSize :: scanning.events⟩

/-- **The tokens of a reader**, or why it has none. -/
def tokensOfReader (config : ScannerConfig) (reader : Reader) : Except ScanError (List Token) :=
  (scanReader config reader).result.map (·.map SpannedToken.token)

end SourceScan
