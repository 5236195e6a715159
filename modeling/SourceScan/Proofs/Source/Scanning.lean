import SourceScan.Proofs.Source.Loading

/-!
# Proofs/Source/Scanning — a reader is scanned as its text is

What comes of scanning a reader is decided by the bytes up to its stop and by the fault there: the
fault comes first, then bytes that are no text, and only then what comes of scanning the text.  In
what pieces the bytes come, what interrupts them and what is behind the stop makes no difference.

* `result_scanReader_of_error`, `result_scanReader_of_ok` — loading, then scanning.
* `scanReader_congr` — readers that come to the same have the same outcome.
* `scanReader_whole` — all of it.
-/

namespace SourceScan

variable {config : ScannerConfig} {reader reader' : Reader}

/-- **What cannot be loaded** is not scanned. -/
theorem result_scanReader_of_error {error : LoadError}
    (loaded : (loadSource config reader).result = .error error) :
    (scanReader config reader).result = .error (.load error) := by
  rw [scanReader, loaded]

/-- **What is loaded** is scanned. -/
theorem result_scanReader_of_ok {source : String}
    (loaded : (loadSource config reader).result = .ok source) :
    (scanReader config reader).result = (Lex.scanSource source).result.mapError .lex := by
  rw [scanReader, loaded]

/-- **Readers that come to the same** have the same outcome, in whatever pieces they are read. -/
theorem scanReader_congr (config config' : ScannerConfig) (agrees : reader.Agrees reader') :
    scanReader config' reader' = scanReader config reader := by
  rw [scanReader, scanReader, loadSource_congr config config' agrees]

/-- The tokens of an error are that error. -/
theorem tokensOfReader_of_error {error : ScanError}
    (result : (scanReader config reader).result = .error error) :
    tokensOfReader config reader = .error error := by
  rw [tokensOfReader, result, Except.map]

/-- The tokens of a text that is loaded are those of the text. -/
theorem tokensOfReader_of_ok {source : String}
    (loaded : (loadSource config reader).result = .ok source) :
    tokensOfReader config reader = (Lex.scan source).mapError .lex := by
  rw [tokensOfReader, result_scanReader_of_ok loaded, Lex.scan]
  cases (Lex.scanSource source).result <;> rfl

/-- **Scanning a reader** answers a fault at its stop, whatever bytes precede it; without one, it
answers an offset if the bytes are no text, whatever tokens precede it; else what scanning their
text does.  The configuration makes no difference to any of that, nor to the events on the way, and
neither do the pieces of the bytes, interruptions of them and what is behind the stop, which is all
that readers that come to the same can differ in. -/
theorem scanReader_whole (config : ScannerConfig) (reader : Reader) :
    (∀ fault, reader.fault? = some fault →
      (scanReader config reader).result = .error (.load (.unreadable fault)) ∧
        tokensOfReader config reader = .error (.load (.unreadable fault))) ∧
    (reader.fault? = none → (∀ source : String, reader.bytes ≠ Utf8.encode source.toList) →
      ∃ offset, (scanReader config reader).result = .error (.load (.undecodable offset)) ∧
        tokensOfReader config reader = .error (.load (.undecodable offset))) ∧
    (reader.fault? = none → ∀ source : String, reader.bytes = Utf8.encode source.toList →
      (scanReader config reader).result = (Lex.scanSource source).result.mapError .lex ∧
        tokensOfReader config reader = (Lex.scan source).mapError .lex) ∧
    (∀ config' reader', reader.Agrees reader' →
      scanReader config' reader' = scanReader config reader ∧
        tokensOfReader config' reader' = tokensOfReader config reader) ∧
    (∀ reader', Relation.EqvGen Redelivery reader reader' ↔ reader.Agrees reader') := by
  refine ⟨fun fault stop => ?_, fun stop unread => ?_, fun stop source read => ?_,
    fun config' reader' agrees => ?_, fun reader' => eqvGen_redelivery_iff⟩
  · have result := result_scanReader_of_error (result_loadSource_of_fault config stop)
    exact ⟨result, tokensOfReader_of_error result⟩
  · obtain ⟨offset, loaded, -⟩ := exists_result_loadSource_eq_error config stop unread
    have result := result_scanReader_of_error loaded
    exact ⟨offset, result, tokensOfReader_of_error result⟩
  · have loaded := (result_loadSource_eq_ok_iff config stop).mpr read
    exact ⟨result_scanReader_of_ok loaded, tokensOfReader_of_ok loaded⟩
  · have outcome := scanReader_congr config config' agrees
    exact ⟨outcome, by rw [tokensOfReader, tokensOfReader, outcome]⟩

/-- A letter comes in one piece, and in two with an interruption between them and a fault behind the
end; bytes that are no text come behind a character that starts no token, with a fault and without
one. -/
theorem scanReader_whole_pieces :
    (scanReader ⟨4096⟩ [.data [0xC3, 0xA9]]).result =
        (Lex.scanSource "é").result.mapError .lex ∧
      scanReader ⟨1⟩ [.data [0xC3], .fault ⟨.interrupted, ""⟩, .data [0xA9]] =
        scanReader ⟨4096⟩ [.data [0xC3, 0xA9]] ∧
      scanReader ⟨1⟩ [.data [0xC3, 0xA9], .data [], .fault ⟨.other "TimedOut", "timed out"⟩] =
        scanReader ⟨4096⟩ [.data [0xC3, 0xA9]] ∧
      (scanReader {} [.data [0x40, 0xFF], .fault ⟨.other "TimedOut", "timed out"⟩]).result =
        .error (.load (.unreadable ⟨.other "TimedOut", "timed out"⟩)) ∧
      ∃ offset, (scanReader {} [.data [0x40, 0xFF]]).result =
        .error (.load (.undecodable offset)) := by
  obtain ⟨-, -, text, same, steps⟩ := scanReader_whole ⟨4096⟩ [.data [0xC3, 0xA9]]
  refine ⟨(text rfl "é" rfl).1, ?_, ?_,
    ((scanReader_whole {} _).1 ⟨.other "TimedOut", "timed out"⟩ rfl).1, ?_⟩
  · have split : Redelivery [.data [0xC3, 0xA9]] [.data [0xC3], .data [0xA9]] :=
      .split [] (List.cons_ne_nil 0xC3 []) (List.cons_ne_nil 0xA9 []) []
    have interrupt : Redelivery [.data [0xC3], .data [0xA9]]
        [.data [0xC3], .fault ⟨.interrupted, ""⟩, .data [0xA9]] :=
      .interrupt [.data [0xC3]] rfl [.data [0xA9]]
    exact (same ⟨1⟩ _ ((steps _).mp (.trans _ _ _ (.rel _ _ split) (.rel _ _ interrupt)))).1
  · have agrees : Reader.Agrees [.data [0xC3, 0xA9]]
        [.data [0xC3, 0xA9], .data [], .fault ⟨.other "TimedOut", "timed out"⟩] := ⟨rfl, rfl⟩
    exact (same ⟨1⟩ _ agrees).1
  · have refused : (loadSource {} [.data [0x40, 0xFF]]).result = .error (.undecodable 1) :=
      (result_loadSource_eq_error_iff {} rfl).mpr
        ⟨['@'], [0xFF], rfl, .unused (by decide) [], rfl⟩
    have unread : ∀ source : String,
        Reader.bytes [.data [0x40, 0xFF]] ≠ Utf8.encode source.toList := by
      intro source read
      have loaded := (result_loadSource_eq_ok_iff {} rfl).mpr read
      rw [refused] at loaded
      cases loaded
    obtain ⟨offset, result, -⟩ := (scanReader_whole {} _).2.1 rfl unread
    exact ⟨offset, result⟩

end SourceScan
