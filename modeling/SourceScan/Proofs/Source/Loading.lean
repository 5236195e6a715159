import SourceScan.Proofs.Source.Delivery
import SourceScan.Proofs.Text.Malformed
import SourceScan.Source.Load

/-!
# Proofs/Source/Loading — what is loaded from a reader

Loading answers the fault at which a reader stops; else the text whose encoding the bytes up to
there are; else the length of the longest text in front of them, behind which malformed bytes stand.

* `result_loadSource_of_fault`, `result_loadSource_of_none` — the result, by the bytes and the fault.
* `loadSource_congr` — the outcome depends on nothing else.
* `result_loadSource_utf8` — which bytes are loaded, and where the others go wrong.
-/

namespace SourceScan

variable {reader reader' : Reader}

/-- Every configuration gives a read some room. -/
theorem room_pos (config : ScannerConfig) : 0 < max 1 config.readCapacity.toNat :=
  Nat.lt_of_lt_of_le Nat.one_pos (Nat.le_max_left 1 _)

/-- **A fault at the stop** is what loading answers. -/
theorem result_loadSource_of_fault (config : ScannerConfig) {fault : ReadFault}
    (stop : reader.fault? = some fault) :
    (loadSource config reader).result = .error (.unreadable fault) := by
  rw [loadSource, Reader.readAll_eq (room_pos config), stop, Option.elim_some]

/-- **Without a fault** loading decodes the bytes. -/
theorem result_loadSource_of_none (config : ScannerConfig) (stop : reader.fault? = none) :
    (loadSource config reader).result =
      (Utf8.decode reader.bytes.toByteArray).mapError .undecodable := by
  rw [loadSource, Reader.readAll_eq (room_pos config), stop, Option.elim_none]
  dsimp only
  cases Utf8.decode reader.bytes.toByteArray <;> rfl

/-- **Readers that come to the same are loaded alike**, in whatever pieces they are read. -/
theorem loadSource_congr (config config' : ScannerConfig) (agrees : reader.Agrees reader') :
    loadSource config' reader' = loadSource config reader := by
  rw [loadSource, loadSource, Reader.readAll_eq (room_pos config),
    Reader.readAll_eq (room_pos config'), agrees.bytes, agrees.fault]

/-- A text is loaded exactly from its encoding. -/
theorem result_loadSource_eq_ok_iff (config : ScannerConfig) (stop : reader.fault? = none)
    {source : String} :
    (loadSource config reader).result = .ok source ↔
      reader.bytes = Utf8.encode source.toList := by
  rw [result_loadSource_of_none config stop, ← Utf8.decode_eq_ok_iff]
  cases Utf8.decode reader.bytes.toByteArray <;> constructor <;> intro same <;> cases same <;> rfl

/-- An offset is reported exactly where malformed bytes follow a text. -/
theorem result_loadSource_eq_error_iff (config : ScannerConfig) (stop : reader.fault? = none)
    {offset : Nat} :
    (loadSource config reader).result = .error (.undecodable offset) ↔
      ∃ text rest, reader.bytes = Utf8.encode text ++ rest ∧ Utf8.Malformed rest ∧
        (Utf8.encode text).length = offset := by
  have failed : (loadSource config reader).result = .error (.undecodable offset) ↔
      Utf8.decode reader.bytes.toByteArray = .error offset := by
    rw [result_loadSource_of_none config stop]
    cases Utf8.decode reader.bytes.toByteArray <;> constructor <;> intro same <;> cases same <;> rfl
  rw [failed, Utf8.decode_eq_error_iff]
  simp only [Utf8.malformed_iff, Utf8.length_encode, and_assoc]

/-- **Bytes that are no text** are refused at the length of the longest text in front of them. -/
theorem exists_result_loadSource_eq_error (config : ScannerConfig) (stop : reader.fault? = none)
    (unread : ∀ source : String, reader.bytes ≠ Utf8.encode source.toList) :
    ∃ offset, (loadSource config reader).result = .error (.undecodable offset) ∧
      IsGreatest {n | ∃ front, Utf8.encode front <+: reader.bytes ∧
        (Utf8.encode front).length = n} offset := by
  obtain ⟨text, rest, split, foreign⟩ := Utf8.exists_encode reader.bytes
  have nonempty : rest ≠ [] := by
    rintro rfl
    refine unread (String.ofList text) ?_
    rw [split, List.append_nil, String.toList_ofList]
  refine ⟨(Utf8.encode text).length, ?_, ?_⟩
  · exact (result_loadSource_eq_error_iff config stop).mpr
      ⟨text, rest, split, foreign.malformed nonempty, rfl⟩
  · rw [split, Utf8.length_encode]
    exact Utf8.isGreatest_byteLength foreign

/-- **Loading is strict about its bytes**: without a fault of the reader, a text is loaded exactly
from its encoding, which is that of no other text; other bytes are refused at the length of the
longest front of them that is the encoding of a text; and that is where malformed bytes follow. -/
theorem result_loadSource_utf8 (config : ScannerConfig) (stop : reader.fault? = none) :
    (∀ source : String, (loadSource config reader).result = .ok source ↔
      reader.bytes = Utf8.encode source.toList) ∧
    (∀ source source' : String,
      Utf8.encode source.toList = Utf8.encode source'.toList → source = source') ∧
    ((∀ source : String, reader.bytes ≠ Utf8.encode source.toList) →
      ∃ offset, (loadSource config reader).result = .error (.undecodable offset) ∧
        IsGreatest {n | ∃ front, Utf8.encode front <+: reader.bytes ∧
          (Utf8.encode front).length = n} offset) ∧
    (∀ offset, (loadSource config reader).result = .error (.undecodable offset) ↔
      ∃ text rest, reader.bytes = Utf8.encode text ++ rest ∧ Utf8.Malformed rest ∧
        (Utf8.encode text).length = offset) := by
  refine ⟨fun source => result_loadSource_eq_ok_iff config stop, fun source source' same => ?_,
    exists_result_loadSource_eq_error config stop,
    fun offset => result_loadSource_eq_error_iff config stop⟩
  exact String.toList_inj.mp (Utf8.encode_injective same)

/-- A character comes in two pieces, and another one is cut short at the end. -/
theorem result_loadSource_utf8_pieces :
    (loadSource ⟨1⟩ [.data [0xC3], .fault ⟨.interrupted, ""⟩, .data [0xA9]]).result = .ok "é" ∧
      (loadSource ⟨2⟩ [.data [0x61, 0xE2], .data [0x82], .data []]).result =
        .error (.undecodable 1) := by
  constructor
  · exact ((result_loadSource_utf8 ⟨1⟩ rfl).1 "é").mpr rfl
  · have leads : Utf8.Leads 0xE2 2 2 := by decide
    have malformed : Utf8.Malformed [0xE2, 0x82] :=
      .truncated leads (List.forall_mem_singleton.mpr (by decide)) (by decide) (by simp)
    exact ((result_loadSource_utf8 ⟨2⟩ rfl).2.2.2 1).mpr ⟨['a'], _, rfl, malformed, rfl⟩

end SourceScan
