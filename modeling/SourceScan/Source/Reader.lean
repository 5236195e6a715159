/-!
# Source/Reader — reading all bytes of a source, and decoding them

A reader is what its reads will deliver: data or **faults**.  One read has **room** for so many
bytes; data that do not fit are delivered over several reads.  Reading all goes on until a read
delivers no bytes, which is the end, or fails; an interrupted read is tried again.

Decoding reads one character after another and stops at the first place where no character is
encoded: an overlong form, a surrogate, a value beyond the last code point, a stray continuation
byte or a sequence cut short.  That place is the length of the longest part that is text.

* `ReadFault` — how a read fails.
* `Reader.read` — one read.
* `Reader.readAll` — all bytes up to the end, or the first fault that is not an interruption.
* `Utf8.decode` — the text of bytes.
-/

namespace SourceScan

/-- **The kinds of fault** a read can fail with.  An interruption stands apart, since the read is
simply tried again; every other kind goes by its name. -/
inductive ReadFault.Kind where
  | interrupted
  | other (name : String)
deriving DecidableEq, Repr

/-- **A fault**: its kind, and its text. -/
structure ReadFault where
  kind : ReadFault.Kind
  text : String
deriving DecidableEq, Repr

/-- **What a read delivers**: bytes, or a fault. -/
inductive Delivery where
  | data (bytes : List UInt8)
  | fault (fault : ReadFault)
deriving DecidableEq, Repr

/-- **A reader**, by what its reads will deliver; after the last of it come no more bytes. -/
abbrev Reader := List Delivery

namespace Reader

/-- **One read**, with room for so many bytes. -/
def read (room : Nat) : Reader → Except ReadFault (List UInt8) × Reader
  | [] => (.ok [], [])
  | .fault fault :: rest => (.error fault, rest)
  | .data bytes :: rest =>
    match bytes.drop room with
    | [] => (.ok bytes, rest)
    | left => (.ok (bytes.take room), .data left :: rest)

/-- What a reader still holds: its deliveries, and the bytes in them. -/
def size : Reader → Nat
  | [] => 0
  | .fault _ :: rest => size rest + 1
  | .data bytes :: rest => bytes.length + size rest + 1

/-- A read that delivers bytes leaves less to be read. -/
theorem size_lt_of_read {room : Nat} {reader rest : Reader} {byte : UInt8} {bytes : List UInt8}
    (delivered : reader.read room = (.ok (byte :: bytes), rest)) : rest.size < reader.size := by
  unfold read at delivered
  split at delivered
  · cases delivered
  · cases delivered
  · rename_i data tail
    split at delivered
    · obtain ⟨-, rfl⟩ := Prod.mk.inj delivered
      simp only [size]
      omega
    · obtain ⟨taken, rfl⟩ := Prod.mk.inj delivered
      have some : 0 < room := by
        cases room with
        | zero => cases taken
        | succ n => exact Nat.succ_pos n
      have full : (data.take room).length = (byte :: bytes).length :=
        congrArg List.length (Except.ok.inj taken)
      simp only [List.length_take, List.length_cons] at full
      simp only [size, List.length_drop]
      omega

/-- A read that fails leaves less to be read. -/
theorem size_lt_of_read_error {room : Nat} {reader rest : Reader} {fault : ReadFault}
    (failed : reader.read room = (.error fault, rest)) : rest.size < reader.size := by
  unfold read at failed
  split at failed
  · cases failed
  · obtain ⟨-, rfl⟩ := Prod.mk.inj failed
    exact Nat.lt_succ_self _
  · split at failed <;> cases failed

/-- **Reading on** to the end, after the pieces already read, the latest first. -/
def readOn (room : Nat) (reader : Reader) (pieces : List (List UInt8)) :
    Except ReadFault (List UInt8) :=
  match _delivered : reader.read room with
  | (.ok [], _) => .ok pieces.reverse.flatten
  | (.ok (byte :: bytes), rest) => readOn room rest ((byte :: bytes) :: pieces)
  | (.error fault, rest) =>
    if fault.kind = .interrupted then readOn room rest pieces else .error fault
termination_by reader.size
decreasing_by
  · exact size_lt_of_read _delivered
  · exact size_lt_of_read_error _delivered

/-- **Reading all bytes** of a source, with room for so many bytes in each read. -/
def readAll (room : Nat) (reader : Reader) : Except ReadFault (List UInt8) :=
  readOn room reader []

end Reader

namespace Utf8

/-- **Decoding from an offset on**, after the text already read. -/
def decodeFrom (bytes : ByteArray) (offset : Nat) (read : String) : Except Nat String :=
  if offset < bytes.size then
    match bytes.utf8DecodeChar? offset with
    | some c => decodeFrom bytes (offset + c.utf8Size) (read.push c)
    | none => .error offset
  else
    .ok read
termination_by bytes.size - offset
decreasing_by have := c.utf8Size_pos; omega

/-- **Decoding bytes**: their text, or the offset of the first bytes that encode no character. -/
def decode (bytes : ByteArray) : Except Nat String := decodeFrom bytes 0 ""

end Utf8

end SourceScan
