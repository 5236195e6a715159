import Mathlib.Logic.Relation
import SourceScan.Source.Reader

/-!
# Proofs/Source/Delivery — what reading all bytes answers

A reader is read up to its **stop**: a delivery of no bytes, or a fault that is no interruption.
Reading all bytes answers that fault, or else the bytes up to there.  The room of a read decides
only in what pieces they come.

* `Reader.bytes`, `Reader.fault?` — the bytes up to the stop, and the fault there.
* `Reader.readAll_eq` — reading all answers these, whatever the room.
* `Redelivery` — how the same is delivered otherwise; `eqvGen_redelivery_iff` — readers that come to
  the same are told apart by nothing else.
-/

namespace SourceScan

namespace Delivery

/-- **A delivery that ends a reading**: no bytes, or a fault that is no interruption. -/
def stops : Delivery → Bool
  | .data bytes => bytes.isEmpty
  | .fault cause => cause.kind ≠ .interrupted

/-- The bytes of a delivery. -/
def bytes : Delivery → List UInt8
  | .data bytes => bytes
  | .fault _ => []

/-- The fault of a delivery. -/
def fault? : Delivery → Option ReadFault
  | .data _ => none
  | .fault cause => some cause

end Delivery

namespace Reader

variable {reader rest : Reader} {delivery : Delivery} {room : Nat}

/-- **The bytes up to the stop.** -/
def bytes (reader : Reader) : List UInt8 := (reader.takeWhile (!·.stops)).flatMap Delivery.bytes

/-- **The fault at the stop**, if there is one. -/
def fault? (reader : Reader) : Option ReadFault :=
  (reader.find? Delivery.stops).bind Delivery.fault?

theorem bytes_cons_of_stops (stops : delivery.stops) : bytes (delivery :: rest) = [] := by
  rw [bytes, List.takeWhile_cons_of_neg (by simp [stops]), List.flatMap_nil]

theorem fault?_cons_of_stops (stops : delivery.stops) :
    fault? (delivery :: rest) = delivery.fault? := by
  rw [fault?, List.find?_cons_of_pos stops, Option.bind_some]

theorem bytes_cons_of_passes (passes : ¬ delivery.stops) :
    bytes (delivery :: rest) = delivery.bytes ++ bytes rest := by
  rw [bytes, List.takeWhile_cons_of_pos (by simp [passes]), List.flatMap_cons, bytes]

theorem fault?_cons_of_passes (passes : ¬ delivery.stops) :
    fault? (delivery :: rest) = fault? rest := by
  rw [fault?, List.find?_cons_of_neg passes, fault?]

/-- Data are the first of the bytes. -/
theorem bytes_cons_data {data : List UInt8} (some : data ≠ []) (rest : Reader) :
    bytes (.data data :: rest) = data ++ bytes rest :=
  bytes_cons_of_passes fun stops => some (List.isEmpty_iff.mp stops)

theorem fault?_cons_data {data : List UInt8} (some : data ≠ []) (rest : Reader) :
    fault? (.data data :: rest) = fault? rest :=
  fault?_cons_of_passes fun stops => some (List.isEmpty_iff.mp stops)

/-! ## Reading -/

/-- **What one read does**, to the bytes and the fault that a reader comes to. -/
inductive Reads (reader : Reader) : Except ReadFault (List UInt8) × Reader → Prop
  /-- It delivers no bytes at the end. -/
  | ended {rest : Reader} (bytes : reader.bytes = []) (fault : reader.fault? = none) :
      Reads reader (.ok [], rest)
  /-- It delivers the first of the bytes. -/
  | piece {byte : UInt8} {more : List UInt8} {rest : Reader}
      (bytes : reader.bytes = byte :: more ++ rest.bytes) (fault : reader.fault? = rest.fault?) :
      Reads reader (.ok (byte :: more), rest)
  /-- It is interrupted. -/
  | interrupted {fault : ReadFault} {rest : Reader} (kind : fault.kind = .interrupted)
      (bytes : reader.bytes = rest.bytes) (same : reader.fault? = rest.fault?) :
      Reads reader (.error fault, rest)
  /-- It fails with the fault at the stop. -/
  | failed {fault : ReadFault} {rest : Reader} (kind : fault.kind ≠ .interrupted)
      (bytes : reader.bytes = []) (same : reader.fault? = some fault) :
      Reads reader (.error fault, rest)

/-- **A read with room delivers from the front** of what there is. -/
theorem reads_read (some : 0 < room) (reader : Reader) : Reads reader (reader.read room) := by
  match reader with
  | [] => exact .ended rfl rfl
  | .fault fault :: rest =>
    by_cases kind : fault.kind = .interrupted
    · have passes : ¬ (Delivery.fault fault).stops := by simp [Delivery.stops, kind]
      exact .interrupted kind (bytes_cons_of_passes passes) (fault?_cons_of_passes passes)
    · have stops : (Delivery.fault fault).stops := by simp [Delivery.stops, kind]
      exact .failed kind (bytes_cons_of_stops stops) (fault?_cons_of_stops stops)
  | .data [] :: rest =>
    have stops : (Delivery.data []).stops := rfl
    rw [read, List.drop_nil]
    exact .ended (bytes_cons_of_stops stops) (fault?_cons_of_stops stops)
  | .data (byte :: more) :: rest =>
    have some' : byte :: more ≠ [] := List.cons_ne_nil byte more
    obtain ⟨n, rfl⟩ := Nat.exists_eq_add_one_of_ne_zero (Nat.ne_of_gt some)
    rw [read]
    split
    · exact .piece (bytes_cons_data some' rest) (fault?_cons_data some' rest)
    · -- The rest of the data is delivered by the reads after this one.
      rename_i left nonempty
      rw [List.take_succ_cons]
      refine .piece ?_ ?_
      · rw [bytes_cons_data some', bytes_cons_data nonempty, List.drop_succ_cons, List.cons_append,
          List.cons_append, ← List.append_assoc, List.take_append_drop]
      · rw [fault?_cons_data some', fault?_cons_data nonempty]

/-- **Reading on** adds the bytes up to the stop to the pieces already read, or fails there. -/
theorem readOn_eq (some : 0 < room) (reader : Reader) (pieces : List (List UInt8)) :
    readOn room reader pieces =
      reader.fault?.elim (.ok (pieces.reverse.flatten ++ reader.bytes)) .error := by
  fun_induction readOn room reader pieces with
  | case1 reader pieces rest read =>
    cases read ▸ reads_read some reader with
    | ended bytes fault => rw [bytes, fault, List.append_nil, Option.elim_none]
  | case2 reader pieces byte more rest read ih =>
    cases read ▸ reads_read some reader with
    | piece bytes fault =>
      rw [ih, bytes, fault, List.reverse_cons, List.flatten_append, List.flatten_singleton,
        List.append_assoc]
  | case3 reader pieces fault rest read kind ih =>
    cases read ▸ reads_read some reader with
    | interrupted _ bytes same => rw [ih, bytes, same]
    | failed other => exact absurd kind other
  | case4 reader pieces fault rest read kind =>
    cases read ▸ reads_read some reader with
    | interrupted other => exact absurd other kind
    | failed _ bytes same => rw [same, Option.elim_some]

/-- **Reading all bytes** answers the fault at the stop or the bytes up to it, whatever room the
reads have. -/
theorem readAll_eq (some : 0 < room) (reader : Reader) :
    reader.readAll room = reader.fault?.elim (.ok reader.bytes) .error :=
  readOn_eq some reader []

/-! ## The same delivered otherwise -/

/-- **Readers that come to the same** bytes, and to the same fault or to none. -/
structure Agrees (reader reader' : Reader) : Prop where
  bytes : reader.bytes = reader'.bytes
  fault : reader.fault? = reader'.fault?

theorem agrees_equivalence : Equivalence Agrees where
  refl _ := ⟨rfl, rfl⟩
  symm agrees := ⟨agrees.bytes.symm, agrees.fault.symm⟩
  trans agrees agrees' := ⟨agrees.bytes.trans agrees'.bytes, agrees.fault.trans agrees'.fault⟩

/-- What is behind the stop does not tell readers apart. -/
theorem agrees_cons_of_stops (stops : delivery.stops) (rest rest' : Reader) :
    Agrees (delivery :: rest) (delivery :: rest') where
  bytes := (bytes_cons_of_stops stops).trans (bytes_cons_of_stops stops).symm
  fault := (fault?_cons_of_stops stops).trans (fault?_cons_of_stops stops).symm

/-- What is delivered in front does not tell readers apart. -/
theorem Agrees.append {rest' : Reader} (agrees : rest.Agrees rest') (before : Reader) :
    Agrees (before ++ rest) (before ++ rest') := by
  induction before with
  | nil => exact agrees
  | cons delivery before ih =>
    by_cases stops : delivery.stops
    · exact agrees_cons_of_stops stops _ _
    · constructor
      · rw [List.cons_append, List.cons_append, bytes_cons_of_passes stops,
          bytes_cons_of_passes stops, ih.bytes]
      · rw [List.cons_append, List.cons_append, fault?_cons_of_passes stops,
          fault?_cons_of_passes stops, ih.fault]

/-- The bytes and the fault in the fewest deliveries. -/
def whole (bytes : List UInt8) (fault? : Option ReadFault) : Reader :=
  (if bytes = [] then [] else [.data bytes]) ++ fault?.toList.map .fault

end Reader

/-- **A step from a reader to one that delivers the same otherwise.** -/
inductive Redelivery : Reader → Reader → Prop
  /-- Data come in two pieces. -/
  | split (before : Reader) {front back : List UInt8} (some : front ≠ []) (some' : back ≠ [])
      (after : Reader) : Redelivery (before ++ .data (front ++ back) :: after)
        (before ++ .data front :: .data back :: after)
  /-- A read is interrupted. -/
  | interrupt (before : Reader) {fault : ReadFault} (kind : fault.kind = .interrupted)
      (after : Reader) : Redelivery (before ++ after) (before ++ .fault fault :: after)
  /-- Other deliveries are behind the stop. -/
  | behind (before : Reader) {stop : Delivery} (stops : stop.stops) (after after' : Reader) :
      Redelivery (before ++ stop :: after) (before ++ stop :: after')
  /-- The end is delivered on its own. -/
  | close (before : Reader) : Redelivery before (before ++ [.data []])

namespace Redelivery

variable {reader reader' : Reader}

/-- **A step leads to a reader that comes to the same.** -/
theorem agrees (step : Redelivery reader reader') : reader.Agrees reader' := by
  cases step with
  | @split before front back some some' after =>
    have joined := List.append_ne_nil_of_left_ne_nil some back
    refine .append ⟨?_, ?_⟩ before
    · rw [Reader.bytes_cons_data joined, Reader.bytes_cons_data some,
        Reader.bytes_cons_data some', List.append_assoc]
    · rw [Reader.fault?_cons_data joined, Reader.fault?_cons_data some,
        Reader.fault?_cons_data some']
  | @interrupt before fault kind after =>
    have passes : ¬ (Delivery.fault fault).stops := by simp [Delivery.stops, kind]
    exact .append ⟨(Reader.bytes_cons_of_passes passes).symm,
      (Reader.fault?_cons_of_passes passes).symm⟩ before
  | behind before stops after after' =>
    exact (Reader.agrees_cons_of_stops stops after after').append before
  | close =>
    have agrees : Reader.Agrees [] [.data []] := ⟨rfl, rfl⟩
    simpa using agrees.append reader

/-- A step is one behind a further delivery as well. -/
theorem cons (delivery : Delivery) (step : Redelivery reader reader') :
    Redelivery (delivery :: reader) (delivery :: reader') := by
  cases step with
  | split before some some' after => exact .split (delivery :: before) some some' after
  | interrupt before kind after => exact .interrupt (delivery :: before) kind after
  | behind before stops after after' => exact .behind (delivery :: before) stops after after'
  | close => exact .close (delivery :: reader)

/-- Steps are such behind a further delivery as well. -/
theorem eqvGen_cons (delivery : Delivery) (steps : Relation.EqvGen Redelivery reader reader') :
    Relation.EqvGen Redelivery (delivery :: reader) (delivery :: reader') := by
  induction steps with
  | rel _ _ step => exact .rel _ _ (step.cons delivery)
  | refl _ => exact .refl _
  | symm _ _ _ ih => exact .symm _ _ ih
  | trans _ _ _ _ _ ih ih' => exact .trans _ _ _ ih ih'

/-- **Steps lead to the fewest deliveries.** -/
theorem eqvGen_whole (reader : Reader) :
    Relation.EqvGen Redelivery reader (Reader.whole reader.bytes reader.fault?) := by
  induction reader with
  | nil => exact .refl _
  | cons delivery rest ih =>
    by_cases stops : delivery.stops
    · have alone : Relation.EqvGen Redelivery (delivery :: rest) [delivery] :=
        .rel _ _ (.behind [] stops rest [])
      rw [Reader.bytes_cons_of_stops stops, Reader.fault?_cons_of_stops stops]
      cases delivery with
      | data bytes =>
        obtain rfl := List.isEmpty_iff.mp stops
        exact .trans _ _ _ alone (.symm _ _ (.rel _ _ (.close [])))
      | fault fault => exact alone
    · rw [Reader.bytes_cons_of_passes stops, Reader.fault?_cons_of_passes stops]
      cases delivery with
      | data data =>
        have some : data ≠ [] := fun empty => stops (List.isEmpty_iff.mpr empty)
        refine .trans _ _ _ (eqvGen_cons _ ih) ?_
        by_cases none : Reader.bytes rest = []
        · rw [none, Delivery.bytes, List.append_nil, Reader.whole, Reader.whole, if_pos rfl,
            if_neg some]
          exact .refl _
        · have joined := List.append_ne_nil_of_left_ne_nil some (Reader.bytes rest)
          rw [Delivery.bytes, Reader.whole, Reader.whole, if_neg none, if_neg joined]
          exact .symm _ _ (.rel _ _ (.split [] some none _))
      | fault fault =>
        have kind : fault.kind = .interrupted := by simpa [Delivery.stops] using stops
        exact .trans _ _ _ (.symm _ _ (.rel _ _ (.interrupt [] kind rest))) ih

end Redelivery

/-- **Readers come to the same** exactly if steps lead from the one to the other. -/
theorem eqvGen_redelivery_iff {reader reader' : Reader} :
    Relation.EqvGen Redelivery reader reader' ↔ reader.Agrees reader' := by
  constructor
  · intro steps
    exact Reader.agrees_equivalence.eqvGen_iff.mp
      (Relation.EqvGen.mono (fun _ _ step => step.agrees) _ _ steps)
  · intro agrees
    have steps := Redelivery.eqvGen_whole reader
    rw [agrees.bytes, agrees.fault] at steps
    exact .trans _ _ _ steps (.symm _ _ (Redelivery.eqvGen_whole reader'))

end SourceScan
