import SourceScan.Text.Stream

/-!
# Proofs/Text/Calls — where calls leave a stream

Whatever calls are made on a stream, only its advances take answers from the supply: after some of
them the answers still to come are the others in their order, the one a peek holds included, and the
position is that behind the characters among the answers taken.  Once the supply is used up a peek
may still hold a `none`, which is no more than what would be answered anyway.

* `Stream.Call`, `Stream.afterAll` — the calls, and the stream after some of them.
* `Stream.front` — the characters in front of the first `none`; `Stream.drain_eq_front` — a stream
  is drained of these.
* `Stream.Took`, `Stream.took_afterAll` — a stream that has taken so many answers of a supply, and
  that calls take as many as they advance.
-/

namespace SourceScan.Stream

/-- **The calls** on a stream. -/
inductive Call where
  | peek
  | advance
  | check (expected : Char)
  | position
deriving DecidableEq, Repr

/-- The stream after a call. -/
def after (stream : Stream) : Call → Stream
  | .peek => stream.peek.2
  | .advance => stream.advance.2
  | .check expected => (stream.check expected).2
  | .position => stream

/-- **The stream after some calls**, made one after another. -/
def afterAll (stream : Stream) (calls : List Call) : Stream := calls.foldl after stream

/-- **The characters in front of the first `none`.** -/
def front (answers : List (Option Char)) : List Char :=
  (answers.takeWhile Option.isSome).filterMap id

/-- **A stream is drained of the characters in front** of the answers still to come. -/
theorem drain_eq_front (stream : Stream) : stream.drain = front stream.upcoming := drain_eq stream

/-- A `none` behind some answers makes no difference. -/
theorem front_append_replicate (answers : List (Option Char)) (more : Nat) :
    front (answers ++ List.replicate more none) = front answers := by
  induction answers with
  | nil => cases more <;> rfl
  | cons answer answers ih =>
    cases answer with
    | none => rfl
    | some c => exact congrArg (c :: ·) ih

/-- **A stream has taken so many answers** of a supply: the others are still to come, and it stands
behind the characters among those it took. -/
structure Took (answers : List (Option Char)) (taken : Nat) (stream : Stream) : Prop where
  /-- A peek at the end of the supply holds a `none` that is not in it. -/
  upcoming : ∃ more, stream.upcoming = answers.drop taken ++ List.replicate more none
  position : stream.position = Position.start.advance ((answers.take taken).filterMap id)

namespace Took

variable {answers : List (Option Char)} {taken : Nat} {stream : Stream}

/-- What is drained are the characters in front of the answers not taken. -/
theorem drain_eq (took : Took answers taken stream) :
    stream.drain = front (answers.drop taken) := by
  obtain ⟨more, come⟩ := took.upcoming
  rw [drain_eq_front, come, front_append_replicate]

/-- **A peek takes nothing.** -/
theorem peek (took : Took answers taken stream) : Took answers taken stream.peek.2 := by
  refine ⟨?_, (position_peek stream).trans took.position⟩
  obtain ⟨more, come⟩ := took.upcoming
  obtain ⟨supply, held, position⟩ := stream
  cases held with
  | some answer => exact ⟨more, come⟩
  | none =>
    cases supply with
    | nil =>
      -- Nothing is left: the peek holds one `none` more than were to come.
      refine ⟨1, ?_⟩
      obtain ⟨spent, -⟩ := List.append_eq_nil_iff.mp come.symm
      rw [spent]
      rfl
    | cons answer supply => exact ⟨more, come⟩

/-- **Advancing takes one answer.** -/
theorem advance (took : Took answers taken stream) : Took answers (taken + 1) stream.advance.2 := by
  obtain ⟨more, come⟩ := took.upcoming
  have answered := fst_advance stream
  rw [come] at answered
  by_cases left : taken < answers.length
  · rw [List.drop_eq_getElem_cons left] at come answered
    constructor
    · refine ⟨more, ?_⟩
      rw [upcoming_advance, come]
      rfl
    · obtain answered : stream.advance.1 = answers[taken] := answered
      rw [position_advance, took.position, answered, List.take_add_one, List.filterMap_append,
        Position.advance_append, List.getElem?_eq_getElem left]
      cases answers[taken] <;> rfl
  · have spent : answers.drop taken = [] := List.drop_eq_nil_of_le (Nat.le_of_not_lt left)
    rw [spent, List.nil_append] at come answered
    have none : stream.advance.1 = none := by
      rw [answered]
      cases more <;> rfl
    constructor
    · refine ⟨more - 1, ?_⟩
      rw [upcoming_advance, come, List.tail_replicate,
        List.drop_eq_nil_of_le (Nat.le_succ_of_le (Nat.le_of_not_lt left)), List.nil_append]
    · rw [position_advance, none, took.position, List.take_of_length_le (Nat.le_of_not_lt left),
        List.take_of_length_le (Nat.le_succ_of_le (Nat.le_of_not_lt left))]
      rfl

end Took

variable {answers : List (Option Char)} {taken : Nat} {stream : Stream}

/-- **A call takes an answer if it advances**, and none otherwise. -/
theorem took_after (took : Took answers taken stream) (call : Call) :
    Took answers (taken + [call].count .advance) (stream.after call) := by
  cases call with
  | peek => exact took.peek
  | advance => exact took.advance
  | check expected => exact took.peek
  | position => exact took

/-- **Calls take as many answers as they advance.** -/
theorem took_afterAll (took : Took answers taken stream) (calls : List Call) :
    Took answers (taken + calls.count .advance) (stream.afterAll calls) := by
  induction calls generalizing taken stream with
  | nil => exact took
  | cons call calls ih =>
    have later := ih (took_after took call)
    rwa [Nat.add_assoc, ← List.count_append] at later

/-- A fresh stream has taken nothing. -/
theorem took_ofAnswers (answers : List (Option Char)) : Took answers 0 (ofAnswers answers) :=
  ⟨⟨0, (List.append_nil answers).symm⟩, rfl⟩

end SourceScan.Stream
