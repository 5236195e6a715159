import SourceScan.Proofs.Lex.Origin
import SourceScan.Proofs.Lex.Pull
import SourceScan.Proofs.Text.Calls

/-!
# Proofs/Lex/Handover — scanning a stream that others have read from

A stream may have been peeked at and advanced before it is handed over to a scan, and its supply may
go on after a `none`.  The scan finds what it would find in the text up to the first `none` still to
come, seen from where the stream stands; a `none` that a peek holds counts, and what is behind the
first one does not.

* `result_scanStream_eq_shift` — the result of scanning a stream that has taken some answers.
* `scanStream_congr` — place and text decide.
* `scanStream_afterAll` — whatever calls were made before.
-/

namespace SourceScan.Lex

open SourceScan.Stream (Took front)

variable {answers : List (Option Char)} {taken : Nat} {stream stream' : Stream}

/-- **A stream is scanned as the text in front of its first `none`**, seen from where it stands. -/
theorem result_scanStream_eq_shift (took : Took answers taken stream) :
    (scanStream stream).result =
      ((scanSource (String.ofList (front (answers.drop taken)))).result.map
        (List.map (SpannedToken.shift stream.position))).mapError
          (LexError.shift stream.position) := by
  rw [scanStream_eq, result_scanFrom_eq_shift, took.drain_eq, scanSource, String.toList_ofList]

/-- **Streams in one place with one text in front** have the same outcome. -/
theorem scanStream_congr (place : stream'.position = stream.position)
    (text : front stream'.upcoming = front stream.upcoming) :
    scanStream stream' = scanStream stream := by
  rw [scanStream_eq, scanStream_eq, place, Stream.drain_eq_front, Stream.drain_eq_front, text]

/-- **Scanning a stream after any calls on it.**  The calls take as many answers as they advance,
and the stream stands behind the characters among these.  The scan finds in it the tokens, or the
error, of the text up to the first `none` among the other answers, seen from there; and no stream in
the same place with the same text in front of its first `none` has another outcome. -/
theorem scanStream_afterAll (answers : List (Option Char)) (calls : List Stream.Call) :
    let stream := (Stream.ofAnswers answers).afterAll calls
    let taken := calls.count .advance
    let text := String.ofList (front (answers.drop taken))
    stream.position = Position.start.advance ((answers.take taken).filterMap id) ∧
    (∀ spanned, (scanSource text).result = .ok spanned →
      (scanStream stream).result = .ok (spanned.map (SpannedToken.shift stream.position))) ∧
    (∀ error, (scanSource text).result = .error error →
      (scanStream stream).result = .error (error.shift stream.position)) ∧
    ∀ stream' : Stream, stream'.position = stream.position →
      front stream'.upcoming = text.toList → scanStream stream' = scanStream stream := by
  intro stream taken text
  have took : Took answers taken stream := by
    have all := Stream.took_afterAll (Stream.took_ofAnswers answers) calls
    rwa [Nat.zero_add] at all
  have whole := result_scanStream_eq_shift took
  refine ⟨took.position, fun spanned found => ?_, fun error found => ?_,
    fun stream' place same => scanStream_congr place ?_⟩
  · rw [whole, found]
    rfl
  · rw [whole, found]
    rfl
  · rw [same, String.toList_ofList, ← took.drain_eq, Stream.drain_eq_front]

/-- Two answers are taken, the second of them a `none`; a peek holds the quote behind them, whose
string another `none` leaves open, whatever would close it later.  A `none` that a peek holds is an
end, and so is one in the middle of a number. -/
theorem scanStream_afterAll_leak :
    let answers := [some 'a', none, some '"', some 'b', none, some '"', some '1']
    (scanStream ((Stream.ofAnswers answers).afterAll [.advance, .peek, .advance, .peek])).result =
        .error ⟨.unterminated, ⟨1, 2, 1⟩⟩ ∧
      (scanStream ((Stream.ofAnswers answers).afterAll [.advance, .check 'x', .position])).result =
        .ok [] ∧
      (scanStream ((Stream.ofAnswers [some '\n', some '1', none, some '2']).afterAll
        [.peek, .advance])).result = .ok [⟨.integer 1, ⟨2, 1, 1⟩, ⟨2, 2, 2⟩⟩] ∧
      scanStream ((Stream.ofAnswers [some '\n', some '1']).afterAll [.advance]) =
        scanStream ((Stream.ofAnswers [some '\n', some '1', none, some '2']).afterAll
          [.peek, .advance]) :=
  ⟨(scanStream_afterAll _ [.advance, .peek, .advance, .peek]).2.2.1
      ⟨.unterminated, ⟨1, 1, 0⟩⟩ rfl,
    (scanStream_afterAll _ [.advance, .check 'x', .position]).2.1 [] rfl,
    (scanStream_afterAll _ [.peek, .advance]).2.1 [⟨.integer 1, ⟨1, 1, 0⟩, ⟨1, 2, 1⟩⟩] rfl,
    (scanStream_afterAll _ [.peek, .advance]).2.2.2 _ rfl rfl⟩

end SourceScan.Lex
