import SourceScan.Proofs.Text.Calls

/-!
# Proofs/Text/Lookahead — looking ahead leaves no trace

A stream answers its calls as if it stood at a place of its supply and held nothing back: what a
call answers depends only on how many advances came before it.  So the other calls may be made or
left out anywhere, and what the rest of the calls answer stays the same.

* `Answer`, `Stream.transcript` — what calls answer, one after another.
* `answerAt`, `transcriptAt` — the same at a place of a supply, with nothing held.
* `Took.transcript_eq` — a stream answers as its place does, whatever it holds.
* `returned`, `kept` — what the advances answer; what is left of a list without some of its items.
* `transcript_ofAnswers` — the laws of looking ahead.
-/

namespace SourceScan.Stream

/-- **What a call answers.** -/
inductive Answer where
  | next (answer : Option Char)
  | found (same : Bool)
  | place (position : Position)
deriving DecidableEq, Repr

/-- What a stream answers to a call. -/
def answer (stream : Stream) : Call → Answer
  | .peek => .next stream.peek.1
  | .advance => .next stream.advance.1
  | .check expected => .found (stream.check expected).1
  | .position => .place stream.position

/-- **Calls, each with its answer**, made one after another. -/
def transcript (stream : Stream) : List Call → List (Call × Answer)
  | [] => []
  | call :: calls => (call, stream.answer call) :: (stream.after call).transcript calls

/-- **A peek answers what an advance would.** -/
theorem fst_peek_eq_fst_advance (stream : Stream) : stream.peek.1 = stream.advance.1 :=
  (fst_peek stream).trans (fst_advance stream).symm

/-! ## A place of a supply -/

/-- **What a call answers at a place of a supply**, so many answers having been taken from it. -/
def answerAt (answers : List (Option Char)) (taken : Nat) : Call → Answer
  | .peek | .advance => .next answers[taken]?.join
  | .check expected => .found (answers[taken]?.join == some expected)
  | .position => .place (Position.start.advance ((answers.take taken).filterMap id))

/-- **Calls, each with its answer**, from a place of a supply on; only advances move it. -/
def transcriptAt (answers : List (Option Char)) : Nat → List Call → List (Call × Answer)
  | _, [] => []
  | taken, call :: calls =>
    (call, answerAt answers taken call) ::
      transcriptAt answers (taken + [call].count .advance) calls

namespace Took

variable {answers : List (Option Char)} {taken : Nat} {stream : Stream}

/-- The answer that comes next is the one at the place of the stream. -/
theorem fst_advance (took : Took answers taken stream) :
    stream.advance.1 = answers[taken]?.join := by
  obtain ⟨more, come⟩ := took.upcoming
  rw [Stream.fst_advance, come, ← List.head?_drop]
  cases answers.drop taken with
  | nil => cases more <;> rfl
  | cons answer rest => rfl

/-- **A stream answers a call as its place does**, whatever it holds. -/
theorem answer_eq (took : Took answers taken stream) (call : Call) :
    stream.answer call = answerAt answers taken call := by
  have same := fst_peek_eq_fst_advance stream
  cases call with
  | peek => rw [answer, same, took.fst_advance, answerAt]
  | advance => rw [answer, took.fst_advance, answerAt]
  | check expected => rw [answer, check, answerAt, ← took.fst_advance, ← same]
  | position => rw [answer, took.position, answerAt]

/-- **A stream answers calls as its place does.** -/
theorem transcript_eq (took : Took answers taken stream) (calls : List Call) :
    stream.transcript calls = transcriptAt answers taken calls := by
  induction calls generalizing taken stream with
  | nil => rfl
  | cons call calls ih =>
    rw [transcript, transcriptAt, took.answer_eq call, ih (took_after took call)]

end Took

/-! ## What is heard of the advances and of the other calls -/

/-- **What the advances answer.** -/
def returned (heard : List (Call × Answer)) : List (Option Char) :=
  heard.filterMap fun
    | (.advance, .next answer) => some answer
    | _ => none

/-- **What is left of a list** without the items that are marked by a `false`. -/
def kept {α : Type} : List Bool → List α → List α
  | _, [] => []
  | [], items => items
  | true :: marks, item :: items => item :: kept marks items
  | false :: marks, _ :: items => kept marks items

/-- A call that does not advance takes nothing. -/
theorem count_advance {call : Call} (stays : call ≠ .advance) : [call].count .advance = 0 :=
  List.count_eq_zero.mpr fun member => stays (List.mem_singleton.mp member).symm

/-- **The advances answer what is in the supply**, one after another. -/
theorem returned_transcriptAt (answers : List (Option Char)) (taken : Nat) (calls : List Call) :
    returned (transcriptAt answers taken calls) =
      (List.range' taken (calls.count .advance)).map fun k => answers[k]?.join := by
  induction calls generalizing taken with
  | nil => rfl
  | cons call calls ih =>
    cases call with
    | advance =>
      rw [List.count_cons_self, List.range'_succ, List.map_cons, ← ih]
      rfl
    | peek => exact ih taken
    | check expected => exact ih taken
    | position => exact ih taken

/-- The characters among the first answers of a supply, looked up one by one. -/
theorem filterMap_map_range (answers : List (Option Char)) (taken : Nat) :
    ((List.range taken).map fun k => answers[k]?.join).filterMap id =
      (answers.take taken).filterMap id := by
  induction taken with
  | zero => rfl
  | succ taken ih =>
    rw [List.range_succ, List.map_append, List.filterMap_append, ih, List.take_add_one,
      List.filterMap_append, List.map_singleton]
    cases answers[taken]? with
    | none => rfl
    | some answer => rfl

/-- **Calls that do not advance may be left out** anywhere: the others answer the same. -/
theorem transcriptAt_kept (answers : List (Option Char)) (taken : Nat) {marks : List Bool}
    {calls : List Call} (stay : ∀ call, (call, false) ∈ calls.zip marks → call ≠ .advance) :
    transcriptAt answers taken (kept marks calls) =
      kept marks (transcriptAt answers taken calls) := by
  induction calls generalizing taken marks with
  | nil => cases marks <;> rfl
  | cons call calls ih =>
    cases marks with
    | nil => rfl
    | cons mark marks =>
      have others : ∀ call, (call, false) ∈ calls.zip marks → call ≠ .advance :=
        fun other member => stay other (List.mem_cons_of_mem _ member)
      cases mark with
      | true => exact congrArg (List.cons _) (ih _ others)
      | false =>
        have stays : call ≠ .advance := stay call List.mem_cons_self
        rw [transcriptAt, kept, kept, count_advance stays, Nat.add_zero, ih taken others]

/-- **The laws of looking ahead.**  Over any supply and after any calls, the advances have answered
what is in the supply, one after another.  A peek and a check tell of what the next advance will
answer, whatever other calls come in between.  The stream stands behind the characters that the
advances have answered, and neither a peek nor a check nor an advance that answers with none moves
it.  Where calls that do not advance are left out, or put in, the others answer the same. -/
theorem transcript_ofAnswers (answers : List (Option Char)) (calls : List Call) :
    let stream := ofAnswers answers
    let heard := stream.transcript calls
    let reached := stream.afterAll calls
    (returned heard = (List.range (calls.count .advance)).map fun k => answers[k]?.join) ∧
    (∀ others, .advance ∉ others → (reached.afterAll others).advance.1 = reached.peek.1 ∧
      ∀ expected, (reached.check expected).1 =
        ((reached.afterAll others).advance.1 == some expected)) ∧
    reached.position = Position.start.advance ((returned heard).filterMap id) ∧
    (reached.peek.2.position = reached.position ∧
      (∀ expected, (reached.check expected).2.position = reached.position) ∧
      (reached.advance.1 = none → reached.advance.2.position = reached.position)) ∧
    ∀ marks, (∀ call, (call, false) ∈ calls.zip marks → call ≠ .advance) →
      stream.transcript (kept marks calls) = kept marks heard := by
  intro stream heard reached
  have fresh : Took answers 0 stream := took_ofAnswers answers
  have took : Took answers (calls.count .advance) reached := by
    have all := took_afterAll fresh calls
    rwa [Nat.zero_add] at all
  have heard_eq : heard = transcriptAt answers 0 calls := fresh.transcript_eq calls
  have returned_eq : returned heard =
      (List.range (calls.count .advance)).map fun k => answers[k]?.join := by
    rw [heard_eq, returned_transcriptAt, List.range_eq_range']
  have peeked : reached.peek.1 = reached.advance.1 := fst_peek_eq_fst_advance reached
  have later (others : List Call) (stay : .advance ∉ others) :
      (reached.afterAll others).advance.1 = reached.peek.1 := by
    have all := took_afterAll took others
    rw [List.count_eq_zero.mpr stay, Nat.add_zero] at all
    rw [peeked, all.fst_advance, took.fst_advance]
  refine ⟨returned_eq, fun others stay => ⟨later others stay, fun expected => ?_⟩, ?_,
    ⟨position_peek reached, fun _ => position_peek reached, fun none => ?_⟩, fun marks stay => ?_⟩
  · rw [later others stay]
    rfl
  · rw [returned_eq, filterMap_map_range]
    exact took.position
  · rw [position_advance, none]
    rfl
  · rw [heard_eq, fresh.transcript_eq, transcriptAt_kept answers 0 stay]

/-- The supply goes on behind a `none`, which two peeks hold before it is advanced over; a line feed
follows.  Without its peeks and its check the run answers the same. -/
theorem transcript_ofAnswers_none :
    let stream := ofAnswers [some 'a', none, some '\n']
    let calls :=
      [.check 'a', .advance, .peek, .peek, .advance, .position, .peek, .advance, .position]
    let marks := [false, true, false, false, true, true, false]
    (∀ call, (call, false) ∈ calls.zip marks → call ≠ Call.advance) ∧
    returned (stream.transcript calls) = [some 'a', none, some '\n'] ∧
    stream.transcript [.advance, .advance, .position, .advance, .position] =
      [(.advance, .next (some 'a')), (.advance, .next none), (.position, .place ⟨1, 2, 1⟩),
        (.advance, .next (some '\n')), (.position, .place ⟨2, 1, 2⟩)] := by
  intro stream calls marks
  obtain ⟨all, -, -, -, fewer⟩ := transcript_ofAnswers [some 'a', none, some '\n'] calls
  have stay : ∀ call, (call, false) ∈ calls.zip marks → call ≠ Call.advance := by
    rintro call member rfl
    revert member
    decide
  exact ⟨stay, all, fewer marks stay⟩

end SourceScan.Stream
