import SourceScan.Text.Position

/-!
# Text/Stream — characters with one character of lookahead

A stream reads from a **supply** of answers, each a character or the word that there is none just
now; a supply may well go on after such a `none`, and when it is used up it says `none` for ever.
Peeking takes one answer out of the supply and **holds** it, a `none` included, until the next
character is consumed.

* `Stream.peek`, `Stream.check` — look at the next character.
* `Stream.advance` — consume it; only a character moves the position.
* `Stream.upcoming` — all answers still to come, the held one first: what the operations are about.
* `Stream.drain` — the characters that advancing gives until it first gives none.
* `Stream.takeWhile`, `Stream.takeUntil` — consume the characters of a class, or those in front of a
  given one, each of them looked at first.

Peeking answers the head of `upcoming` and consumes nothing (`fst_peek`, `getElem?_upcoming_peek`);
advancing answers the same and leaves the tail (`fst_advance`, `upcoming_advance`); and draining
gives the characters in front of the first `none` (`drain_eq`).  A peek drains to the same text
(`drain_peek`), so what a loop of peeks and advances takes is a front of that text
(`takeWhile_eq`, `takeUntil_eq`).
-/

namespace SourceScan

/-- **A stream of characters** with at most one answer held back by a peek. -/
structure Stream where
  /-- The answers not yet asked for. -/
  supply : List (Option Char)
  /-- The answer a peek has taken from the supply. -/
  held : Option (Option Char)
  /-- The position of the next character. -/
  position : Position
deriving DecidableEq, Repr

namespace Stream

/-- A stream over a supply, at the start of the source. -/
def ofAnswers (answers : List (Option Char)) : Stream := ⟨answers, none, Position.start⟩

/-- A stream over a text. -/
def ofString (source : String) : Stream := ofAnswers (source.toList.map some)

/-- **The answers still to come**, the held one first. -/
def upcoming (stream : Stream) : List (Option Char) := stream.held.toList ++ stream.supply

/-- **Peek**: look at the next answer and hold it. -/
def peek (stream : Stream) : Option Char × Stream :=
  match stream.held, stream.supply with
  | some answer, _ => (answer, stream)
  | none, [] => (none, { stream with held := some none })
  | none, answer :: supply => (answer, { stream with held := some answer, supply := supply })

/-- **Advance**: take the next answer; a character moves the position. -/
def advance (stream : Stream) : Option Char × Stream :=
  match stream.held, stream.supply with
  | some answer, supply => (answer, ⟨supply, none, moved answer⟩)
  | none, [] => (none, stream)
  | none, answer :: supply => (answer, ⟨supply, none, moved answer⟩)
where
  moved : Option Char → Position
    | some c => stream.position.step c
    | none => stream.position

/-- **Check**: whether the next answer is the given character. -/
def check (stream : Stream) (expected : Char) : Bool × Stream :=
  let (answer, stream) := stream.peek
  (answer == some expected, stream)

/-- **A peek answers what comes next.** -/
theorem fst_peek (stream : Stream) : stream.peek.1 = stream.upcoming.head?.join := by
  obtain ⟨supply, held, position⟩ := stream
  cases held with
  | some answer => rfl
  | none => cases supply <;> rfl

/-- **A peek consumes nothing**: every answer still comes in its place. -/
theorem getElem?_upcoming_peek (stream : Stream) (k : Nat) :
    stream.peek.2.upcoming[k]?.join = stream.upcoming[k]?.join := by
  obtain ⟨supply, held, position⟩ := stream
  cases held with
  | some answer => rfl
  | none =>
    cases supply with
    | nil => cases k <;> rfl
    | cons answer supply => rfl

/-- **Advancing answers what comes next.** -/
theorem fst_advance (stream : Stream) : stream.advance.1 = stream.upcoming.head?.join := by
  obtain ⟨supply, held, position⟩ := stream
  cases held with
  | some answer => rfl
  | none => cases supply <;> rfl

/-- **Advancing consumes one answer.** -/
theorem upcoming_advance (stream : Stream) : stream.advance.2.upcoming = stream.upcoming.tail := by
  obtain ⟨supply, held, position⟩ := stream
  cases held with
  | some answer => rfl
  | none => cases supply <;> rfl

/-- A character consumed is one answer less to come. -/
theorem length_upcoming_advance {stream : Stream} {c : Char} {next : Stream}
    (taken : stream.advance = (some c, next)) :
    next.upcoming.length < stream.upcoming.length := by
  have answered := fst_advance stream
  have left := upcoming_advance stream
  rw [taken] at answered left
  cases come : stream.upcoming with
  | nil =>
    rw [come] at answered
    cases answered
  | cons answer answers =>
    rw [left, come]
    exact Nat.lt_succ_self _

/-- **The characters up to the first `none`**: what is left to scan. -/
def drain (stream : Stream) : List Char :=
  match _taken : stream.advance with
  | (some c, next) => c :: next.drain
  | (none, _) => []
termination_by stream.upcoming.length
decreasing_by exact length_upcoming_advance _taken

/-- **A drained stream gives the characters in front of its first `none`.** -/
theorem drain_eq (stream : Stream) :
    stream.drain = (stream.upcoming.takeWhile Option.isSome).filterMap id := by
  induction come : stream.upcoming generalizing stream with
  | nil =>
    have answered := fst_advance stream
    rw [drain]
    split
    · rename_i taken
      rw [taken, come] at answered
      cases answered
    · rfl
  | cons answer answers ih =>
    have answered := fst_advance stream
    have left := upcoming_advance stream
    rw [drain]
    split
    · rename_i c next taken
      rw [taken, come] at answered left
      obtain rfl : answer = some c := answered.symm
      rw [ih next left]
      rfl
    · rename_i taken
      rw [taken, come] at answered
      obtain rfl : answer = none := answered.symm
      rfl

/-! ## Looking before consuming -/

variable {stream next : Stream} {c : Char}

@[simp] theorem position_peek (stream : Stream) : stream.peek.2.position = stream.position := by
  obtain ⟨supply, held, position⟩ := stream
  cases held with
  | some answer => rfl
  | none => cases supply <;> rfl

/-- **A peek drains to the same text**, also where the answer it holds is a `none`. -/
@[simp] theorem drain_peek (stream : Stream) : stream.peek.2.drain = stream.drain := by
  obtain ⟨supply, held, position⟩ := stream
  rw [drain_eq, drain_eq]
  cases held with
  | some answer => rfl
  | none => cases supply <;> rfl

/-- **A peek answers the first character of what is drained.** -/
theorem fst_peek_eq_head? (stream : Stream) : stream.peek.1 = stream.drain.head? := by
  rw [fst_peek, drain_eq]
  cases stream.upcoming with
  | nil => rfl
  | cons answer answers => cases answer <;> rfl

/-- A stream is drained of the character it advances over, and then of the rest. -/
theorem drain_of_advance (taken : stream.advance = (some c, next)) :
    stream.drain = c :: next.drain := by
  rw [drain]
  split
  · rename_i taken'
    obtain ⟨same, rfl⟩ := Prod.mk.inj (taken'.symm.trans taken)
    rw [Option.some.inj same]
  · rename_i taken'
    rw [taken] at taken'
    cases taken'

/-- **Advancing moves the position** over what it answers. -/
theorem position_advance (stream : Stream) :
    stream.advance.2.position = stream.position.advance stream.advance.1.toList := by
  obtain ⟨supply, held, position⟩ := stream
  cases held with
  | some answer => cases answer <;> rfl
  | none =>
    cases supply with
    | nil => rfl
    | cons answer supply => cases answer <;> rfl

/-- A character consumed moves the position. -/
theorem position_of_advance (taken : stream.advance = (some c, next)) :
    next.position = stream.position.step c := by
  have moved := position_advance stream
  rw [taken] at moved
  exact moved

/-- **Advancing over the first character** of what is drained. -/
theorem exists_advance {text : List Char} (left : stream.drain = c :: text) :
    ∃ next, stream.advance = (some c, next) ∧ next.drain = text ∧
      next.position = stream.position.step c := by
  rw [drain] at left
  split at left
  · rename_i d next taken
    obtain ⟨rfl, rfl⟩ := List.cons.inj left
    exact ⟨next, taken, rfl, position_of_advance taken⟩
  · cases left

/-- A character that was looked at is the first of what is drained. -/
theorem drain_of_peek (looked : stream.peek = (some c, next)) :
    ∃ text, stream.drain = c :: text ∧ next.drain = c :: text := by
  have answered := fst_peek_eq_head? stream
  have same := drain_peek stream
  rw [looked] at answered same
  obtain ⟨text, left⟩ := List.head?_eq_some_iff.mp answered.symm
  exact ⟨text, left, same.trans left⟩

/-- Consuming a character that was looked at leaves less to drain. -/
theorem length_drain_of_peek (looked : stream.peek = (some c, next)) :
    next.advance.2.drain.length < stream.drain.length := by
  obtain ⟨text, left, left'⟩ := drain_of_peek looked
  obtain ⟨rest, taken, rfl, -⟩ := exists_advance left'
  rw [taken, left]
  exact Nat.lt_succ_self _

/-- Consuming a character after a check leaves less to drain. -/
theorem length_drain_of_check {expected : Char} {found : Bool} {rest : Stream}
    (checked : stream.check expected = (found, next)) (taken : next.advance = (some c, rest)) :
    rest.drain.length < stream.drain.length := by
  have same : next = stream.peek.2 := (Prod.mk.inj checked).2.symm
  rw [← drain_peek stream, ← same, drain_of_advance taken]
  exact Nat.lt_succ_self _

/-- **Taking the characters of a class**: each is looked at, and consumed if it belongs to it. -/
def takeWhile (p : Char → Bool) (stream : Stream) : List Char × Stream :=
  match _looked : stream.peek with
  | (none, next) => ([], next)
  | (some c, next) =>
    if p c then
      let taken := next.advance.2.takeWhile p
      (c :: taken.1, taken.2)
    else ([], next)
termination_by stream.drain.length
decreasing_by exact length_drain_of_peek _looked

/-- **Taking the characters in front of a given one**, which is checked for and not consumed.  There
is no such text if the stream gives none first. -/
def takeUntil (stop : Char) (stream : Stream) : Option (List Char) × Stream :=
  match _checked : stream.check stop with
  | (true, next) => (some [], next)
  | (false, next) =>
    match _taken : next.advance with
    | (some c, rest) =>
      let taken := rest.takeUntil stop
      (taken.1.map (c :: ·), taken.2)
    | (none, rest) => (none, rest)
termination_by stream.drain.length
decreasing_by exact length_drain_of_check _checked _taken

/-- **What is taken of a class** is the longest such front of what is drained. -/
theorem takeWhile_eq (p : Char → Bool) (stream : Stream) :
    (stream.takeWhile p).1 = stream.drain.takeWhile p ∧
      (stream.takeWhile p).2.drain = stream.drain.dropWhile p ∧
      (stream.takeWhile p).2.position = stream.position.advance (stream.drain.takeWhile p) := by
  fun_induction takeWhile p stream with
  | case1 stream next looked =>
    have left : stream.drain = [] := by
      rw [← List.head?_eq_none_iff, ← fst_peek_eq_head?, looked]
    obtain rfl : stream.peek.2 = next := congrArg Prod.snd looked
    rw [drain_peek, position_peek, left]
    exact ⟨rfl, rfl, rfl⟩
  | case2 stream c next looked belongs taken ih =>
    obtain ⟨text, left, left'⟩ := drain_of_peek looked
    obtain ⟨rest, advanced, drained, moved⟩ := exists_advance left'
    obtain rfl : stream.peek.2 = next := congrArg Prod.snd looked
    rw [advanced] at ih
    rw [position_peek] at moved
    rw [drained, moved] at ih
    rw [left, List.takeWhile_cons_of_pos belongs, List.dropWhile_cons_of_pos belongs]
    simp only [taken, advanced]
    exact ⟨congrArg (c :: ·) ih.1, ih.2.1, ih.2.2⟩
  | case3 stream c next looked other =>
    obtain ⟨text, left, -⟩ := drain_of_peek looked
    obtain rfl : stream.peek.2 = next := congrArg Prod.snd looked
    rw [drain_peek, position_peek, left, List.takeWhile_cons_of_neg other,
      List.dropWhile_cons_of_neg other]
    exact ⟨rfl, rfl, rfl⟩

/-- A check tells whether the first character of what is drained is the expected one. -/
theorem check_eq (stream : Stream) (expected : Char) :
    stream.check expected = (stream.drain.head? == some expected, stream.peek.2) := by
  rw [← fst_peek_eq_head?]
  rfl

/-- **What is taken up to a character** is what is drained in front of it, and nothing if it is not
drained. -/
theorem takeUntil_eq (stop : Char) (stream : Stream) :
    (∃ text rest next, stream.drain = text ++ stop :: rest ∧ stop ∉ text ∧
      stream.takeUntil stop = (some text, next) ∧ next.drain = stop :: rest ∧
      next.position = stream.position.advance text) ∨
    stop ∉ stream.drain ∧ (stream.takeUntil stop).1 = none := by
  fun_induction takeUntil stop stream with
  | case1 stream next checked =>
    rw [check_eq] at checked
    obtain ⟨found, rfl⟩ := Prod.mk.inj checked
    obtain ⟨rest, left⟩ := List.head?_eq_some_iff.mp (eq_of_beq found)
    exact Or.inl ⟨[], rest, _, left, List.not_mem_nil, rfl, by rw [drain_peek, left],
      position_peek stream⟩
  | case2 stream next checked c rest advanced taken ih =>
    rw [check_eq] at checked
    obtain ⟨other, rfl⟩ := Prod.mk.inj checked
    have left := drain_of_advance advanced
    have moved := position_of_advance advanced
    rw [drain_peek] at left
    rw [position_peek] at moved
    have differs : stop ≠ c := by
      rintro rfl
      rw [left] at other
      simp at other
    rw [left]
    obtain ⟨text, more, next, rest_eq, absent, found, drained, reached⟩ | ⟨absent, none⟩ := ih
    · refine Or.inl ⟨c :: text, more, next, congrArg (c :: ·) rest_eq,
        List.not_mem_cons_of_ne_of_not_mem differs absent, ?_, drained, ?_⟩
      · simp only [taken, found, Option.map_some]
      · rw [reached, moved, Position.advance_cons]
    · refine Or.inr ⟨List.not_mem_cons_of_ne_of_not_mem differs absent, ?_⟩
      simp only [taken, none, Option.map_none]
  | case3 stream next checked rest advanced =>
    rw [check_eq] at checked
    obtain ⟨-, rfl⟩ := Prod.mk.inj checked
    have left : stream.drain = [] := by
      rw [← drain_peek, drain]
      split
      · rename_i taken
        rw [advanced] at taken
        cases taken
      · rfl
    rw [left]
    exact Or.inr ⟨List.not_mem_nil, rfl⟩

/-- A stream over a text is drained of that text. -/
theorem drain_ofString (source : String) : (ofString source).drain = source.toList := by
  have whole : (ofString source).upcoming = source.toList.map some := rfl
  rw [drain_eq, whole]
  induction source.toList with
  | nil => rfl
  | cons c text ih => exact congrArg (c :: ·) ih

end Stream

end SourceScan
