import SourceScan.Proofs.Lex.Result

/-!
# Proofs/Lex/Pull — pulling and feeding come to the same

A scanner that pulls its characters from a stream goes through the same tokens and events as the
machine that is fed what the stream is drained of.  At every construct the two stand at the same
place: the character that was looked at is still to be drained, so nothing is lost, and once the
stream gives none nothing more is asked of it.

* `Pull.InStep`, `Pull.InStep.construct` — there are as many spans as tokens.
* `Pull.run_construct` — one construct pulled is one construct fed.
* `Pull.run_machine` — the whole scan.
* `scanStream_eq` — scanning a stream is scanning what it is drained of.
-/

namespace SourceScan.Lex

open Codepoint LexError

namespace Pull

variable {pull : Pull}

/-! ## Tokens and spans -/

/-- **Tokens and spans run in step**: there are as many of the one as of the other. -/
def InStep (pull : Pull) : Prop := pull.tokens.length = pull.spans.length

namespace InStep

theorem begin (stream : Stream) : (begin stream).InStep := rfl

/-- Tokens and spans do not depend on where the scan stands. -/
theorem elsewhere (even : pull.InStep) (stream : Stream) (start : Position) :
    InStep { pull with stream := stream, start := start } := even

/-- A token comes with its span. -/
theorem produce (even : pull.InStep) (token : Token) : (pull.produce token).InStep :=
  congrArg (· + 1) even

variable {next : Pull}

theorem string (even : pull.InStep) (read : pull.string = .ok next) : next.InStep := by
  rw [Pull.string] at read
  split at read
  · obtain rfl := Except.ok.inj read
    exact even.produce _
  · cases read

theorem number (even : pull.InStep) (read : pull.number = .ok next) : next.InStep := by
  rw [Pull.number] at read
  split at read
  · obtain rfl := Except.ok.inj read
    exact even.produce _
  · cases read

theorem operator {c : Char} (even : pull.InStep) (read : pull.operator c = .ok next) :
    next.InStep := by
  rw [Pull.operator] at read
  split at read
  · obtain rfl := Except.ok.inj read
    exact even.produce _
  · cases read

/-- **A construct keeps tokens and spans in step.** -/
theorem construct {c : Char} (even : pull.InStep) (read : pull.construct c = .ok next) :
    next.InStep := by
  unfold Pull.construct at read
  split at read
  · obtain rfl := Except.ok.inj read
    exact even
  split at read
  · obtain rfl := Except.ok.inj read
    exact even.produce _
  split at read
  · exact even.string read
  split at read
  · exact even.number read
  split at read
  · obtain rfl := Except.ok.inj read
    exact even.produce _
  · exact even.operator read

/-- **A whole scan keeps tokens and spans in step.** -/
theorem run (even : pull.InStep) (scanned : pull.run = .ok next) : next.InStep := by
  fun_induction Pull.run pull with
  | case1 pull stream looked =>
    obtain rfl := Except.ok.inj scanned
    exact even
  | case2 pull c stream looked after read ih =>
    exact ih ((even.elsewhere stream stream.position).construct read) scanned
  | case3 pull c stream looked failure read => cases scanned

/-- There are as many pairs as tokens. -/
theorem length_produced (even : pull.InStep) : pull.produced.length = pull.tokens.length := by
  rw [Pull.produced, List.length_zipWith, ← even, Nat.min_self]

/-- **Pairing tokens with spans loses none of them.** -/
theorem map_produced (even : pull.InStep) :
    pull.produced.map SpannedToken.token = pull.tokens ∧
      pull.produced.map SpannedToken.span = pull.spans := by
  have tokens := List.map_fst_zip (Nat.le_of_eq even)
  have spans := List.map_snd_zip (Nat.le_of_eq even.symm)
  rw [List.zip_eq_zipWith, List.map_zipWith] at tokens spans
  rw [Pull.produced, List.map_zipWith, List.map_zipWith]
  exact ⟨tokens, spans⟩

end InStep

/-- **The tokens and the spans of a scan** are those of its spanned tokens. -/
theorem map_produced_of_run {stream : Stream} {last : Pull}
    (scanned : (begin stream).run = .ok last) :
    last.produced.map SpannedToken.token = last.tokens ∧
      last.produced.map SpannedToken.span = last.spans :=
  ((InStep.begin stream).run scanned).map_produced

/-! ## Constructs -/

theorem waits_machine (pull : Pull) : pull.machine.Waits := rfl

/-- **A token pulled is a token fed**: with the stream behind a lexeme of it, and nothing there that
the token absorbs, the machine goes on from there. -/
theorem run_produce {token : Token} {lexeme rest : List Char} {stream : Stream}
    (lexical : token.Lexeme lexeme) (clear : Clear token rest)
    (left : pull.stream.drain = lexeme ++ rest) (here : pull.start = pull.stream.position)
    (behind : stream.drain = rest) (moved : stream.position = pull.stream.position.advance lexeme) :
    pull.machine.run pull.stream.drain =
      (produce { pull with
        stream := stream
        events := Machine.announced token ++ pull.events } token).machine.run stream.drain := by
  rw [left, behind, Machine.run_lexeme (waits_machine pull) lexical clear, Machine.accept]
  simp only [machine, produce, here, moved]
  rfl

/-- **A defect pulled is a defect fed.** -/
theorem run_fail {cause : Cause} (starts : cause.Starts pull.stream.drain)
    (here : pull.start = pull.stream.position) (stream : Stream) :
    pull.machine.run pull.stream.drain =
      .error (fail { pull with
        stream := stream
        events := Machine.announcedDefect cause ++ pull.events } cause) := by
  rw [Machine.run_starts (waits_machine pull) starts, Machine.abandon]
  simp only [machine, fail, here]

/-- What a stream takes of a class, and what it is drained of then. -/
theorem drain_takeWhile (p : Char → Bool) (stream : Stream) :
    stream.drain = stream.drain.takeWhile p ++ (stream.takeWhile p).2.drain := by
  rw [(Stream.takeWhile_eq p stream).2.1, List.takeWhile_append_dropWhile]

/-- What is left once a class was taken does not start with it. -/
theorem not_of_head?_takeWhile (p : Char → Bool) (stream : Stream) :
    ∀ c ∈ (stream.takeWhile p).2.drain.head?, ¬ p c = true := by
  intro c first
  have stop := List.head?_dropWhile_not p stream.drain
  rw [(Stream.takeWhile_eq p stream).2.1] at first
  rw [Option.mem_def.mp first] at stop
  exact Bool.eq_false_iff.mp stop

variable {c : Char} {text : List Char}

theorem run_identifier (left : pull.stream.drain = c :: text)
    (here : pull.start = pull.stream.position) (letter : isIdentifierChar c = true) :
    pull.machine.run pull.stream.drain =
      pull.identifier.machine.run pull.identifier.stream.drain := by
  obtain ⟨taken, -, moved⟩ := Stream.takeWhile_eq isIdentifierChar pull.stream
  have nonempty : pull.stream.drain.takeWhile isIdentifierChar ≠ [] := by
    rw [left]
    exact takeWhile_cons_ne_nil text letter
  have lexical := Token.Lexeme.identifier nonempty (List.all_eq_true.mp List.all_takeWhile)
  rw [← taken] at lexical moved
  have split := drain_takeWhile isIdentifierChar pull.stream
  rw [← taken] at split
  exact run_produce lexical (not_of_head?_takeWhile _ _) split here rfl moved

theorem run_string (left : pull.stream.drain = '"' :: text)
    (here : pull.start = pull.stream.position) :
    pull.machine.run pull.stream.drain =
      pull.string >>= fun next => next.machine.run next.stream.drain := by
  have inside : (pull.enter .string).skip.stream.drain = text := drain_skip left
  have entered : (pull.enter .string).skip.stream.position = pull.stream.position.step '"' :=
    position_skip left
  obtain ⟨content, rest, stream, split, unquoted, taken, closing, moved⟩ | ⟨unquoted, none⟩ :=
    Stream.takeUntil_eq '"' (pull.enter .string).skip.stream
  · obtain ⟨_, closed, behind, moved'⟩ := Stream.exists_advance closing
    rw [inside] at split
    rw [string, taken]
    have clear : Clear (.string (String.ofList content)) rest := fun _ _ => id
    refine run_produce (.string unquoted) clear ?_ here ?_ ?_
    · rw [left, split, List.append_assoc, List.singleton_append, List.cons_append]
    · exact (congrArg (·.2.drain) closed).trans behind
    · change stream.advance.2.position = _
      rw [closed, moved', moved, entered, List.cons_append, Position.advance_cons,
        Position.advance_append]
      rfl
  · rw [inside] at unquoted
    rw [string]
    split
    · rename_i taken
      rw [taken] at none
      cases none
    · rename_i stream taken
      have starts : Cause.unterminated.Starts pull.stream.drain := ⟨text, left, unquoted⟩
      exact run_fail starts here stream

theorem run_number (left : pull.stream.drain = c :: text)
    (here : pull.start = pull.stream.position) (digit : c.isDigit = true) :
    pull.machine.run pull.stream.drain =
      pull.number >>= fun next => next.machine.run next.stream.drain := by
  obtain ⟨taken, -, moved⟩ := Stream.takeWhile_eq Char.isDigit pull.stream
  have nonempty : pull.stream.drain.takeWhile Char.isDigit ≠ [] := by
    rw [left]
    exact takeWhile_cons_ne_nil text digit
  have all : AllDigits (pull.stream.drain.takeWhile Char.isDigit) := allDigits_digitRun _
  have split := drain_takeWhile Char.isDigit pull.stream
  have stop := not_of_head?_takeWhile Char.isDigit pull.stream
  rw [← taken] at nonempty all moved split
  have read : pull.number = if decimal (pull.stream.takeWhile Char.isDigit).1 ≤ largest then _
    else _ := rfl
  rw [read]
  by_cases fits : decimal (pull.stream.takeWhile Char.isDigit).1 ≤ largest
  · have valued := Int64.toInt_ofNat_of_lt (Nat.lt_succ_of_le fits)
    rw [if_pos fits]
    exact run_produce (.integer nonempty all valued fits) stop split here rfl moved
  · have run : digitRun pull.stream.drain = (pull.stream.takeWhile Char.isDigit).1 := by
      rw [split, digitRun_append all stop]
    have starts : (Cause.ofDigits (String.ofList (pull.stream.takeWhile Char.isDigit).1)).Starts
        pull.stream.drain := by
      rw [Cause.ofDigits_ofList all, ← run]
      exact ⟨by rw [run]; exact Nat.lt_of_not_le fits, rfl, rfl⟩
    rw [if_neg fits]
    exact run_fail starts here _

theorem run_operator (left : pull.stream.drain = c :: text)
    (here : pull.start = pull.stream.position) (solid : isBlank c = false)
    (letter : isIdentifierChar c = false) (digit : c.isDigit = false) (unquoted : c ≠ '"')
    (unended : c ≠ ';') :
    pull.machine.run pull.stream.drain =
      pull.operator c >>= fun next => next.machine.run next.stream.drain := by
  rw [operator]
  cases found : Operator.ofChar? c with
  | some op =>
    obtain rfl := Operator.ofChar?_eq_some_iff.mp found
    have clear : Clear (.operator op) text := fun _ _ => id
    exact run_produce (.operator op) clear left here (drain_skip left) (position_skip left)
  | none =>
    have sign : c ∉ signs := by
      intro sign
      obtain rfl | rfl | ⟨op, rfl⟩ := sign_cases sign
      · exact unquoted rfl
      · exact unended rfl
      · rw [Operator.ofChar?_eq_some_iff.mpr rfl] at found
        cases found
    have starts : (Cause.unrecognized c).Starts pull.stream.drain := by
      rw [left]
      exact ⟨rfl, solid, letter, digit, sign⟩
    exact run_fail starts here pull.stream

/-- **One construct pulled is one construct fed.** -/
theorem run_construct (left : pull.stream.drain = c :: text)
    (here : pull.start = pull.stream.position) :
    pull.machine.run pull.stream.drain =
      pull.construct c >>= fun next => next.machine.run next.stream.drain := by
  rw [construct]
  by_cases blank : isBlank c = true
  · have moved : pull.skip.machine = pull.machine.take c .gap := by
      rw [machine, position_skip left]
      rfl
    rw [if_pos blank, left,
      Machine.run_of_feed text (Machine.feed_blank (waits_machine pull) blank),
      ← moved, ← drain_skip left]
    rfl
  by_cases letter : isIdentifierChar c = true
  · rw [if_neg blank, if_pos letter]
    exact run_identifier left here letter
  by_cases quote : c = '"'
  · rw [if_neg blank, if_neg letter, if_pos quote]
    exact run_string (quote ▸ left) here
  by_cases digit : c.isDigit = true
  · rw [if_neg blank, if_neg letter, if_neg quote, if_pos digit]
    exact run_number left here digit
  by_cases semicolon : c = ';'
  · have clear : Clear .semicolon text := fun _ _ => id
    rw [if_neg blank, if_neg letter, if_neg quote, if_neg digit, if_pos semicolon]
    exact run_produce .semicolon clear (semicolon ▸ left) here (drain_skip left)
      (semicolon ▸ position_skip left)
  · rw [if_neg blank, if_neg letter, if_neg quote, if_neg digit, if_neg semicolon]
    exact run_operator left here (Bool.eq_false_iff.mpr blank) (Bool.eq_false_iff.mpr letter)
      (Bool.eq_false_iff.mpr digit) quote semicolon

/-- **Looking at the next character** changes nothing but where the construct starts. -/
theorem run_looked {stream : Stream} (looked : pull.stream.peek = (some c, stream)) :
    pull.machine.run pull.stream.drain =
      construct { pull with stream := stream, start := stream.position } c >>=
        fun next => next.machine.run next.stream.drain := by
  obtain ⟨text, left, left'⟩ := Stream.drain_of_peek looked
  obtain rfl : pull.stream.peek.2 = stream := congrArg Prod.snd looked
  have same : pull.machine = machine
      { pull with stream := pull.stream.peek.2, start := pull.stream.peek.2.position } := by
    simp only [machine, Stream.position_peek]
    rfl
  rw [same, ← Stream.drain_peek pull.stream]
  exact run_construct left' rfl

/-- **A whole scan pulled is a whole scan fed** what the stream is drained of. -/
theorem run_machine (even : pull.InStep) :
    pull.run.map machine = pull.machine.run pull.stream.drain := by
  fun_induction run pull with
  | case1 pull stream looked =>
    have left : pull.stream.drain = [] := by
      rw [← List.head?_eq_none_iff, ← Stream.fst_peek_eq_head?, looked]
    obtain rfl : pull.stream.peek.2 = stream := congrArg Prod.snd looked
    rw [left]
    change _ = pull.machine.finish
    rw [Machine.finish, (waits_machine pull).close]
    simp only [Except.map, machine, Stream.position_peek, ← even.length_produced]
    rfl
  | case2 pull c stream looked next read ih =>
    rw [run_looked looked, read]
    exact ih ((even.elsewhere stream stream.position).construct read)
  | case3 pull c stream looked failure read =>
    rw [run_looked looked, read]
    rfl

end Pull

/-- **Scanning a stream** is scanning what it is drained of, from where it stands. -/
theorem scanStream_eq (stream : Stream) :
    scanStream stream = scanFrom stream.position stream.drain := by
  rw [scanStream, Pull.run_machine (Pull.InStep.begin stream), scanFrom_eq_run]
  rfl

/-- A fresh stream over a source is scanned as the source is. -/
theorem scanStream_ofString (source : String) :
    scanStream (Stream.ofString source) = scanSource source := by
  rw [scanStream_eq, Stream.drain_ofString]
  rfl

end SourceScan.Lex
