import SourceScan.Lex.Scan
import SourceScan.Proofs.Lex.Defect

/-!
# Proofs/Lex/Passage — the machine passes over a layout

A machine that **waits** stands in a gap.  Fed a gap it waits on; fed a lexeme, and then anything
the token does not absorb, it goes on as one that waits behind the token; fed a defect it fails.

* `Machine.run` — a text fed to the machine to its end; `Machine.run_eq_close` — at a boundary the
  construct the machine is in is closed first.
* `Machine.run_gap`, `Machine.run_lexeme`, `Machine.run_starts` — the three things a text is made of.
-/

namespace SourceScan.Lex

open Codepoint LexError

namespace Machine

/-- **A text fed to the machine**, to its end. -/
def run (machine : Machine) (text : List Char) : Except Failure Machine :=
  machine.feedAll text >>= finish

/-- The machine is in a gap. -/
def Waits (machine : Machine) : Prop := machine.mode = .gap

theorem run_cons (machine : Machine) (c : Char) (text : List Char) :
    machine.run (c :: text) = machine.feed c >>= (run · text) := by
  rw [run, feedAll_cons]
  cases machine.feed c <;> rfl

/-- A machine that has been fed without failing goes on from where it is. -/
theorem run_append {machine next : Machine} {left : List Char} (right : List Char)
    (fed : machine.feedAll left = .ok next) : machine.run (left ++ right) = next.run right := by
  rw [run, feedAll_append, fed]
  rfl

theorem run_of_feed {machine next : Machine} {c : Char} (text : List Char)
    (fed : machine.feed c = .ok next) : machine.run (c :: text) = next.run text := by
  rw [run_cons, fed]
  rfl

theorem Waits.feed {machine : Machine} (waits : machine.Waits) (c : Char) :
    machine.feed c = machine.dispatch c := by
  rw [Machine.feed, waits]

theorem Waits.close {machine : Machine} (waits : machine.Waits) : machine.close = .ok machine := by
  rw [Machine.close, waits]

/-- A machine that is closed waits. -/
theorem waits_of_close {machine closed : Machine} (ends : machine.close = .ok closed) :
    closed.Waits := by
  unfold Machine.close at ends
  split at ends
  · cases ends
    assumption
  · cases ends
    rfl
  · cases ends
  · dsimp only at ends
    split at ends <;> cases ends
    rfl

theorem finish_eq_close (machine : Machine) : machine.finish = machine.close >>= finish := by
  rw [finish]
  cases ends : machine.close with
  | error failure => rfl
  | ok closed =>
    change _ = finish closed
    rw [finish, (waits_of_close ends).close]

/-- **At a boundary** the construct the machine is in is closed first. -/
theorem run_eq_close {machine : Machine} {rest : List Char}
    (boundary : ∀ c ∈ rest.head?, machine.feed c = machine.close >>= (dispatch · c)) :
    machine.run rest = machine.close >>= (run · rest) := by
  cases rest with
  | nil => exact finish_eq_close machine
  | cons c rest =>
    rw [run_cons, boundary c rfl]
    cases ends : machine.close with
    | error failure => rfl
    | ok closed =>
      change closed.dispatch c >>= _ = closed.run (c :: rest)
      rw [run_cons, (waits_of_close ends).feed]

/-! ## What a waiting machine does with a character -/

variable {machine : Machine}

theorem feed_blank (waits : machine.Waits) {c : Char} (blank : isBlank c = true) :
    machine.feed c = .ok (machine.take c .gap) := by
  rw [waits.feed, dispatch, if_pos blank]

theorem feed_letter (waits : machine.Waits) {c : Char} (letter : isIdentifierChar c = true) :
    machine.feed c =
      .ok (machine.enter .identifier c (.identifier machine.position [c])) := by
  rw [waits.feed, dispatch, isBlank_of_isIdentifierChar letter, if_neg Bool.false_ne_true,
    if_pos letter]

theorem feed_quote (waits : machine.Waits) :
    machine.feed '"' = .ok (machine.enter .string '"' (.string machine.position [])) :=
  waits.feed '"'

theorem feed_digit (waits : machine.Waits) {c : Char} (digit : c.isDigit = true) :
    machine.feed c = .ok (machine.enter .number c (.number machine.position [c])) := by
  have unquoted : c ≠ '"' := by rintro rfl; cases digit
  rw [waits.feed, dispatch, isBlank_of_isDigit digit, isIdentifierChar_of_isDigit digit,
    if_neg Bool.false_ne_true, if_neg Bool.false_ne_true, if_neg unquoted, if_pos digit]

theorem feed_semicolon (waits : machine.Waits) :
    machine.feed ';' = .ok ((machine.take ';' .gap).produce .semicolon machine.position) :=
  waits.feed ';'

theorem feed_operator (waits : machine.Waits) (op : Operator) :
    machine.feed op.char =
      .ok ((machine.take op.char .gap).produce (.operator op) machine.position) := by
  rw [waits.feed]
  cases op <;> rfl

theorem feed_unrecognized (waits : machine.Waits) {c : Char} (solid : isBlank c = false)
    (letter : isIdentifierChar c = false) (digit : c.isDigit = false) (sign : c ∉ signs) :
    machine.feed c = .error (machine.fail (.unrecognized c) machine.position) := by
  have unquoted : c ≠ '"' := by rintro rfl; exact sign (by decide)
  have unended : c ≠ ';' := by rintro rfl; exact sign (by decide)
  rw [waits.feed, dispatch, solid, letter, digit, if_neg Bool.false_ne_true,
    if_neg Bool.false_ne_true, if_neg unquoted, if_neg Bool.false_ne_true, if_neg unended,
    Operator.ofChar?_eq_none sign]

/-! ## Growing constructs -/

/-- **A construct grows** by every character it takes, the latest first. -/
theorem feedAll_grow (construct : List Char → Mode) {word : List Char}
    (grows : ∀ (machine : Machine) (read : List Char), ∀ c ∈ word,
      machine.mode = construct read → machine.feed c = .ok (machine.take c (construct (c :: read))))
    (read : List Char) (inside : machine.mode = construct read) :
    machine.feedAll word = .ok { machine with
      position := machine.position.advance word, mode := construct (word.reverse ++ read) } := by
  induction word generalizing machine read with
  | nil =>
    obtain ⟨position, mode, produced, events⟩ := machine
    obtain rfl : mode = construct read := inside
    rfl
  | cons c word ih =>
    rw [feedAll_cons, grows machine read c List.mem_cons_self inside]
    refine (ih (fun machine read d member => grows machine read d (List.mem_cons_of_mem _ member))
      (c :: read) rfl).trans ?_
    rw [List.reverse_cons, List.append_assoc]
    rfl

/-- A waiting machine passes over a gap. -/
theorem feedAll_gap (waits : machine.Waits) {gap : List Char} (blank : AllBlank gap) :
    machine.feedAll gap = .ok { machine with position := machine.position.advance gap } := by
  have fed := feedAll_grow (fun _ => .gap)
    (fun machine _ c member inside => feed_blank inside (blank c member)) [] waits
  rw [fed, ← waits]

theorem run_gap (waits : machine.Waits) {gap : List Char} (blank : AllBlank gap)
    (rest : List Char) :
    machine.run (gap ++ rest) =
      run { machine with position := machine.position.advance gap } rest :=
  run_append rest (feedAll_gap waits blank)

theorem feed_in_identifier {start : Position} {read : List Char} {c : Char}
    (inside : machine.mode = .identifier start read) (letter : isIdentifierChar c = true) :
    machine.feed c = .ok (machine.take c (.identifier start (c :: read))) := by
  rw [feed, inside]
  exact if_pos letter

theorem feed_in_string {start : Position} {read : List Char} {c : Char}
    (inside : machine.mode = .string start read) (unquoted : c ≠ '"') :
    machine.feed c = .ok (machine.take c (.string start (c :: read))) := by
  rw [feed, inside]
  exact if_neg unquoted

theorem feed_in_number {start : Position} {read : List Char} {c : Char}
    (inside : machine.mode = .number start read) (digit : c.isDigit = true) :
    machine.feed c = .ok (machine.take c (.number start (c :: read))) := by
  rw [feed, inside]
  exact if_pos digit

/-- Fed a name, a waiting machine is inside of it. -/
theorem feedAll_identifier (waits : machine.Waits) {name : List Char} (nonempty : name ≠ [])
    (letters : ∀ c ∈ name, isIdentifierChar c = true) :
    machine.feedAll name = .ok { machine with
      position := machine.position.advance name
      mode := .identifier machine.position name.reverse
      events := .entered .identifier :: machine.events } := by
  obtain ⟨c, word, rfl⟩ := List.exists_cons_of_ne_nil nonempty
  obtain ⟨letter, letters⟩ := List.forall_mem_cons.mp letters
  rw [feedAll_cons, feed_letter waits letter, List.reverse_cons]
  exact feedAll_grow (.identifier machine.position)
    (fun _ _ d member inside => feed_in_identifier inside (letters d member)) [c] rfl

/-- Fed a string that is not closed yet, a waiting machine is inside of it. -/
theorem feedAll_string (waits : machine.Waits) {content : List Char} (unquoted : '"' ∉ content) :
    machine.feedAll ('"' :: content) = .ok { machine with
      position := machine.position.advance ('"' :: content)
      mode := .string machine.position content.reverse
      events := .entered .string :: machine.events } := by
  rw [feedAll_cons, feed_quote waits, ← List.append_nil content.reverse]
  refine feedAll_grow (.string machine.position) (fun _ _ d member inside => ?_) [] rfl
  refine feed_in_string inside fun quote => ?_
  rw [quote] at member
  exact unquoted member

/-- Fed a run of digits, a waiting machine is inside of it. -/
theorem feedAll_number (waits : machine.Waits) {digits : List Char} (nonempty : digits ≠ [])
    (all : AllDigits digits) :
    machine.feedAll digits = .ok { machine with
      position := machine.position.advance digits
      mode := .number machine.position digits.reverse
      events := .entered .number :: machine.events } := by
  obtain ⟨c, word, rfl⟩ := List.exists_cons_of_ne_nil nonempty
  obtain ⟨digit, rest⟩ := allDigits_cons.mp all
  rw [feedAll_cons, feed_digit waits digit, List.reverse_cons]
  exact feedAll_grow (.number machine.position)
    (fun _ _ d member inside => feed_in_number inside (rest d member)) [c] rfl

theorem feed_closing {start : Position} {read : List Char}
    (inside : machine.mode = .string start read) :
    machine.feed '"' =
      .ok ((machine.take '"' .gap).produce (.string (String.ofList read.reverse)) start) := by
  rw [feed, inside]
  exact if_pos rfl

/-- Where an identifier cannot go on it is a token. -/
theorem run_identifier {start : Position} {read rest : List Char}
    (inside : machine.mode = .identifier start read)
    (stop : ∀ c ∈ rest.head?, ¬ isIdentifierChar c = true) :
    machine.run rest =
      run (machine.produce (.identifier (String.ofList read.reverse)) start) rest := by
  have ends : machine.close =
      .ok (machine.produce (.identifier (String.ofList read.reverse)) start) := by
    rw [close, inside]
  rw [run_eq_close, ends]
  · rfl
  · intro c first
    rw [feed, inside]
    exact if_neg (stop c first)

/-- Where a number cannot go on it is closed. -/
theorem run_number {start : Position} {read rest : List Char}
    (inside : machine.mode = .number start read)
    (stop : ∀ c ∈ rest.head?, ¬ c.isDigit = true) :
    machine.run rest = machine.close >>= (run · rest) := by
  refine run_eq_close fun c first => ?_
  rw [feed, inside]
  exact if_neg (stop c first)

theorem close_number_of_le {start : Position} {read : List Char}
    (inside : machine.mode = .number start read) (fits : decimal read.reverse ≤ 2 ^ 63 - 1) :
    machine.close =
      .ok (machine.produce (.integer (Int64.ofNat (decimal read.reverse))) start) := by
  rw [close, inside]
  exact if_pos fits

theorem close_number_of_lt {start : Position} {read : List Char}
    (inside : machine.mode = .number start read) (large : 2 ^ 63 - 1 < decimal read.reverse) :
    machine.close = .error (machine.fail (.ofDigits (String.ofList read.reverse)) start) := by
  rw [close, inside]
  exact if_neg (Nat.not_le_of_lt large)

/-! ## What a waiting machine does with a lexeme -/

/-- The events that announce a token before it is read. -/
def announced : Token → List Log.Event
  | .identifier _ => [.entered .identifier]
  | .string _ => [.entered .string]
  | .integer _ => [.entered .number]
  | .semicolon | .operator _ => []

/-- **A waiting machine behind a token** whose lexeme it has been fed. -/
def accept (machine : Machine) (token : Token) (lexeme : List Char) : Machine where
  position := machine.position.advance lexeme
  mode := .gap
  produced :=
    ⟨token, machine.position, machine.position.advance lexeme⟩ :: machine.produced
  events :=
    .produced token machine.position.line machine.position.column ::
      (announced token ++ machine.events)

/-- **Fed a lexeme** and then nothing its token absorbs, a waiting machine goes on as one that waits
behind the token. -/
theorem run_lexeme (waits : machine.Waits) {token : Token} {lexeme rest : List Char}
    (lexical : token.Lexeme lexeme) (clear : Clear token rest) :
    machine.run (lexeme ++ rest) = (machine.accept token lexeme).run rest := by
  cases lexical with
  | identifier nonempty letters =>
    rw [run_append rest (feedAll_identifier waits nonempty letters), run_identifier rfl clear,
      List.reverse_reverse]
    rfl
  | @string content unquoted =>
    rw [List.append_assoc, run_append _ (feedAll_string waits unquoted), List.singleton_append,
      run_of_feed _ (feed_closing rfl), List.reverse_reverse, accept, Position.advance_append]
    rfl
  | integer nonempty all valued fits =>
    have value : _ = Int64.ofNat (decimal lexeme) :=
      Int64.toInt_inj.mp (valued.trans (Int64.toInt_ofNat_of_lt (by omega)).symm)
    rw [run_append rest (feedAll_number waits nonempty all), run_number rfl clear,
      close_number_of_le rfl (by rw [List.reverse_reverse]; exact fits), List.reverse_reverse,
      value]
    rfl
  | semicolon => exact run_of_feed rest (feed_semicolon waits)
  | operator op => exact run_of_feed rest (feed_operator waits op)

/-! ## What a waiting machine does with a defect -/

/-- The events that announce a construct of which only a defect is read. -/
def announcedDefect : Cause → List Log.Event
  | .unrecognized _ => []
  | .unterminated => [.entered .string]
  | .overflow _ _ => [.entered .number]

/-- **A waiting machine that fails** at a defect. -/
def abandon (machine : Machine) (cause : Cause) : Failure :=
  ⟨⟨cause, machine.position⟩,
    .aborted ⟨cause, machine.position⟩ :: (announcedDefect cause ++ machine.events)⟩

/-- **Fed a defect**, a waiting machine fails, whatever follows. -/
theorem run_starts (waits : machine.Waits) {cause : Cause} {rest : List Char}
    (starts : cause.Starts rest) : machine.run rest = .error (machine.abandon cause) := by
  cases cause with
  | unrecognized c =>
    obtain ⟨first, solid, letter, digit, sign⟩ := starts
    obtain ⟨rest, rfl⟩ := List.head?_eq_some_iff.mp first
    rw [run_cons, feed_unrecognized waits solid letter digit sign]
    rfl
  | unterminated =>
    obtain ⟨content, rfl, unquoted⟩ := starts
    rw [run, feedAll_string waits unquoted]
    rfl
  | overflow leading count =>
    obtain ⟨large, rfl, rfl⟩ := starts
    obtain ⟨after, split, all, stop⟩ := eq_takeWhile_append Char.isDigit rest
    have nonempty := Cause.Starts.digitRun_ne_nil large
    rw [digitRun] at nonempty large ⊢
    generalize rest.takeWhile Char.isDigit = digits at *
    rw [split, run_append after (feedAll_number waits nonempty all), run_number rfl stop,
      close_number_of_lt rfl (by rw [List.reverse_reverse]; exact large), List.reverse_reverse,
      Cause.ofDigits_ofList all]
    rfl

end Machine

end SourceScan.Lex
