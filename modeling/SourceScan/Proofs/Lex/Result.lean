import SourceScan.Proofs.Lex.Passage

/-!
# Proofs/Lex/Result — what comes of a scan

Every text is a layout, up to its end or its first defect, and a waiting machine passes over the
layout piece by piece.  So the result of a scan is read off the layout: its tokens where it has
them, or the defect behind it.

* `Machine.through` — the machine behind a layout; `Machine.run_layout` — how it gets there.
* `result_run_of_waits` — nothing but its place and its tokens tells a waiting machine from a fresh
  one.
* `result_eq_ok_iff` — a scan succeeds on the layouts, with their tokens in their places.
* `result_eq_error_iff` — a scan fails on a layout with a defect behind it, at the defect.
-/

namespace SourceScan.Lex

open LexError

namespace Machine

variable {machine : Machine}

/-- The machine behind a piece. -/
def pass (machine : Machine) (piece : Piece) : Machine :=
  accept { machine with position := machine.position.advance piece.gap } piece.token piece.lexeme

/-- **The machine behind a layout.** -/
def through (machine : Machine) (layout : Layout) : Machine :=
  let passed := layout.pieces.foldl pass machine
  { passed with position := passed.position.advance layout.trailing }

theorem through_cons (machine : Machine) (piece : Piece) (layout : Layout)
    (clear : Clear piece.token layout.text) :
    machine.through (.cons piece layout clear) = (machine.pass piece).through layout := rfl

theorem position_pass (machine : Machine) (piece : Piece) :
    (machine.pass piece).position = machine.position.advance piece.text :=
  (Position.advance_append ..).symm

theorem produced_pass (machine : Machine) (piece : Piece) :
    (machine.pass piece).produced =
      ⟨piece.token, machine.position.advance piece.gap, machine.position.advance piece.text⟩ ::
        machine.produced := by
  rw [← position_pass]
  rfl

theorem waits_through (waits : machine.Waits) (layout : Layout) :
    (machine.through layout).Waits := by
  induction layout generalizing machine with
  | ofGap gap blank => exact waits
  | cons piece layout clear ih =>
    have passed : (machine.pass piece).Waits := rfl
    exact ih passed

theorem position_through (machine : Machine) (layout : Layout) :
    (machine.through layout).position = machine.position.advance layout.text := by
  induction layout generalizing machine with
  | ofGap gap blank => rfl
  | cons piece layout clear ih =>
    rw [through_cons, ih, position_pass, Layout.text_cons, Position.advance_append]

theorem produced_through (machine : Machine) (layout : Layout) :
    (machine.through layout).produced =
      (layout.spanned machine.position).reverse ++ machine.produced := by
  induction layout generalizing machine with
  | ofGap gap blank => rfl
  | cons piece layout clear ih =>
    rw [through_cons, ih, position_pass, produced_pass, Layout.spanned_cons, List.reverse_cons,
      List.append_assoc, List.singleton_append]

/-- A waiting machine passes over a piece, if it is fed nothing then that the token absorbs. -/
theorem run_piece (waits : machine.Waits) (piece : Piece) {rest : List Char}
    (clear : Clear piece.token rest) :
    machine.run (piece.text ++ rest) = (machine.pass piece).run rest := by
  have stillWaits : Waits { machine with position := machine.position.advance piece.gap } := waits
  rw [Piece.text, List.append_assoc, run_gap waits piece.blank]
  exact run_lexeme stillWaits piece.lexical clear

/-- **A waiting machine passes over a layout** that does not run into what follows. -/
theorem run_layout (waits : machine.Waits) (layout : Layout) {rest : List Char}
    (apart : ¬ RunsInto layout.text rest) :
    machine.run (layout.text ++ rest) = (machine.through layout).run rest := by
  induction layout generalizing machine with
  | ofGap gap blank => exact run_gap waits blank rest
  | cons piece layout clear ih =>
    obtain ⟨clear, apart⟩ := (Layout.not_runsInto_cons_iff clear).mp apart
    rw [Layout.text_cons, List.append_assoc, run_piece waits piece clear, through_cons]
    exact ih rfl apart

end Machine

theorem scanFrom_eq_run (origin : Position) (text : List Char) :
    scanFrom origin text = outcome ((Machine.begin origin).run text) := rfl

/-- A waiting machine ends with the tokens it has. -/
theorem result_run_nil {machine : Machine} (waits : machine.Waits) :
    (outcome (machine.run [])).result = .ok machine.produced.reverse := by
  have ends : machine.run [] = machine.finish := rfl
  rw [ends, Machine.finish, waits.close]
  rfl

/-- **A waiting machine fed a layout** has its tokens, behind those it had. -/
theorem result_run_text {machine : Machine} (waits : machine.Waits) (layout : Layout) :
    (outcome (machine.run layout.text)).result =
      .ok (machine.produced.reverse ++ layout.spanned machine.position) := by
  have passed := Machine.run_layout waits layout (not_runsInto_nil layout.text)
  rw [List.append_nil] at passed
  rw [passed, result_run_nil (Machine.waits_through waits layout), Machine.produced_through,
    List.reverse_append, List.reverse_reverse]

/-- **A waiting machine fed a layout with a defect behind it** fails at the defect. -/
theorem result_run_starts {machine : Machine} (waits : machine.Waits) {layout : Layout}
    {cause : Cause} {rest : List Char} (apart : ¬ RunsInto layout.text rest)
    (starts : cause.Starts rest) :
    (outcome (machine.run (layout.text ++ rest))).result =
      .error ⟨cause, machine.position.advance layout.text⟩ := by
  rw [Machine.run_layout waits layout apart,
    Machine.run_starts (Machine.waits_through waits layout) starts, ← Machine.position_through]
  rfl

/-- **A layout is scanned** as its tokens where it has them. -/
theorem result_scanFrom_text (origin : Position) (layout : Layout) :
    (scanFrom origin layout.text).result = .ok (layout.spanned origin) := by
  have waits : (Machine.begin origin).Waits := rfl
  exact result_run_text waits layout

/-- **A layout with a defect behind it** is scanned as the defect. -/
theorem result_scanFrom_starts (origin : Position) {layout : Layout} {cause : Cause}
    {rest : List Char} (apart : ¬ RunsInto layout.text rest) (starts : cause.Starts rest) :
    (scanFrom origin (layout.text ++ rest)).result =
      .error ⟨cause, origin.advance layout.text⟩ := by
  have waits : (Machine.begin origin).Waits := rfl
  exact result_run_starts waits apart starts

/-- **A waiting machine scans on** as a fresh one would from where it stands, and keeps the tokens
it has. -/
theorem result_run_of_waits {machine : Machine} (waits : machine.Waits) (text : List Char) :
    (outcome (machine.run text)).result =
      (scanFrom machine.position text).result.map (machine.produced.reverse ++ ·) := by
  obtain ⟨layout, rest, rfl, apart, rfl | ⟨cause, starts⟩⟩ := exists_layout text
  · rw [List.append_nil, result_run_text waits, result_scanFrom_text]
    rfl
  · rw [result_run_starts waits apart starts, result_scanFrom_starts _ apart starts]
    rfl

/-- **A scan succeeds on the layouts**, with their tokens in their places. -/
theorem result_eq_ok_iff {origin : Position} {text : List Char} {spanned : List SpannedToken} :
    (scanFrom origin text).result = .ok spanned ↔
      ∃ layout : Layout, layout.text = text ∧ layout.spanned origin = spanned := by
  constructor
  · intro scanned
    obtain ⟨layout, rest, rfl, apart, rfl | ⟨cause, starts⟩⟩ := exists_layout text
    · rw [List.append_nil, result_scanFrom_text] at scanned
      exact ⟨layout, (List.append_nil _).symm, Except.ok.inj scanned⟩
    · rw [result_scanFrom_starts origin apart starts] at scanned
      cases scanned
  · rintro ⟨layout, rfl, rfl⟩
    exact result_scanFrom_text origin layout

/-- **A scan fails on the layouts with a defect behind them**, at the defect. -/
theorem result_eq_error_iff {origin : Position} {text : List Char} {error : LexError} :
    (scanFrom origin text).result = .error error ↔
      ∃ (layout : Layout) (rest : List Char), text = layout.text ++ rest ∧
        ¬ RunsInto layout.text rest ∧ error.cause.Starts rest ∧
        error.position = origin.advance layout.text := by
  constructor
  · intro failed
    obtain ⟨layout, rest, rfl, apart, rfl | ⟨cause, starts⟩⟩ := exists_layout text
    · rw [List.append_nil, result_scanFrom_text] at failed
      cases failed
    · rw [result_scanFrom_starts origin apart starts] at failed
      obtain rfl := Except.error.inj failed
      exact ⟨layout, rest, rfl, apart, starts, rfl⟩
  · obtain ⟨cause, position⟩ := error
    rintro ⟨layout, rest, rfl, apart, starts, rfl⟩
    exact result_scanFrom_starts origin apart starts

end SourceScan.Lex
