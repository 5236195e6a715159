import SourceScan.Proofs.Lex.Grammar

/-!
# Proofs/Lex/Transcript — the events of a scan

The events of a scan tell it in order: that it begins, for every token the construct that is
announced and then the token with its place, and in the end how many tokens there are, or the
construct in which the error lies and the error.  Of a source that fails, the tokens told are those
of the text in front of the error.

* `SpannedToken.events` — what is told of a token.
* `completed`, `abandoned` — what is told of a scan that succeeds, and of one that fails.
* `exists_layout_of_error` — what stands in front of an error, and what is told of it.
* `events_scanSource_of_ok`, `events_scanSource_of_error` — that is what a scan tells.
-/

namespace SourceScan

open Lex.Machine (announced announcedDefect)

/-- **What is told of a token**: the construct that is announced, if one is, and then the token with
the line and the column of its start. -/
def SpannedToken.events (spanned : SpannedToken) : List Log.Event :=
  announced spanned.token ++
    [.produced spanned.token spanned.span.start.line spanned.span.start.column]

namespace Lex

/-- **What is told of a scan that succeeds.** -/
def completed (spanned : List SpannedToken) : List Log.Event :=
  .created :: (spanned.flatMap SpannedToken.events ++ [.complete spanned.length])

/-- **What is told of a scan that fails** behind some tokens. -/
def abandoned (spanned : List SpannedToken) (error : LexError) : List Log.Event :=
  .created :: (spanned.flatMap SpannedToken.events ++
    (announcedDefect error.cause ++ [.aborted error]))

namespace Machine

variable {machine : Machine}

/-- **Passing over a layout** tells of its tokens, latest first. -/
theorem events_through (machine : Machine) (layout : Layout) :
    (machine.through layout).events =
      ((layout.spanned machine.position).flatMap SpannedToken.events).reverse ++
        machine.events := by
  induction layout generalizing machine with
  | ofGap gap blank => rfl
  | cons piece layout clear ih =>
    have told : (machine.pass piece).events =
        (SpannedToken.events ⟨piece.token, machine.position.advance piece.gap,
          machine.position.advance piece.text⟩).reverse ++ machine.events := by
      rw [SpannedToken.events, List.reverse_append]
      -- At most one construct is announced, so the order of the announcement is no matter.
      have single : (announced piece.token).reverse = announced piece.token := by
        cases piece.token <;> rfl
      rw [single]
      rfl
    rw [through_cons, ih, told, position_pass, Layout.spanned_cons, List.flatMap_cons,
      List.reverse_append, List.append_assoc]

end Machine

/-- The events of a layout that is scanned. -/
theorem events_scanFrom_text (origin : Position) (layout : Layout) :
    (scanFrom origin layout.text).events = completed (layout.spanned origin) := by
  have waits : (Machine.begin origin).Waits := rfl
  have passed := Machine.run_layout waits layout (not_runsInto_nil layout.text)
  have ends : ((Machine.begin origin).through layout).run [] =
      ((Machine.begin origin).through layout).finish := rfl
  rw [List.append_nil] at passed
  rw [scanFrom_eq_run, passed, ends, Machine.finish, (Machine.waits_through waits layout).close]
  change (Log.Event.complete _ :: _).reverse = _
  rw [Machine.events_through, Machine.produced_through, List.reverse_cons, List.reverse_append,
    List.reverse_reverse]
  simp [completed, Machine.begin]

/-- The events of a layout with a defect behind it. -/
theorem events_scanFrom_starts (origin : Position) {layout : Layout} {cause : LexError.Cause}
    {rest : List Char} (apart : ¬ RunsInto layout.text rest) (starts : cause.Starts rest) :
    (scanFrom origin (layout.text ++ rest)).events =
      abandoned (layout.spanned origin) ⟨cause, origin.advance layout.text⟩ := by
  have waits : (Machine.begin origin).Waits := rfl
  have single : (announcedDefect cause).reverse = announcedDefect cause := by cases cause <;> rfl
  rw [scanFrom_eq_run, Machine.run_layout waits layout apart,
    Machine.run_starts (Machine.waits_through waits layout) starts, Machine.abandon,
    Machine.position_through, Machine.events_through]
  simp [outcome, abandoned, Machine.begin, single]

/-- **What a scan tells that succeeds**: its tokens. -/
theorem events_scanSource_of_ok {source : String} {spanned : List SpannedToken}
    (scanned : (scanSource source).result = .ok spanned) :
    (scanSource source).events = completed spanned := by
  obtain ⟨layout, text, rfl⟩ := result_eq_ok_iff.mp scanned
  rw [scanSource, ← text]
  exact events_scanFrom_text Position.start layout

/-- **In front of an error** stands a layout.  It scans as its tokens, and the scan tells of them
before it tells of the error. -/
theorem exists_layout_of_error {source : String} {error : LexError}
    (failed : (scanSource source).result = .error error) :
    ∃ (layout : Layout) (rest : String), source = String.ofList layout.text ++ rest ∧
      error.position = Position.start.advance layout.text ∧
      (scanSource (String.ofList layout.text)).result = .ok (layout.spanned Position.start) ∧
      (scanSource source).events = abandoned (layout.spanned Position.start) error := by
  obtain ⟨cause, position⟩ := error
  obtain ⟨layout, rest, split, apart, starts, rfl⟩ := result_eq_error_iff.mp failed
  refine ⟨layout, String.ofList rest, eq_ofList_append split, rfl, ?_, ?_⟩
  · exact result_eq_ok_iff.mpr ⟨layout, String.toList_ofList.symm, rfl⟩
  · rw [scanSource, split]
    exact events_scanFrom_starts Position.start apart starts

/-- **What a scan tells that fails**: the tokens of the text in front of the error, and the
error. -/
theorem events_scanSource_of_error {source : String} {error : LexError}
    (failed : (scanSource source).result = .error error) :
    ∃ (before rest : String) (spanned : List SpannedToken), source = before ++ rest ∧
      before.utf8ByteSize = error.position.offset ∧
      (scanSource before).result = .ok spanned ∧
      (scanSource source).events = abandoned spanned error := by
  obtain ⟨layout, rest, split, place, scanned, told⟩ := exists_layout_of_error failed
  refine ⟨_, rest, _, split, ?_, scanned, told⟩
  rw [place, ← byteLength_toList, String.toList_ofList, Position.offset_advance]
  exact (Nat.zero_add _).symm

end Lex

end SourceScan
