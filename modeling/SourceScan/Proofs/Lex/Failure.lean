import SourceScan.Proofs.Lex.Grammar
import SourceScan.Proofs.Text.Place

/-!
# Proofs/Lex/Failure — the error of a scan is the first defect

A source that fails to scan has a **first defect**: what stands before it scans and does not run
into it, and what starts there starts with a defect of one cause only.  There is one such place in
the source, and the error of the scan lies there and has that cause.

* `FirstDefect` — the split of a source at its first defect; `FirstDefect.unique` — there is one.
* `FirstDefect.iff_layout` — what stands before the first defect is a layout.
* `scan_failure` — the law of failing scans.
-/

namespace SourceScan.Lex

open LexError

/-- **The first defect of a source**: where it is, and of which cause. -/
structure FirstDefect (source before rest : String) (cause : Cause) : Prop where
  split : source = before ++ rest
  /-- What stands before it is in order. -/
  scans : ∃ tokens, scan before = .ok tokens
  /-- It does not belong to what stands before it. -/
  apart : ¬ RunsInto before.toList rest.toList
  /-- It is a defect of this cause and no other. -/
  starts : ∀ other : Cause, other.Starts rest.toList ↔ other = cause

namespace FirstDefect

variable {source before rest : String} {cause : Cause}

/-- **A first defect stands behind a layout.** -/
theorem iff_layout :
    FirstDefect source before rest cause ↔
      source = before ++ rest ∧ (∃ layout : Layout, layout.text = before.toList) ∧
        ¬ RunsInto before.toList rest.toList ∧ cause.Starts rest.toList := by
  constructor
  · rintro ⟨split, ⟨tokens, scanned⟩, apart, starts⟩
    obtain ⟨layout, text, -⟩ := scan_eq_ok_iff.mp scanned
    exact ⟨split, ⟨layout, text⟩, apart, (starts cause).mpr rfl⟩
  · rintro ⟨split, ⟨layout, text⟩, apart, starts⟩
    refine ⟨split, ⟨layout.tokens, scan_eq_ok_iff.mpr ⟨layout, text, rfl⟩⟩, apart, fun other => ?_⟩
    exact ⟨fun starts' => starts'.unique starts, fun same => same ▸ starts⟩

/-- **The error of a source with a first defect** is that defect. -/
theorem scan_eq (first : FirstDefect source before rest cause) :
    scan source = .error ⟨cause, Position.start.advance before.toList⟩ := by
  obtain ⟨rfl, ⟨layout, text⟩, apart, starts⟩ := iff_layout.mp first
  rw [← text] at apart ⊢
  exact scan_eq_error_iff.mpr
    ⟨layout, rest.toList, by rw [String.toList_append, text], apart, starts, rfl⟩

/-- **A source that fails to scan has a first defect.** -/
theorem exists_of_scan {error : LexError} (failed : scan source = .error error) :
    ∃ before rest, FirstDefect source before rest error.cause ∧
      error.position = Position.start.advance before.toList := by
  obtain ⟨layout, rest, split, apart, starts, place⟩ := scan_eq_error_iff.mp failed
  refine ⟨String.ofList layout.text, String.ofList rest,
    iff_layout.mpr ⟨eq_ofList_append split, ⟨layout, ?_⟩, ?_⟩, ?_⟩
  · rw [String.toList_ofList]
  · rw [String.toList_ofList, String.toList_ofList]
    exact ⟨apart, starts⟩
  · rw [String.toList_ofList, place]

/-- **A source has one first defect.** -/
theorem unique {before' rest' : String} {cause' : Cause}
    (first : FirstDefect source before rest cause)
    (first' : FirstDefect source before' rest' cause') :
    before = before' ∧ rest = rest' ∧ cause = cause' := by
  have same := Except.error.inj (first.scan_eq.symm.trans first'.scan_eq)
  have size := congrArg (·.position.offset) same
  simp only [Position.offset_advance_toList] at size
  obtain ⟨befores, rests⟩ := string_append_cancel (first.split.symm.trans first'.split) size
  exact ⟨befores, rests, congrArg LexError.cause same⟩

end FirstDefect

/-- The error of a scan lies at the first defect and has its cause. -/
theorem exists_error_iff {source : String} {cause : Cause} {offset : Nat} :
    (∃ error, scan source = .error error ∧ error.cause = cause ∧ error.position.offset = offset) ↔
      ∃ before rest, FirstDefect source before rest cause ∧ before.utf8ByteSize = offset := by
  constructor
  · rintro ⟨error, failed, rfl, rfl⟩
    obtain ⟨before, rest, first, place⟩ := FirstDefect.exists_of_scan failed
    rw [place]
    exact ⟨before, rest, first, (Position.offset_advance_toList before).symm⟩
  · rintro ⟨before, rest, first, rfl⟩
    exact ⟨_, first.scan_eq, rfl, Position.offset_advance_toList before⟩

/-- **A run of digits whose number fits does not overflow**, however many zeros it starts with. -/
theorem not_overflow_of_fits {source before rest : String} {zeros : Nat} {digits : List Char}
    (split : source = before ++ (String.ofList (List.replicate zeros '0' ++ digits) ++ rest))
    (all : AllDigits digits) (stop : ∀ c ∈ rest.toList.head?, ¬ c.isDigit = true)
    (fits : decimal digits ≤ 2 ^ 63 - 1) (leading : String) (count : Nat) :
    ¬ ∃ error, scan source = .error error ∧ error.cause = .overflow leading count ∧
      error.position.offset = before.utf8ByteSize := by
  intro overflow
  obtain ⟨before', rest', first, size⟩ := exists_error_iff.mp overflow
  obtain ⟨-, rfl⟩ := string_append_cancel (first.split.symm.trans split) size
  obtain ⟨large, -⟩ := (first.starts _).mpr rfl
  rw [String.toList_append, String.toList_ofList,
    digitRun_append (all.replicate_zero_append zeros) stop, decimal_replicate_zero_append] at large
  exact absurd fits (Nat.not_le_of_lt large)

/-- **The law of failing scans.**  The error of a scan is the first defect of the source: it has its
cause and lies where it starts, there is one such place, and a run of digits whose number fits is
none, however many zeros it starts with. -/
theorem scan_failure (source : String) :
    (∀ cause offset,
      (∃ error, scan source = .error error ∧ error.cause = cause ∧
        error.position.offset = offset) ↔
      ∃ before rest, FirstDefect source before rest cause ∧ before.utf8ByteSize = offset) ∧
    (∀ before rest cause before' rest' cause', FirstDefect source before rest cause →
      FirstDefect source before' rest' cause' →
        before = before' ∧ rest = rest' ∧ cause = cause') ∧
    ∀ (before rest : String) (zeros : Nat) (digits : List Char),
      source = before ++ (String.ofList (List.replicate zeros '0' ++ digits) ++ rest) →
      AllDigits digits → (∀ c ∈ rest.toList.head?, ¬ c.isDigit = true) →
      decimal digits ≤ 2 ^ 63 - 1 →
        ∀ leading count, ¬ ∃ error, scan source = .error error ∧
          error.cause = .overflow leading count ∧
          error.position.offset = before.utf8ByteSize :=
  ⟨fun _ _ => exists_error_iff, fun _ _ _ _ _ _ first first' => first.unique first',
    fun _ _ _ _ split all stop fits leading count =>
      not_overflow_of_fits split all stop fits leading count⟩

/-- In `0x "` the quote that is never closed is the first defect, and the zero is none. -/
theorem scan_failure_unclosed :
    (∃ error, scan "0x \"" = .error error ∧ error.cause = .unterminated ∧
      error.position.offset = 3) ∧
    (∀ before rest, FirstDefect "0x \"" before rest .unterminated →
      before = "0x " ∧ rest = "\"") ∧
    ¬ ∃ error, scan "0x \"" = .error error ∧ error.cause = .overflow "0" 1 ∧
      error.position.offset = "".utf8ByteSize := by
  obtain ⟨located, unique, zeros⟩ := scan_failure "0x \""
  have quote : Cause.unterminated.Starts "\"".toList := ⟨[], rfl, nofun⟩
  have first : FirstDefect "0x \"" "0x " "\"" .unterminated :=
    { split := by decide
      scans := ⟨[.integer 0, .identifier "x"], rfl⟩
      apart := by
        rintro ⟨c, last, d, -, joins⟩
        obtain rfl := Option.some.inj last
        exact not_joins_of_isBlank (by decide) joins
      starts := fun other => ⟨fun starts => starts.unique quote, fun same => same ▸ quote⟩ }
  refine ⟨(located _ _).mpr ⟨_, _, first, by decide⟩, fun before rest other => ?_, ?_⟩
  · obtain ⟨befores, rests, -⟩ := unique _ _ _ _ _ _ other first
    exact ⟨befores, rests⟩
  · refine zeros "" "x \"" 1 [] (by decide) nofun (fun c first => ?_) (by decide) "0" 1
    obtain rfl := Option.some.inj first
    decide

end SourceScan.Lex
