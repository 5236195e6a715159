import SourceScan.Proofs.Lex.Failure
import SourceScan.Proofs.Lex.Origin
import SourceScan.Proofs.Lex.Tiling

/-!
# Proofs/Lex/Extension — what more text does to a failing source

The first defect of a source is still there when more text is put behind the source, unless that
text closes a quote.  A character of no use stays one, and a run of digits that is too large can
only get longer.

* `Starts.append_unrecognized`, `Starts.append_overflow`, `Starts.append_run`,
  `Starts.append_unterminated_iff` — what a defect is once the source is longer.
* `FirstDefect.append` — it is the first one then, too.
* `scan_append`, `scan_append_closed` — the tokens of two sources in a row, and of one whose quote
  is closed.
* `scan_append_of_error` — what more text does to a failing source.
-/

namespace SourceScan

open LexError

/-- A run of digits with something behind it does not get longer. -/
theorem digitRun_append_of_ne {text : List Char} (stops : digitRun text ≠ text)
    (more : List Char) : digitRun (text ++ more) = digitRun text := by
  have shorter : (digitRun text).length ≠ text.length :=
    fun same => stops ((List.takeWhile_sublist Char.isDigit).eq_of_length same)
  rw [digitRun, List.takeWhile_append, ← digitRun, if_neg shorter]

/-- A run of digits at the end of a text goes on behind it. -/
theorem digitRun_append_of_eq {text : List Char} (whole : digitRun text = text)
    (more : List Char) : digitRun (text ++ more) = text ++ digitRun more := by
  have all : AllDigits text := whole ▸ allDigits_digitRun text
  rw [digitRun, List.takeWhile_append_of_pos all, ← digitRun]

/-- A text is a run of digits and what stands behind it. -/
theorem exists_digitRun_append (text : String) :
    ∃ digits behind, text = digits ++ behind ∧ digitRun text.toList = digits.toList ∧
      (behind ≠ "" → digitRun text.toList ≠ text.toList) := by
  have split : digitRun text.toList ++ text.toList.dropWhile Char.isDigit = text.toList :=
    List.takeWhile_append_dropWhile
  refine ⟨String.ofList (digitRun text.toList),
    String.ofList (text.toList.dropWhile Char.isDigit), String.toList_inj.mp ?_, ?_, ?_⟩
  · rw [String.toList_append, String.toList_ofList, String.toList_ofList, split]
  · rw [String.toList_ofList]
  · intro more whole
    rw [whole, List.append_right_eq_self] at split
    exact more (by rw [split, String.ofList_nil])

namespace LexError.Cause.Starts

variable {cause : Cause} {rest : List Char}

theorem ne_nil (starts : cause.Starts rest) : rest ≠ [] := by
  rintro rfl
  cases cause with
  | unrecognized c => cases starts.1
  | unterminated =>
    obtain ⟨content, none, -⟩ := starts
    cases none
  | overflow leading count => exact digitRun_ne_nil starts.1 rfl

/-- **A character of no use** stays one. -/
theorem append_unrecognized {c : Char} (starts : (Cause.unrecognized c).Starts rest)
    (more : List Char) : (Cause.unrecognized c).Starts (rest ++ more) := by
  obtain ⟨first, useless⟩ := starts
  exact ⟨List.mem_head?_append_of_mem_head? first, useless⟩

/-- **A run of digits that is too large** stays as it is, if it ends before the text does. -/
theorem append_overflow {leading : String} {count : Nat}
    (starts : (Cause.overflow leading count).Starts rest) (stops : digitRun rest ≠ rest)
    (more : List Char) : (Cause.overflow leading count).Starts (rest ++ more) := by
  rw [Cause.Starts, digitRun_append_of_ne stops]
  exact starts

/-- **A run of digits that is too large**, at the end of the text, takes the digits behind it. -/
theorem append_run {leading : String} {count : Nat}
    (starts : (Cause.overflow leading count).Starts rest) (whole : digitRun rest = rest)
    (more : List Char) :
    (Cause.overflow (String.ofList ((rest ++ digitRun more).take 20))
      (count + (digitRun more).length)).Starts (rest ++ more) := by
  obtain ⟨large, rfl, -⟩ := starts
  rw [whole] at large ⊢
  rw [Cause.Starts, digitRun_append_of_eq whole, List.take_eq_take_min, List.length_append]
  exact ⟨Nat.lt_of_lt_of_le large (decimal_le_decimal_append rest _), rfl, rfl⟩

/-- **A quote that is not closed** stays open as long as no quote follows. -/
theorem append_unterminated_iff (starts : Cause.unterminated.Starts rest) {more : List Char} :
    Cause.unterminated.Starts (rest ++ more) ↔ '"' ∉ more := by
  obtain ⟨content, rfl, unquoted⟩ := starts
  constructor
  · rintro ⟨content', same, unquoted'⟩ quote
    obtain rfl := List.tail_eq_of_cons_eq same
    exact unquoted' (List.mem_append_right _ quote)
  · intro open'
    refine ⟨content ++ more, rfl, fun quote => ?_⟩
    exact (List.mem_append.mp quote).elim unquoted open'

end LexError.Cause.Starts

namespace Lex

/-- A text runs into another by its first character, whatever stands behind. -/
theorem runsInto_append_right_iff {left right : List Char} (nonempty : right ≠ [])
    (more : List Char) : RunsInto left (right ++ more) ↔ RunsInto left right := by
  rw [RunsInto, RunsInto, List.head?_append_of_ne_nil _ nonempty]

/-- **The first defect of a longer source**, which starts where it did. -/
theorem FirstDefect.append {source before rest more : String} {cause other : Cause}
    (first : FirstDefect source before rest cause)
    (starts : other.Starts (rest.toList ++ more.toList)) :
    FirstDefect (source ++ more) before (rest ++ more) other := by
  obtain ⟨rfl, ordered, apart, defect⟩ := iff_layout.mp first
  refine iff_layout.mpr ⟨String.append_assoc .., ordered, ?_, ?_⟩
  · rwa [String.toList_append, runsInto_append_right_iff defect.ne_nil]
  · rwa [String.toList_append]

/-- **Two sources in a row** have the tokens of the first and then those of the second, or its
error, if the first does not run into the second. -/
theorem scan_append {left right : String} {tokens : List Token} (scanned : scan left = .ok tokens)
    (apart : ¬ RunsInto left.toList right.toList) :
    scan (left ++ right) = ((scan right).map (tokens ++ ·)).mapError
      (LexError.shift (Position.start.advance left.toList)) := by
  obtain ⟨spanned, found, rfl⟩ := scan_eq_ok_iff_result.mp scanned
  let origin := Position.start.advance left.toList
  have whole := result_scanFrom_append found apart
  rw [← String.toList_append, result_scanFrom_eq_shift origin] at whole
  rw [scan, scanSource, whole, scan, scanSource]
  cases (scanFrom Position.start right.toList).result with
  | error error => rfl
  | ok later =>
    have tokens : (spanned ++ later.map (SpannedToken.shift origin)).map SpannedToken.token =
        spanned.map SpannedToken.token ++ later.map SpannedToken.token := by
      rw [List.map_append, List.map_map]
      rfl
    exact congrArg Except.ok tokens

/-- **A source whose quote is closed**, and then more: the tokens in front of the quote, the string,
and the tokens behind it or their error. -/
theorem scan_append_closed {before content behind : String} {tokens : List Token}
    (scanned : scan before = .ok tokens) (apart : ¬ RunsInto before.toList ['"'])
    (unquoted : '"' ∉ content.toList) :
    scan (before ++ ("\"" ++ content ++ "\"") ++ behind) =
      ((scan behind).map (tokens ++ .string content :: ·)).mapError
        (LexError.shift (Position.start.advance (before ++ ("\"" ++ content ++ "\"")).toList)) := by
  have lexical : (Token.string content).Lexeme ("\"" ++ content ++ "\"").toList :=
    Token.WellFormed.lexeme unquoted
  have alone : scan ("\"" ++ content ++ "\"") = .ok [.string content] := by
    have scanned := scan_lexeme lexical
    rwa [String.ofList_toList] at scanned
  have opens : ("\"" ++ content ++ "\"").toList = ['"'] ++ (content.toList ++ ['"']) := by
    rw [String.toList_append, String.toList_append, List.append_assoc]
    rfl
  have closed : scan (before ++ ("\"" ++ content ++ "\"")) = .ok (tokens ++ [.string content]) := by
    rw [scan_append scanned, alone]
    · rfl
    · rwa [opens, runsInto_append_right_iff (List.cons_ne_nil _ _)]
  rw [scan_append closed]
  · simp only [List.append_assoc, List.singleton_append]
  · rw [String.toList_append, runsInto_append_iff lexical.ne_nil, not_runsInto_iff_clear lexical]
    exact fun _ _ => id

/-! ## Each of the defects -/

namespace FirstDefect

variable {source before rest : String}

/-- What starts at the first defect is a defect of its cause. -/
theorem starts_rest {cause : Cause} (first : FirstDefect source before rest cause) :
    cause.Starts rest.toList := (first.starts cause).mpr rfl

/-- **A character of no use** stays the error. -/
theorem scan_append_unrecognized {c : Char}
    (first : FirstDefect source before rest (.unrecognized c)) (more : String) :
    scan (source ++ more) = scan source := by
  have later := first.append (first.starts_rest.append_unrecognized more.toList)
  rw [later.scan_eq, first.scan_eq]

/-- **A run of digits that is too large** stays the error, if something stands behind it. -/
theorem scan_append_overflow {leading : String} {count : Nat}
    (first : FirstDefect source before rest (.overflow leading count))
    (stops : digitRun rest.toList ≠ rest.toList) (more : String) :
    scan (source ++ more) = scan source := by
  have later := first.append (first.starts_rest.append_overflow stops more.toList)
  rw [later.scan_eq, first.scan_eq]

/-- **A run of digits that is too large** and ends the source takes the digits behind it. -/
theorem scan_append_run {leading : String} {count : Nat}
    (first : FirstDefect source before rest (.overflow leading count))
    (whole : digitRun rest.toList = rest.toList) (more : String) :
    scan (source ++ more) = .error
      ⟨.overflow (String.ofList ((rest.toList ++ digitRun more.toList).take 20))
        (count + (digitRun more.toList).length), Position.start.advance before.toList⟩ :=
  (first.append (first.starts_rest.append_run whole more.toList)).scan_eq

/-- **A quote that is not closed** stays the error exactly if no quote follows. -/
theorem scan_append_eq_iff (first : FirstDefect source before rest .unterminated) {more : String} :
    scan (source ++ more) = scan source ↔ '"' ∉ more.toList := by
  rw [← first.starts_rest.append_unterminated_iff]
  constructor
  · intro same
    -- The error lies where it did, so what starts there is the old rest with the new text behind.
    obtain ⟨before', rest', later, place⟩ := exists_of_scan (same.trans first.scan_eq)
    have size := congrArg Position.offset place
    rw [Position.offset_advance_toList, Position.offset_advance_toList] at size
    have split : before' ++ rest' = before ++ (rest ++ more) := by
      rw [← later.split, first.split, String.append_assoc]
    obtain ⟨-, rfl⟩ := string_append_cancel split size.symm
    have starts := later.starts_rest
    rwa [String.toList_append] at starts
  · intro starts
    rw [(first.append starts).scan_eq, first.scan_eq]

/-- A source with a quote that is not closed, split at the quote. -/
theorem exists_content (first : FirstDefect source before rest .unterminated) :
    ∃ content, rest = "\"" ++ content := by
  obtain ⟨content, same, -⟩ := first.starts_rest
  refine ⟨String.ofList content, String.toList_inj.mp ?_⟩
  rw [same, String.toList_append]
  exact congrArg ('"' :: ·) String.toList_ofList.symm

/-- **A quote that is closed by more text**: the tokens in front of it, the string, and what is
scanned behind it, seen from where that starts. -/
theorem scan_append_closing {content inner : String} {tokens : List Token}
    (first : FirstDefect source before ("\"" ++ content) .unterminated)
    (scanned : scan before = .ok tokens) (unquoted : '"' ∉ inner.toList) (behind : String) :
    scan (source ++ (inner ++ ("\"" ++ behind))) =
      ((scan behind).map (tokens ++ .string (content ++ inner) :: ·)).mapError
        (LexError.shift (Position.start.advance (source ++ inner ++ "\"").toList)) := by
  have closed : source ++ inner ++ "\"" = before ++ ("\"" ++ (content ++ inner) ++ "\"") := by
    simp only [first.split, String.append_assoc]
  have apart : ¬ RunsInto before.toList ['"'] := by
    have apart := first.apart
    rw [String.toList_append] at apart
    exact mt (runsInto_append_right_iff (List.cons_ne_nil _ _) content.toList).mpr apart
  have whole : '"' ∉ (content ++ inner).toList := by
    obtain ⟨content', same, unquoted'⟩ := first.starts_rest
    rw [String.toList_append] at same
    obtain rfl : content.toList = content' := List.tail_eq_of_cons_eq same
    rw [String.toList_append, List.mem_append, not_or]
    exact ⟨unquoted', unquoted⟩
  rw [← String.append_assoc, ← String.append_assoc, closed]
  exact scan_append_closed scanned apart whole

end FirstDefect

/-- **What more text does to a failing source.**  A character of no use stays the error.  A run of
digits that is too large stays the error, and takes the digits behind it if it ends the source.  A
quote that is not closed stays the error exactly if no quote follows; with one, the source has the
tokens in front of the string, the string, and what is scanned behind it.  No other error can be
taken away. -/
theorem scan_append_of_error {source : String} {error : LexError}
    (failed : scan source = .error error) (more : String) :
    (∀ c, error.cause = .unrecognized c → scan (source ++ more) = .error error) ∧
    (∀ leading count, error.cause = .overflow leading count →
      ∃ before digits rest, source = before ++ (digits ++ rest) ∧
        before.utf8ByteSize = error.position.offset ∧
        digitRun (digits ++ rest).toList = digits.toList ∧
        (rest ≠ "" → scan (source ++ more) = .error error) ∧
        (rest = "" → scan (source ++ more) = .error
          ⟨.overflow (String.ofList ((digits.toList ++ digitRun more.toList).take 20))
            (count + (digitRun more.toList).length), error.position⟩)) ∧
    (error.cause = .unterminated →
      ∃ before content tokens, source = before ++ ("\"" ++ content) ∧
        before.utf8ByteSize = error.position.offset ∧ scan before = .ok tokens ∧
        (scan (source ++ more) = .error error ↔ '"' ∉ more.toList) ∧
        ∀ inner behind, more = inner ++ ("\"" ++ behind) → '"' ∉ inner.toList →
          (∀ later, scan behind = .ok later →
            scan (source ++ more) = .ok (tokens ++ .string (content ++ inner) :: later)) ∧
          ∀ error', scan behind = .error error' →
            scan (source ++ more) = .error
              (error'.shift (Position.start.advance (source ++ inner ++ "\"").toList))) ∧
    ∀ tokens, scan (source ++ more) = .ok tokens → error.cause = .unterminated := by
  obtain ⟨before, rest, first, place⟩ := FirstDefect.exists_of_scan failed
  obtain ⟨cause, position⟩ := error
  obtain rfl : position = _ := place
  rw [← failed]
  cases cause with
  | unrecognized c =>
    have same := first.scan_append_unrecognized more
    refine ⟨fun _ _ => same, nofun, nofun, fun tokens scanned => ?_⟩
    cases scanned.symm.trans (same.trans failed)
  | overflow leading count =>
    obtain ⟨digits, behind, rfl, run, stops⟩ := exists_digitRun_append rest
    -- Nothing behind the run: the digits of the new text join it.
    have joined (none : behind = "") : scan (source ++ more) = .error
        ⟨.overflow (String.ofList ((digits.toList ++ digitRun more.toList).take 20))
          (count + (digitRun more.toList).length), Position.start.advance before.toList⟩ := by
      subst none
      rw [String.append_empty] at first run
      exact first.scan_append_run run more
    refine ⟨nofun, ?_, nofun, fun tokens scanned => ?_⟩
    · rintro _ _ ⟨⟩
      exact ⟨before, digits, behind, first.split,
        (Position.offset_advance_toList before).symm, run,
        fun some => first.scan_append_overflow (stops some) more, joined⟩
    · by_cases none : behind = ""
      · cases scanned.symm.trans (joined none)
      · cases scanned.symm.trans ((first.scan_append_overflow (stops none) more).trans failed)
  | unterminated =>
    obtain ⟨content, rfl⟩ := first.exists_content
    obtain ⟨tokens, scanned⟩ := first.scans
    refine ⟨nofun, nofun, fun _ => ⟨before, content, tokens, first.split,
      (Position.offset_advance_toList before).symm, scanned, first.scan_append_eq_iff, ?_⟩,
      fun _ _ => rfl⟩
    rintro inner behind rfl unquoted
    rw [first.scan_append_closing scanned unquoted behind]
    refine ⟨fun later scanned => ?_, fun error' failed => ?_⟩
    · rw [scanned]
      rfl
    · rw [failed]
      rfl

/-- The quote is closed by more text: the string has what stood in front of the end and what comes
behind it. -/
theorem scan_append_of_error_closed :
    scan "x \"a" = .error ⟨.unterminated, ⟨1, 3, 2⟩⟩ ∧
      ∃ before content tokens, "x \"a" = before ++ ("\"" ++ content) ∧
        before.utf8ByteSize = 2 ∧ scan before = .ok tokens ∧
        scan ("x \"a" ++ "b\" 1") = .ok (tokens ++ [.string (content ++ "b"), .integer 1]) := by
  have failed : scan "x \"a" = .error ⟨.unterminated, ⟨1, 3, 2⟩⟩ := rfl
  obtain ⟨-, -, unterminated, -⟩ := scan_append_of_error failed "b\" 1"
  obtain ⟨before, content, tokens, split, place, scanned, -, closed⟩ := unterminated rfl
  have closed := (closed "b" " 1" rfl (by decide)).1 [.integer 1] rfl
  exact ⟨failed, before, content, tokens, split, place, scanned, closed⟩

end Lex

end SourceScan
