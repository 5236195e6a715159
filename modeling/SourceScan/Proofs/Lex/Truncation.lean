import SourceScan.Proofs.Lex.Extension
import SourceScan.Proofs.Text.Order

/-!
# Proofs/Lex/Truncation — what is scanned in front of a cut

A source that scans may be cut in two anywhere.  The front is a layout, or a layout and its first
defect, and the rest of the source is put behind it.  So the cut falls between tokens, or into a
word, whose front is a word of the same kind, or into a string, which is not closed then.

* `Torn` — a lexeme of a token stands on both sides of a cut.
* `torn_or_starts_of_lexeme`, `torn_or_starts_of_defect` — what goes on behind a cut is a lexeme,
  or a defect of the whole.
* `CutAt` — spanned tokens in front of a cut, the one it falls into, and those behind it.
* `exists_inFront` — what is scanned in front of a cut.
* `scanSource_front` — the law of truncation.
-/

namespace SourceScan

open Codepoint LexError

/-- **A spanned token straddles a cut** behind its start and in front of its end. -/
def SpannedToken.Straddles (spanned : SpannedToken) (cut : Position) : Prop :=
  spanned.span.start.offset < cut.offset ∧ cut.offset < spanned.span.stop.offset

instance (spanned : SpannedToken) (cut : Position) : Decidable (spanned.Straddles cut) :=
  inferInstanceAs (Decidable (_ ∧ _))

namespace Lex

/-- **A token is torn** between a piece of its lexeme and the rest, and absorbs nothing of what
follows. -/
structure Torn (token : Token) (piece rest after : List Char) : Prop where
  piece_ne_nil : piece ≠ []
  rest_ne_nil : rest ≠ []
  lexical : token.Lexeme (piece ++ rest)
  clear : Clear token after

/-- A text goes on with characters of a class, if its first one is of the class. -/
theorem exists_takeWhile {p : Char → Bool} {text : List Char} {c : Char} (first : c ∈ text.head?)
    (holds : p c = true) :
    ∃ rest after, text = rest ++ after ∧ rest ≠ [] ∧ (∀ d ∈ rest, p d = true) ∧
      ∀ d ∈ after.head?, p d ≠ true := by
  obtain ⟨text, rfl⟩ := List.head?_eq_some_iff.mp first
  obtain ⟨after, split, all, stop⟩ := eq_takeWhile_append p (c :: text)
  exact ⟨_, after, split, takeWhile_cons_ne_nil text holds, all, stop⟩

/-- **A lexeme that does not end at a cut** is the front of a longer one of its kind, or of a run of
digits that is too large. -/
theorem torn_or_starts_of_lexeme {token : Token} {piece behind : List Char}
    (lexical : token.Lexeme piece) (absorbs : ¬ Clear token behind) :
    (∃ whole rest after, behind = rest ++ after ∧ Torn whole piece rest after ∧
      whole.Fuses token) ∨ ∃ cause : Cause, cause.Starts (piece ++ behind) := by
  obtain ⟨c, first, absorbed⟩ : ∃ c ∈ behind.head?, token.Absorbs c := by
    simpa only [Clear, not_forall, not_not, exists_prop] using absorbs
  cases lexical with
  | identifier nonempty letters =>
    obtain ⟨rest, after, rfl, goesOn, more, stop⟩ := exists_takeWhile first absorbed
    have lexical := Token.Lexeme.identifier (List.append_ne_nil_of_left_ne_nil nonempty rest)
      (List.forall_mem_append.mpr ⟨letters, more⟩)
    exact Or.inl ⟨_, rest, after, rfl, ⟨nonempty, goesOn, lexical, stop⟩, trivial⟩
  | integer nonempty all valued fits =>
    obtain ⟨rest, after, rfl, goesOn, more, stop⟩ := exists_takeWhile first absorbed
    have whole : AllDigits (piece ++ rest) := List.forall_mem_append.mpr ⟨all, more⟩
    by_cases fits : decimal (piece ++ rest) ≤ 2 ^ 63 - 1
    · have valued : (Int64.ofNat (decimal (piece ++ rest))).toInt = decimal (piece ++ rest) :=
        Int64.toInt_ofNat_of_lt (by omega)
      have lexical := Token.Lexeme.integer (List.append_ne_nil_of_left_ne_nil nonempty rest) whole
        valued fits
      exact Or.inl ⟨_, rest, after, rfl, ⟨nonempty, goesOn, lexical, stop⟩, trivial⟩
    · refine Or.inr ⟨.overflow _ _, ?_, rfl, rfl⟩
      rw [← List.append_assoc, digitRun_append whole stop]
      exact Nat.lt_of_not_le fits
  | string _ | semicolon | operator _ => exact absorbed.elim

/-- **A defect at a cut** that is none of the whole is the front of a string. -/
theorem torn_or_starts_of_defect {cause : Cause} {piece : List Char}
    (starts : cause.Starts piece) (behind : List Char) :
    (∃ content rest after, behind = rest ++ after ∧ Torn (.string content) piece rest after ∧
      cause = .unterminated) ∨ ∃ cause' : Cause, cause'.Starts (piece ++ behind) := by
  cases cause with
  | unrecognized c => exact Or.inr ⟨_, starts.append_unrecognized behind⟩
  | overflow leading count =>
    by_cases whole : digitRun piece = piece
    · exact Or.inr ⟨_, starts.append_run whole behind⟩
    · exact Or.inr ⟨_, starts.append_overflow whole behind⟩
  | unterminated =>
    by_cases closed : '"' ∈ behind
    · obtain ⟨inner, after, rfl, unquoted'⟩ := List.eq_append_cons_of_mem closed
      obtain ⟨content, rfl, unquoted⟩ := starts
      have whole : '"' ∉ content ++ inner := fun quote =>
        (List.mem_append.mp quote).elim unquoted unquoted'
      have lexical := Token.Lexeme.string whole
      rw [List.cons_append, List.append_assoc, ← List.cons_append] at lexical
      refine Or.inl ⟨_, inner ++ ['"'], after, ?_,
        ⟨List.cons_ne_nil _ _, ?_, lexical, fun _ _ => id⟩, rfl⟩
      · rw [List.append_assoc, List.singleton_append]
      · exact List.append_ne_nil_of_right_ne_nil inner (List.cons_ne_nil _ _)
    · exact Or.inr ⟨.unterminated, starts.append_unterminated_iff.mpr closed⟩

/-- No token lies in an empty layout. -/
theorem Layout.spanned_of_text_eq_nil {layout : Layout} (empty : layout.text = [])
    (origin : Position) : layout.spanned origin = [] := by
  induction layout with
  | ofGap gap blank => rfl
  | cons piece layout clear ih =>
    rw [text_cons, Piece.text, List.append_assoc] at empty
    exact absurd (List.append_eq_nil_iff.mp (List.append_eq_nil_iff.mp empty).2).1
      piece.lexical.ne_nil

/-- **A layout that runs into what follows** ends with a lexeme, of a token that absorbs it. -/
theorem Layout.exists_last {layout : Layout} {behind : List Char}
    (joins : RunsInto layout.text behind) (origin : Position) :
    ∃ (left : Layout) (token : Token) (lexeme : List Char), layout.text = left.text ++ lexeme ∧
      ¬ RunsInto left.text lexeme ∧ token.Lexeme lexeme ∧ ¬ Clear token behind ∧
      layout.spanned origin = left.spanned origin ++
        [⟨token, origin.advance left.text, origin.advance layout.text⟩] := by
  induction layout generalizing origin with
  | ofGap gap blank => exact absurd joins (blank.not_runsInto behind)
  | cons piece layout clear ih =>
    by_cases later : RunsInto layout.text behind
    · obtain ⟨left, token, lexeme, text, apart, lexical, absorbs, spanned⟩ :=
        ih later (origin.advance piece.text)
      have clear' : Clear piece.token left.text := by
        rw [text] at clear
        exact clear.of_append
      refine ⟨.cons piece left clear', token, lexeme, ?_, ?_, lexical, absorbs, ?_⟩
      · rw [text_cons, text_cons, text, List.append_assoc]
      · rw [not_runsInto_cons_iff clear', ← text]
        exact ⟨clear, apart⟩
      · rw [spanned_cons, spanned_cons, spanned, text_cons, text_cons, Position.advance_append,
          Position.advance_append]
        rfl
    · have absorbs : ¬ Clear piece.token (layout.text ++ behind) := fun clear' =>
        (not_runsInto_cons_iff clear).mpr ⟨clear', later⟩ joins
      -- The piece absorbs nothing of the layout behind it, so there is nothing.
      have empty : layout.text = [] := by
        by_contra nonempty
        rw [Clear, List.head?_append_of_ne_nil _ nonempty] at absorbs
        exact absorbs clear
      rw [empty, List.nil_append] at absorbs
      refine ⟨.ofGap piece.gap piece.blank, piece.token, piece.lexeme, ?_,
        piece.blank.not_runsInto _, piece.lexical, absorbs, ?_⟩
      · rw [text_cons, empty, List.append_nil]
        rfl
      · rw [spanned_cons, text_cons, empty, List.append_nil, spanned_of_text_eq_nil empty]
        rfl

/-! ## A cut among spanned tokens -/

/-- **A cut of spanned tokens**: some end in front of it, it falls into at most one, and the others
start behind it. -/
structure CutAt (cut : Position) (spanned kept : List SpannedToken) (torn : Option SpannedToken) :
    Prop where
  split : ∃ later, spanned = kept ++ (torn.toList ++ later) ∧
    ∀ s ∈ later, cut.offset ≤ s.span.start.offset
  kept : ∀ s ∈ kept, s.span.stop.offset ≤ cut.offset
  torn : ∀ s ∈ torn, s.Straddles cut

namespace CutAt

variable {cut : Position} {spanned kept : List SpannedToken} {torn : Option SpannedToken}

/-- **The tokens in front of a cut** are those that end there. -/
theorem filter_eq (parts : CutAt cut spanned kept torn)
    (proper : ∀ s ∈ spanned, s.span.start.offset < s.span.stop.offset) :
    spanned.filter (fun s => s.span.stop.offset ≤ cut.offset) = kept := by
  obtain ⟨⟨later, rfl, behind⟩, front, inside⟩ := parts
  have none : (torn.toList ++ later).filter (fun s => s.span.stop.offset ≤ cut.offset) = [] := by
    refine List.filter_eq_nil_iff.mpr fun s member => ?_
    have forward := proper s (List.mem_append_right _ member)
    rw [decide_eq_true_eq]
    obtain member | member := List.mem_append.mp member
    · have := (inside s (Option.mem_toList.mp member)).2
      omega
    · have := behind s member
      omega
  rw [List.filter_append, none, List.append_nil, List.filter_eq_self]
  exact fun s member => decide_eq_true (front s member)

/-- **The token a cut falls into** is the only one that straddles it. -/
theorem mem_torn_iff (parts : CutAt cut spanned kept torn) {s : SpannedToken} :
    s ∈ torn ↔ s ∈ spanned ∧ s.Straddles cut := by
  obtain ⟨⟨later, rfl, behind⟩, front, inside⟩ := parts
  constructor
  · intro member
    refine ⟨List.mem_append_right _ (List.mem_append_left _ ?_), inside s member⟩
    exact Option.mem_toList.mpr member
  · rintro ⟨member, before, after⟩
    obtain member | member := List.mem_append.mp member
    · exact absurd after (Nat.not_lt_of_le (front s member))
    · obtain member | member := List.mem_append.mp member
      · exact Option.mem_toList.mp member
      · exact absurd before (Nat.not_lt_of_le (behind s member))

end CutAt

section

variable {origin : Position} {spanned : List SpannedToken}

/-- **What is scanned behind a layout** that does not run into it is behind its tokens. -/
theorem exists_later {layout : Layout} {behind : List Char} (apart : ¬ RunsInto layout.text behind)
    (scanned : (scanFrom origin (layout.text ++ behind)).result = .ok spanned) :
    ∃ later, (scanFrom (origin.advance layout.text) behind).result = .ok later ∧
      spanned = layout.spanned origin ++ later ∧
      ∀ s ∈ later, (origin.advance layout.text).offset ≤ s.span.start.offset := by
  rw [result_scanFrom_append (result_scanFrom_text origin layout) apart] at scanned
  cases found : (scanFrom (origin.advance layout.text) behind).result with
  | error error =>
    rw [found] at scanned
    cases scanned
  | ok later =>
    rw [found] at scanned
    obtain ⟨next, -, rfl⟩ := result_eq_ok_iff.mp found
    exact ⟨_, rfl, (Except.ok.inj scanned).symm, fun s => Layout.offset_le_of_mem⟩

/-- **A cut between tokens**: the tokens of the front are tokens of the whole. -/
theorem cutAt_of_apart {layout : Layout} {behind : List Char}
    (apart : ¬ RunsInto layout.text behind)
    (scanned : (scanFrom origin (layout.text ++ behind)).result = .ok spanned) :
    CutAt (origin.advance layout.text) spanned (layout.spanned origin) none := by
  obtain ⟨later, -, rfl, place⟩ := exists_later apart scanned
  exact ⟨⟨later, rfl, place⟩, fun s => Layout.le_offset_of_mem, nofun⟩

/-- **A cut into a lexeme**: behind the tokens in front of it is the token it tears. -/
theorem cutAt_of_torn {layout : Layout} {token : Token} {piece rest after : List Char}
    (torn : Torn token piece rest after) (apart : ¬ RunsInto layout.text piece)
    (scanned : (scanFrom origin (layout.text ++ (piece ++ (rest ++ after)))).result = .ok spanned) :
    CutAt (origin.advance (layout.text ++ piece)) spanned (layout.spanned origin)
      (some ⟨token, origin.advance layout.text,
        origin.advance (layout.text ++ (piece ++ rest))⟩) := by
  obtain ⟨piece_ne_nil, rest_ne_nil, lexical, clear⟩ := torn
  let alone : Layout := .ofPiece ⟨[], token, piece ++ rest, .nil, lexical⟩
  have text : alone.text = piece ++ rest := Layout.text_ofPiece _
  obtain ⟨found, scanned', rfl, -⟩ := exists_later
    ((runsInto_append_right_iff piece_ne_nil _).not.mpr apart) scanned
  rw [← List.append_assoc, ← text] at scanned'
  obtain ⟨later, -, rfl, behind⟩ := exists_later
    (by rwa [text, not_runsInto_iff_clear lexical]) scanned'
  rw [text, ← Position.advance_append] at behind
  refine ⟨⟨later, ?_, fun s member => ?_⟩, fun s member => ?_, ?_⟩
  · rw [Position.advance_append]
    rfl
  · have := behind s member
    have := (origin.precedes_advance_append (layout.text ++ piece) rest_ne_nil).offset
    rw [List.append_assoc] at this
    omega
  · have := Layout.le_offset_of_mem member
    have := (origin.precedes_advance_append layout.text piece_ne_nil).offset
    omega
  · rintro s ⟨⟩
    refine ⟨(origin.precedes_advance_append _ piece_ne_nil).offset, ?_⟩
    rw [← List.append_assoc]
    exact (origin.precedes_advance_append _ rest_ne_nil).offset

/-! ## What is scanned in front of a cut -/

/-- **What is scanned in front of a cut**, by the token the cut falls into: the tokens in front of
it; or these and a word, the front of the torn one; or an error at the torn string. -/
inductive InFront (origin : Position) (front back : List Char) (kept : List SpannedToken) :
    Option SpannedToken → Except LexError (List SpannedToken) → Prop
  | whole : InFront origin front back kept none (.ok kept)
  | word {before piece rest after : List Char} {token word : Token}
      (split : front = before ++ piece) (split' : back = rest ++ after)
      (lexical : token.Lexeme (piece ++ rest)) (lexical' : word.Lexeme piece)
      (fuses : token.Fuses word) :
      InFront origin front back kept
        (some ⟨token, origin.advance before, origin.advance (before ++ (piece ++ rest))⟩)
        (.ok (kept ++ [⟨word, origin.advance before, origin.advance front⟩]))
  | string {content : String} {start stop : Position} :
      InFront origin front back kept (some ⟨.string content, start, stop⟩)
        (.error ⟨.unterminated, start⟩)

/-- No defect stands behind a layout in a text that scans. -/
theorem not_starts_of_result {layout : Layout} {rest : List Char} {cause : Cause}
    (scanned : (scanFrom origin (layout.text ++ rest)).result = .ok spanned)
    (apart : ¬ RunsInto layout.text rest) : ¬ cause.Starts rest := by
  intro starts
  rw [result_scanFrom_starts origin apart starts] at scanned
  cases scanned

/-- **What is scanned in front of a cut** of a source that scans. -/
theorem exists_inFront {front back : List Char}
    (scanned : (scanFrom origin (front ++ back)).result = .ok spanned) :
    ∃ kept torn, CutAt (origin.advance front) spanned kept torn ∧
      InFront origin front back kept torn (scanFrom origin front).result := by
  -- A layout that does not run into a piece does not run into the piece with the back behind it.
  have further {layout : Layout} {piece : List Char} (nonempty : piece ≠ []) :
      ¬ RunsInto layout.text piece → ¬ RunsInto layout.text (piece ++ back) :=
    mt (runsInto_append_right_iff nonempty back).mp
  obtain ⟨layout, piece, rfl, apart, rfl | ⟨cause, starts⟩⟩ := exists_layout front
  · rw [List.append_nil] at scanned ⊢
    rw [result_scanFrom_text]
    by_cases joins : RunsInto layout.text back
    · obtain ⟨left, token, lexeme, text, apart, lexical, absorbs, place⟩ :=
        Layout.exists_last joins origin
      rw [place]
      rw [text] at scanned ⊢
      rw [List.append_assoc] at scanned
      obtain ⟨whole, rest, after, rfl, torn, fuses⟩ | ⟨cause, starts⟩ :=
        torn_or_starts_of_lexeme lexical absorbs
      · exact ⟨_, _, cutAt_of_torn torn apart scanned,
          .word rfl rfl torn.lexical lexical fuses⟩
      · exact absurd starts (not_starts_of_result scanned (further lexical.ne_nil apart))
    · exact ⟨_, none, cutAt_of_apart joins scanned, .whole⟩
  · rw [result_scanFrom_starts origin apart starts]
    rw [List.append_assoc] at scanned
    obtain ⟨content, rest, after, rfl, torn, rfl⟩ | ⟨cause', starts'⟩ :=
      torn_or_starts_of_defect starts back
    · exact ⟨_, _, cutAt_of_torn torn apart scanned, .string⟩
    · exact absurd starts' (not_starts_of_result scanned (further starts.ne_nil apart))

end

namespace InFront

variable {origin : Position} {front back : List Char} {kept : List SpannedToken}
  {torn : Option SpannedToken} {result : Except LexError (List SpannedToken)}

/-- The front fails at a torn string. -/
theorem eq_error_iff (infront : InFront origin front back kept torn result) {error : LexError} :
    result = .error error ↔
      ∃ s ∈ torn, (∃ content, s.token = .string content) ∧
        error = ⟨.unterminated, s.span.start⟩ := by
  cases infront with
  | whole => exact iff_of_false nofun nofun
  | word _ _ _ _ fuses =>
    refine iff_of_false nofun ?_
    rintro ⟨s, ⟨⟩, ⟨content, rfl⟩, -⟩
    exact fuses
  | string =>
    constructor
    · rintro ⟨⟩
      exact ⟨_, rfl, ⟨_, rfl⟩, rfl⟩
    · rintro ⟨s, ⟨⟩, -, rfl⟩
      rfl

/-- The front has its tokens if no token is torn. -/
theorem eq_ok (infront : InFront origin front back kept torn result) (whole : ∀ s, s ∉ torn) :
    result = .ok kept := by
  cases infront with
  | whole => rfl
  | word | string => exact absurd rfl (whole _)

/-- The front ends with a word if a token that is no string is torn. -/
theorem exists_word (infront : InFront Position.start front back kept torn result)
    {s : SpannedToken} (member : s ∈ torn) (other : ∀ content, s.token ≠ .string content) :
    ∃ piece rest word,
      slice (front ++ back) s.span.start.offset (Position.start.advance front).offset =
        some piece ∧
      slice (front ++ back) (Position.start.advance front).offset s.span.stop.offset =
        some rest ∧
      s.token.Lexeme (piece ++ rest) ∧ word.Lexeme piece ∧ s.token.Fuses word ∧
      result = .ok (kept ++ [⟨word, s.span.start, Position.start.advance front⟩]) := by
  cases infront with
  | whole => cases member
  | @word before piece rest after token word split split' lexical lexical' fuses =>
    cases member
    have offset (text : List Char) : (Position.start.advance text).offset = byteLength text := by
      rw [Position.advance_start]
    refine ⟨piece, rest, word, ?_, ?_, lexical, lexical', fuses, rfl⟩
    · refine slice_append before piece back ?_ (offset before).symm ?_
      · rw [split, List.append_assoc]
      · simp only [split, offset, byteLength_append]
    · refine slice_append front rest after (by rw [split']) (offset front).symm ?_
      simp only [split, offset, byteLength_append, Nat.add_assoc]
  | string =>
    cases member
    exact absurd rfl (other _)

end InFront

/-- **The law of truncation.**  Where a source that scans is cut, the front fails exactly if the cut
falls into a string, and the string is not closed then.  If the cut falls into no token, the front
has the tokens that end by it.  If it falls into any other token, one more token comes behind
these: of the same kind, from the start of the torn one to the cut, and its lexeme is what stands
there, which is the front of the name or of the digits. -/
theorem scanSource_front {source front back : String} {spanned : List SpannedToken}
    (split : source = front ++ back) (scanned : (scanSource source).result = .ok spanned) :
    let cut := Position.start.advance front.toList
    let kept := spanned.filter fun s => s.span.stop.offset ≤ cut.offset
    (∀ error, (scanSource front).result = .error error ↔
      ∃ s ∈ spanned, s.Straddles cut ∧ (∃ content, s.token = .string content) ∧
        error = ⟨.unterminated, s.span.start⟩) ∧
    ((∀ s ∈ spanned, ¬ s.Straddles cut) → (scanSource front).result = .ok kept) ∧
    ∀ s ∈ spanned, s.Straddles cut → (∀ content, s.token ≠ .string content) →
      ∃ piece rest word,
        slice source.toList s.span.start.offset cut.offset = some piece ∧
        slice source.toList cut.offset s.span.stop.offset = some rest ∧
        s.token.Lexeme (piece ++ rest) ∧ word.Lexeme piece ∧ s.token.Fuses word ∧
        (scanSource front).result = .ok (kept ++ [⟨word, s.span.start, cut⟩]) := by
  intro cut kept
  have whole : source.toList = front.toList ++ back.toList := by
    rw [split, String.toList_append]
  have proper : ∀ s ∈ spanned, s.span.start.offset < s.span.stop.offset :=
    fun s member => (inPlace_of_result scanned member).start_lt_stop
  rw [scanSource, whole] at scanned
  obtain ⟨found, torn, parts, infront⟩ := exists_inFront scanned
  obtain rfl : kept = found := parts.filter_eq proper
  have inside (s : SpannedToken) : s ∈ torn ↔ s ∈ spanned ∧ s.Straddles cut := parts.mem_torn_iff
  rw [whole, scanSource]
  refine ⟨fun error => ?_, fun outside => ?_, fun s member straddles other => ?_⟩
  · simp only [infront.eq_error_iff, inside, and_assoc]
  · exact infront.eq_ok fun s member => outside s ((inside s).mp member).1 ((inside s).mp member).2
  · exact infront.exists_word ((inside s).mpr ⟨member, straddles⟩) other

/-- A cut into a string, behind a letter of two bytes, and a cut into an integer with a zero in
front. -/
theorem scanSource_front_inside :
    (scanSource "ab \"é;\" 012").result =
      .ok [⟨.identifier "ab", ⟨1, 1, 0⟩, ⟨1, 3, 2⟩⟩, ⟨.string "é;", ⟨1, 4, 3⟩, ⟨1, 8, 8⟩⟩,
        ⟨.integer 12, ⟨1, 9, 9⟩, ⟨1, 12, 12⟩⟩] ∧
    (scanSource "ab \"é").result = .error ⟨.unterminated, ⟨1, 4, 3⟩⟩ ∧
    ∃ word : Token, word.Lexeme ['0', '1'] ∧ (Token.integer 12).Fuses word ∧
      (scanSource "ab \"é;\" 01").result =
        .ok [⟨.identifier "ab", ⟨1, 1, 0⟩, ⟨1, 3, 2⟩⟩, ⟨.string "é;", ⟨1, 4, 3⟩, ⟨1, 8, 8⟩⟩,
          ⟨word, ⟨1, 9, 9⟩, ⟨1, 11, 11⟩⟩] := by
  let quoted : SpannedToken := ⟨.string "é;", ⟨1, 4, 3⟩, ⟨1, 8, 8⟩⟩
  let number : SpannedToken := ⟨.integer 12, ⟨1, 9, 9⟩, ⟨1, 12, 12⟩⟩
  have scanned : (scanSource "ab \"é;\" 012").result =
      .ok [⟨.identifier "ab", ⟨1, 1, 0⟩, ⟨1, 3, 2⟩⟩, quoted, number] := rfl
  have early : "ab \"é;\" 012" = "ab \"é" ++ ";\" 012" := rfl
  have late : "ab \"é;\" 012" = "ab \"é;\" 01" ++ "2" := rfl
  obtain ⟨errors, -, -⟩ := scanSource_front early scanned
  obtain ⟨-, -, words⟩ := scanSource_front late scanned
  have failed := (errors ⟨.unterminated, ⟨1, 4, 3⟩⟩).mpr
    ⟨quoted, List.mem_of_getElem? (i := 1) rfl, (by decide), ⟨"é;", rfl⟩, rfl⟩
  obtain ⟨piece, rest, word, sliced, -, -, lexical, fuses, front⟩ :=
    words number (List.mem_of_getElem? (i := 2) rfl) (by decide) nofun
  obtain rfl : ['0', '1'] = piece := Option.some.inj sliced
  exact ⟨scanned, failed, word, lexical, fuses, front⟩

end Lex

end SourceScan
