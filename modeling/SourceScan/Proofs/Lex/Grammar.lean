import SourceScan.Proofs.Lex.Result

/-!
# Proofs/Lex/Grammar — the sources that scan are the layouts

A source scans to a list of tokens exactly if it is a layout of them, and it is a layout in one way
only.  The pieces of a layout have no name of their own in a scan, but they are pinned by where its
tokens lie: what a text holds between two offsets is one text.

* `scan_eq_ok_iff`, `scan_eq_error_iff` — the tokens and the error of a scan, read off a layout.
* `Layout.text_injective` — a text is laid out in one way.
* `scan_grammar` — both together.
-/

namespace SourceScan.Lex

theorem scan_eq_ok_iff_result {source : String} {tokens : List Token} :
    scan source = .ok tokens ↔
      ∃ spanned, (scanSource source).result = .ok spanned ∧
        spanned.map SpannedToken.token = tokens := by
  rw [scan]
  cases (scanSource source).result with
  | error error =>
    constructor
    · intro none
      cases none
    · rintro ⟨_, none, -⟩
      cases none
  | ok spanned =>
    refine ⟨fun same => ⟨spanned, rfl, Except.ok.inj same⟩, ?_⟩
    rintro ⟨_, same, rfl⟩
    rw [← Except.ok.inj same]
    rfl

theorem scan_eq_error_iff_result {source : String} {error : LexError} :
    scan source = .error error ↔ (scanSource source).result = .error error := by
  rw [scan]
  cases (scanSource source).result with
  | error error => exact ⟨fun same => congrArg _ (Except.error.inj same),
      fun same => congrArg _ (Except.error.inj same)⟩
  | ok spanned =>
    constructor
    · intro none
      cases none
    · intro none
      cases none

/-- **A source scans as the tokens it is a layout of.** -/
theorem scan_eq_ok_iff {source : String} {tokens : List Token} :
    scan source = .ok tokens ↔
      ∃ layout : Layout, layout.text = source.toList ∧ layout.tokens = tokens := by
  rw [scan_eq_ok_iff_result]
  constructor
  · rintro ⟨spanned, scanned, rfl⟩
    obtain ⟨layout, text, rfl⟩ := result_eq_ok_iff.mp scanned
    exact ⟨layout, text, (layout.tokens_spanned _).symm⟩
  · rintro ⟨layout, text, rfl⟩
    exact ⟨_, result_eq_ok_iff.mpr ⟨layout, text, rfl⟩, layout.tokens_spanned _⟩

/-- **A source fails to scan at the defect** behind a layout. -/
theorem scan_eq_error_iff {source : String} {error : LexError} :
    scan source = .error error ↔
      ∃ (layout : Layout) (rest : List Char), source.toList = layout.text ++ rest ∧
        ¬ RunsInto layout.text rest ∧ error.cause.Starts rest ∧
        error.position = Position.start.advance layout.text :=
  scan_eq_error_iff_result.trans result_eq_error_iff

/-! ## One layout for a text -/

/-- Pieces that lie alike in one text are the same pieces. -/
theorem eq_of_spanned_eq {origin : Position} {pieces pieces' : List Piece}
    {trailing trailing' : List Char}
    (same : Piece.joined pieces ++ trailing = Piece.joined pieces' ++ trailing')
    (alike : Piece.spanned origin pieces = Piece.spanned origin pieces') :
    pieces = pieces' ∧ trailing = trailing' := by
  induction pieces generalizing origin pieces' with
  | nil =>
    cases pieces' with
    | nil => exact ⟨rfl, same⟩
    | cons piece' pieces' => cases alike
  | cons piece pieces ih =>
    cases pieces' with
    | nil => cases alike
    | cons piece' pieces' =>
      obtain ⟨head, tail⟩ := List.cons.inj alike
      have token : piece.token = piece'.token := congrArg SpannedToken.token head
      -- The offsets of the ends say how long the gap and the lexeme are.
      have start := congrArg (·.span.start.offset) head
      have stop := congrArg (·.span.stop.offset) head
      simp only [Position.offset_advance, Piece.text, byteLength_append] at start stop
      simp only [Piece.joined_cons, List.append_assoc] at same
      obtain ⟨gap, same⟩ := append_cancel same (by omega)
      obtain ⟨lexeme, same⟩ := append_cancel same (by rw [gap] at stop; omega)
      have text : piece.text = piece'.text := by rw [Piece.text, Piece.text, gap, lexeme]
      rw [text] at tail
      obtain ⟨pieces, trailing⟩ := ih same tail
      exact ⟨List.cons_eq_cons.mpr ⟨Piece.ext gap token lexeme, pieces⟩, trailing⟩

/-- **A text is laid out in one way.** -/
theorem Layout.text_injective : Function.Injective Layout.text := by
  intro layout layout' same
  have alike : layout.spanned Position.start = layout'.spanned Position.start := by
    refine Except.ok.inj ((result_scanFrom_text _ layout).symm.trans ?_)
    rw [same, result_scanFrom_text]
  obtain ⟨pieces, trailing⟩ := eq_of_spanned_eq same alike
  exact Layout.ext pieces trailing

/-- **The grammar of sources.**  A source scans to a list of tokens exactly if it is a layout of
them, and it is in at most one way. -/
theorem scan_grammar (source : String) :
    (∀ tokens, scan source = .ok tokens ↔
      ∃ layout : Layout, layout.text = source.toList ∧ layout.tokens = tokens) ∧
    ∀ layout layout' : Layout,
      layout.text = source.toList → layout'.text = source.toList → layout = layout' :=
  ⟨fun _ => scan_eq_ok_iff, fun _ _ text text' => Layout.text_injective (text.trans text'.symm)⟩

/-- The number in `x 007` keeps its zeros in the layout and loses them in the token. -/
theorem scan_grammar_leading_zeros :
    ∃ layout : Layout, layout.text = "x 007".toList ∧
      layout.tokens = [.identifier "x", .integer 7] ∧
      layout.pieces.map Piece.lexeme = [['x'], ['0', '0', '7']] := by
  obtain ⟨scans, unique⟩ := scan_grammar "x 007"
  have space : AllBlank [' '] := List.all_eq_true.mp rfl
  have nothing : AllBlank [] := fun c member => by cases member
  let written : Layout :=
    { pieces := [⟨[], .identifier "x", ['x'], nothing,
          .identifier (by decide) (List.all_eq_true.mp rfl)⟩,
        ⟨[' '], .integer 7, ['0', '0', '7'], space,
          .integer (by decide) (List.all_eq_true.mp rfl) rfl (by decide)⟩]
      trailing := []
      blank := nothing
      apart := .cons_cons nofun (.singleton _) }
  obtain ⟨layout, text, tokens⟩ := (scans [.identifier "x", .integer 7]).mp rfl
  obtain rfl := unique layout written text rfl
  exact ⟨written, text, tokens, rfl⟩

end SourceScan.Lex
