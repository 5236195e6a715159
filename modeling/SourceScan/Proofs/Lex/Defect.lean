import SourceScan.Lex.Error
import SourceScan.Proofs.Lex.Layout

/-!
# Proofs/Lex/Defect — where a text stops being tokens

A text that starts with no blank starts with a lexeme or with a **defect**: a character of no use,
a quote that is never closed, or a run of digits that says too large a number.  Hence every text is
a layout, or a layout up to its first defect.

* `Cause.Starts` — a text starts with a defect of a cause; of one cause only (`Starts.unique`).
* `startsWithLexeme_or` — a text that starts with no blank starts with a lexeme or a defect.
* `exists_layout` — every text is a layout up to its end or its first defect.
-/

namespace SourceScan

open Codepoint

namespace LexError

/-- **A text starts with a defect** of a cause. -/
def Cause.Starts : Cause → List Char → Prop
  | .unrecognized c, rest =>
    rest.head? = some c ∧ isBlank c = false ∧ isIdentifierChar c = false ∧ c.isDigit = false ∧
      c ∉ signs
  | .unterminated, rest => ∃ content, rest = '"' :: content ∧ '"' ∉ content
  | .overflow leading count, rest =>
    2 ^ 63 - 1 < decimal (digitRun rest) ∧ count = (digitRun rest).length ∧
      leading = String.ofList ((digitRun rest).take (min 20 count))

/-- **The cause of a run of digits** keeps its first digits and its length. -/
theorem Cause.ofDigits_ofList {digits : List Char} (all : AllDigits digits) :
    Cause.ofDigits (String.ofList digits) =
      .overflow (String.ofList (digits.take (min 20 digits.length))) digits.length := by
  rw [Cause.ofDigits, ← byteLength_toList, String.toList_ofList, byteLength_of_allDigits all,
    ← List.take_eq_take_min]
  rfl

namespace Cause.Starts

variable {cause other : Cause} {rest : List Char}

/-- A run that says too large a number holds a digit. -/
theorem digitRun_ne_nil (large : 2 ^ 63 - 1 < decimal (digitRun rest)) : digitRun rest ≠ [] := by
  intro none
  rw [none] at large
  exact absurd large (by decide)

/-- Only a digit starts a run of digits. -/
theorem isDigit_head {c : Char} (large : 2 ^ 63 - 1 < decimal (digitRun rest))
    (first : rest.head? = some c) : c.isDigit = true := by
  obtain ⟨rest, rfl⟩ := List.head?_eq_some_iff.mp first
  by_contra other
  exact digitRun_ne_nil large (List.takeWhile_cons_of_neg other)

/-- **A text starts with a defect of one cause** only. -/
theorem unique (starts : cause.Starts rest) (starts' : other.Starts rest) : cause = other := by
  cases cause with
  | unrecognized c =>
    obtain ⟨first, -, -, digit, sign⟩ := starts
    cases other with
    | unrecognized d => rw [Option.some.inj (first.symm.trans starts'.1)]
    | unterminated =>
      obtain ⟨content, rfl, -⟩ := starts'
      obtain rfl := Option.some.inj first
      exact absurd (by decide) sign
    | overflow leading count => rw [isDigit_head starts'.1 first] at digit; cases digit
  | unterminated =>
    obtain ⟨content, rfl, -⟩ := starts
    cases other with
    | unrecognized d =>
      obtain ⟨first, -, -, -, sign⟩ := starts'
      obtain rfl := Option.some.inj first
      exact absurd (by decide) sign
    | unterminated => rfl
    | overflow leading count => exact absurd (isDigit_head starts'.1 rfl) (by decide)
  | overflow leading count =>
    obtain ⟨large, rfl, rfl⟩ := starts
    cases other with
    | unrecognized d =>
      obtain ⟨first, -, -, digit, -⟩ := starts'
      rw [isDigit_head large first] at digit; cases digit
    | unterminated =>
      obtain ⟨content, rfl, -⟩ := starts'
      exact absurd (isDigit_head large rfl) (by decide)
    | overflow leading' count' =>
      obtain ⟨-, rfl, rfl⟩ := starts'
      rfl

end Cause.Starts

end LexError

namespace Lex

open LexError

/-- A text is all it can of a class, and then goes on with something else. -/
theorem eq_takeWhile_append (p : Char → Bool) (text : List Char) :
    ∃ rest, text = text.takeWhile p ++ rest ∧ (∀ c ∈ text.takeWhile p, p c = true) ∧
      ∀ c ∈ rest.head?, p c ≠ true := by
  refine ⟨text.dropWhile p, List.takeWhile_append_dropWhile.symm,
    List.all_eq_true.mp List.all_takeWhile, fun c first => ?_⟩
  have stop := List.head?_dropWhile_not p text
  rw [Option.mem_def.mp first] at stop
  exact Bool.eq_false_iff.mp stop

/-- A text that starts with a character of a class has one in front. -/
theorem takeWhile_cons_ne_nil {p : Char → Bool} {c : Char} (text : List Char) (first : p c = true) :
    (c :: text).takeWhile p ≠ [] := by
  rw [List.takeWhile_cons_of_pos first]
  exact List.cons_ne_nil _ _

/-- **A text starts with a lexeme** that is as long as can be. -/
def StartsWithLexeme (text : List Char) : Prop :=
  ∃ token lexeme rest, text = lexeme ++ rest ∧ Token.Lexeme token lexeme ∧ Clear token rest

theorem startsWithLexeme_of_isIdentifierChar {c : Char} (text : List Char)
    (letter : isIdentifierChar c = true) : StartsWithLexeme (c :: text) := by
  obtain ⟨rest, split, letters, stop⟩ := eq_takeWhile_append isIdentifierChar (c :: text)
  exact ⟨_, _, rest, split, .identifier (takeWhile_cons_ne_nil text letter) letters, stop⟩

/-- A run of digits is an integer if the number fits, and a defect if it does not. -/
theorem startsWithLexeme_or_of_isDigit {c : Char} (text : List Char) (digit : c.isDigit = true) :
    StartsWithLexeme (c :: text) ∨ ∃ cause : Cause, cause.Starts (c :: text) := by
  obtain ⟨rest, split, all, stop⟩ := eq_takeWhile_append Char.isDigit (c :: text)
  by_cases fits : decimal (digitRun (c :: text)) ≤ 2 ^ 63 - 1
  · have nonempty := takeWhile_cons_ne_nil text digit
    have valued : (Int64.ofNat (decimal (digitRun (c :: text)))).toInt
        = decimal (digitRun (c :: text)) := Int64.toInt_ofNat_of_lt (by omega)
    exact Or.inl ⟨_, _, rest, split, .integer nonempty all valued fits, stop⟩
  · exact Or.inr ⟨.overflow _ _, Nat.lt_of_not_le fits, rfl, rfl⟩

/-- A quote starts a string if there is another one, and a defect if there is none. -/
theorem startsWithLexeme_or_of_quote (text : List Char) :
    StartsWithLexeme ('"' :: text) ∨ ∃ cause : Cause, cause.Starts ('"' :: text) := by
  by_cases closed : '"' ∈ text
  · obtain ⟨content, rest, rfl, unquoted⟩ := List.eq_append_cons_of_mem closed
    refine Or.inl ⟨_, _, rest, ?_, .string unquoted, fun _ _ => id⟩
    rw [List.append_assoc, List.singleton_append, List.cons_append]
  · exact Or.inr ⟨.unterminated, text, rfl, closed⟩

/-- **A text that starts with no blank** starts with a lexeme or with a defect. -/
theorem startsWithLexeme_or {c : Char} (text : List Char) (solid : isBlank c = false) :
    StartsWithLexeme (c :: text) ∨ ∃ cause : Cause, cause.Starts (c :: text) := by
  by_cases letter : isIdentifierChar c = true
  · exact Or.inl (startsWithLexeme_of_isIdentifierChar text letter)
  by_cases digit : c.isDigit = true
  · exact startsWithLexeme_or_of_isDigit text digit
  by_cases sign : c ∈ signs
  · obtain rfl | rfl | ⟨op, rfl⟩ := sign_cases sign
    · exact startsWithLexeme_or_of_quote text
    · exact Or.inl ⟨_, _, text, rfl, .semicolon, fun _ _ => id⟩
    · exact Or.inl ⟨_, _, text, rfl, .operator op, fun _ _ => id⟩
  · exact Or.inr ⟨.unrecognized c, rfl, solid, Bool.eq_false_iff.mpr letter,
      Bool.eq_false_iff.mpr digit, sign⟩

/-- **Every text is a layout** up to its end or its first defect, and the layout does not run into
what follows. -/
theorem exists_layout (text : List Char) :
    ∃ (layout : Layout) (rest : List Char), text = layout.text ++ rest ∧
      ¬ RunsInto layout.text rest ∧ (rest = [] ∨ ∃ cause : Cause, cause.Starts rest) := by
  induction size : text.length using Nat.strong_induction_on generalizing text with
  | h n ih =>
    obtain ⟨after, split, blank, solid⟩ := eq_takeWhile_append isBlank text
    generalize text.takeWhile isBlank = gap at split blank
    subst split
    have alone : ¬ RunsInto (Layout.ofGap gap blank).text after := AllBlank.not_runsInto blank after
    cases after with
    | nil => exact ⟨.ofGap gap blank, [], rfl, alone, Or.inl rfl⟩
    | cons c after =>
      obtain ⟨token, lexeme, rest, shape, lexical, clear⟩ | defect :=
        startsWithLexeme_or after (Bool.eq_false_iff.mpr (solid c rfl))
      · -- The rest is shorter; the piece goes in front of its layout.
        have shorter : rest.length < n := by
          have := List.length_pos_iff.mpr lexical.ne_nil
          rw [← size, shape, List.length_append, List.length_append]
          omega
        obtain ⟨layout, rest', rfl, apart, ends⟩ := ih _ shorter rest rfl
        refine ⟨.cons ⟨gap, token, lexeme, blank, lexical⟩ layout clear.of_append, rest', ?_,
          (Layout.not_runsInto_cons_iff clear.of_append).mpr ⟨clear, apart⟩, ends⟩
        rw [shape, Layout.text_cons, Piece.text, List.append_assoc, List.append_assoc]
      · exact ⟨.ofGap gap blank, c :: after, rfl, alone, Or.inr defect⟩

end Lex

end SourceScan
