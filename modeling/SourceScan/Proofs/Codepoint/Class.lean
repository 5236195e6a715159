import SourceScan.Codepoint.Class
import SourceScan.Token.Basic

/-!
# Proofs/Codepoint/Class — the classes of characters share nothing

A character that is not inside a string is a blank, a character of an identifier, a digit, one of
the signs the language knows, or none of these, and it is never two of them.

* `isIdentifierChar_of_isBlank`, `isDigit_of_isBlank`, `isIdentifierChar_of_isDigit` — the three
  wide classes are disjoint.
* `sign_class` — a sign lies in none of them.

The letters and the blanks are tables; they are only ever compared by trying the few code points of
the smaller one in the larger one.
-/

namespace SourceScan.Codepoint

/-- The code points of a range, in order. -/
def Range.codes (range : Range) : List Nat :=
  List.range' range.first (range.last + 1 - range.first)

theorem Range.mem_codes {range : Range} {code : Nat} (inside : range.Contains code) :
    code ∈ range.codes := by
  obtain ⟨above, below⟩ := inside
  refine List.mem_range'_1.mpr ⟨above, ?_⟩
  omega

/-- **Two tables share nothing** if no code point of the one is found in the other. -/
theorem Range.covers_eq_false_of_covers (few : List Range) {many : List Range} {code : Nat}
    (apart : ∀ code ∈ few.flatMap Range.codes, covers many code = false)
    (found : covers few code = true) : covers many code = false := by
  obtain ⟨range, member, inside⟩ := exists_of_covers found
  exact apart code (List.mem_flatMap.mpr ⟨range, member, mem_codes inside⟩)

/-- The ten digits, as a table. -/
def digits : List Range := [⟨0x30, 0x39⟩]

theorem covers_digits {c : Char} (digit : c.isDigit = true) :
    Range.covers digits c.toNat = true := by
  have inside : (Range.mk 0x30 0x39).Contains c.toNat := Char.isDigit_iff_toNat.mp digit
  refine Range.covers_of_mem inside (List.pairwise_singleton _ _) ?_ List.mem_cons_self
  rintro range member
  obtain rfl := List.mem_singleton.mp member
  decide

/-- A code point in none of the letters and not the underscore's makes no identifier. -/
theorem isIdentifierChar_eq_false {c : Char} (other : c ≠ '_')
    (letter : Range.covers letters c.toNat = false) : isIdentifierChar c = false := by
  rw [isIdentifierChar, isLetter, letter, Bool.or_false, beq_eq_false_iff_ne]
  exact other

/-- **A blank is no character of an identifier.** -/
theorem isIdentifierChar_of_isBlank {c : Char} (blank : isBlank c = true) :
    isIdentifierChar c = false := by
  refine isIdentifierChar_eq_false ?_
    (Range.covers_eq_false_of_covers blanks (by decide +kernel) blank)
  rintro rfl
  revert blank
  decide

/-- **A blank is no digit.** -/
theorem isDigit_of_isBlank {c : Char} (blank : isBlank c = true) : c.isDigit = false := by
  refine Bool.eq_false_iff.mpr fun digit => ?_
  have absent : Range.covers digits c.toNat = false :=
    Range.covers_eq_false_of_covers blanks (by decide +kernel) blank
  rw [covers_digits digit] at absent
  cases absent

/-- **A digit is no blank.** -/
theorem isBlank_of_isDigit {c : Char} (digit : c.isDigit = true) : isBlank c = false :=
  Bool.eq_false_iff.mpr fun blank => by simp [isDigit_of_isBlank blank] at digit

/-- **A digit is no character of an identifier.** -/
theorem isIdentifierChar_of_isDigit {c : Char} (digit : c.isDigit = true) :
    isIdentifierChar c = false := by
  refine isIdentifierChar_eq_false ?_
    (Range.covers_eq_false_of_covers digits (by decide +kernel) (covers_digits digit))
  rintro rfl
  revert digit
  decide

/-- **A character of an identifier is no blank.** -/
theorem isBlank_of_isIdentifierChar {c : Char} (letter : isIdentifierChar c = true) :
    isBlank c = false :=
  Bool.eq_false_iff.mpr fun blank => by simp [isIdentifierChar_of_isBlank blank] at letter

/-- **A character of an identifier is no digit.** -/
theorem isDigit_of_isIdentifierChar {c : Char} (letter : isIdentifierChar c = true) :
    c.isDigit = false :=
  Bool.eq_false_iff.mpr fun digit => by simp [isIdentifierChar_of_isDigit digit] at letter

/-! ## The signs -/

/-- **The signs** a token starts with: the quote, the semicolon and the operators. -/
def signs : List Char := ['"', ';', '+', '-', '*', '/', '=']

/-- A sign is the quote, the semicolon or the character of an operator. -/
theorem sign_cases {c : Char} (sign : c ∈ signs) :
    c = '"' ∨ c = ';' ∨ ∃ op : Operator, c = op.char := by
  simp only [signs, List.mem_cons, List.not_mem_nil, or_false] at sign
  rcases sign with quote | semicolon | add | sub | mul | div | equal
  · exact Or.inl quote
  · exact Or.inr (Or.inl semicolon)
  · exact Or.inr (Or.inr ⟨.add, add⟩)
  · exact Or.inr (Or.inr ⟨.sub, sub⟩)
  · exact Or.inr (Or.inr ⟨.mul, mul⟩)
  · exact Or.inr (Or.inr ⟨.div, div⟩)
  · exact Or.inr (Or.inr ⟨.equal, equal⟩)

/-- **A sign lies in none of the wide classes.** -/
theorem sign_class {c : Char} (sign : c ∈ signs) :
    isBlank c = false ∧ isIdentifierChar c = false ∧ c.isDigit = false := by
  obtain rfl | rfl | ⟨op, rfl⟩ := sign_cases sign
  · decide
  · decide
  · cases op <;> decide

end SourceScan.Codepoint

namespace SourceScan.Operator

theorem char_mem_signs (op : Operator) : op.char ∈ Codepoint.signs := by
  cases op <;> decide

/-- What is no sign is no operator. -/
theorem ofChar?_eq_none {c : Char} (other : c ∉ Codepoint.signs) : ofChar? c = none := by
  refine Option.eq_none_iff_forall_ne_some.mpr fun op found => other ?_
  rw [ofChar?_eq_some_iff.mp found]
  exact char_mem_signs op

end SourceScan.Operator
