import SourceScan.Json.Text
import SourceScan.Proofs.Json.Reads

/-!
# Proofs/Json/Escape — reading the elements of a string

A string is read character by character, and a character may be written as two elements; one that
nobody asks for is read element by element.

* `reads_hex4` — the code of four hexadecimal digits.
* `Character` — a character as it is written: one element, or the codes of two surrogates.
* `reads_element_some`, `reads_element_none` — a character, or the closing quote.
* `reads_skipElement_some`, `reads_skipElement_none` — the same where nobody asks for it.
-/

namespace SourceScan.Json

variable {text rest : List Char}

/-! ## Hexadecimal digits -/

instance (c : Char) (value : Nat) : Decidable (HexDigit c value) :=
  inferInstanceAs (Decidable (_ ∨ _))

/-- **A character in a range** of hexadecimal digits is one, if all that the range spans are. -/
theorem hexDigit_of_range {first last c : Char} {value : Nat} (range : first ≤ c ∧ c ≤ last)
    (digits : ∀ place ≤ last.toNat - first.toNat,
      HexDigit (Char.ofNat (first.toNat + place)) (place + value)) :
    HexDigit c (c.toNat - first.toNat + value) := by
  have above : first.toNat ≤ c.toNat := UInt32.le_iff_toNat_le.mp range.1
  have below : c.toNat ≤ last.toNat := UInt32.le_iff_toNat_le.mp range.2
  have digit := digits (c.toNat - first.toNat) (Nat.sub_le_sub_right below _)
  rwa [Nat.add_sub_cancel' above, Char.ofNat_toNat] at digit

/-- **The value of a hexadecimal digit** is its place among the digits. -/
theorem hexValue?_eq_some_iff {c : Char} {value : Nat} :
    hexValue? c = some value ↔ HexDigit c value := by
  constructor
  · intro found
    rw [hexValue?] at found
    split at found
    · rename_i range
      cases found
      have digit : HexDigit c (c.toNat - '0'.toNat + 0) := hexDigit_of_range range (by decide)
      exact digit
    split at found
    · rename_i range
      cases found
      exact hexDigit_of_range range (by decide)
    split at found
    · rename_i range
      cases found
      exact hexDigit_of_range range (by decide)
    · cases found
  · have lower : ∀ place (lt : place < 16),
        hexValue? "0123456789abcdef".toList[place] = some place := by decide
    have upper : ∀ place (lt : place < 16),
        hexValue? "0123456789ABCDEF".toList[place] = some place := by decide
    rintro (found | found)
    · obtain ⟨lt, rfl⟩ := List.getElem?_eq_some_iff.mp found
      exact lower value lt
    · obtain ⟨lt, rfl⟩ := List.getElem?_eq_some_iff.mp found
      exact upper value lt

/-- **Four hexadecimal digits** are read for their code. -/
theorem reads_hex4 {code : Nat} : Reads (hex4 text) code rest ↔ HexCode code text rest := by
  constructor
  · rintro ⟨read, found, rfl, rfl⟩
    rw [hex4.eq_def] at found
    split at found
    · split at found
      · rename_i first second third fourth
        cases found
        exact .mk (hexValue?_eq_some_iff.mp first) (hexValue?_eq_some_iff.mp second)
          (hexValue?_eq_some_iff.mp third) (hexValue?_eq_some_iff.mp fourth)
      · cases found
    · split at found <;> cases found
  · rintro ⟨first, second, third, fourth⟩
    rw [← hexValue?_eq_some_iff] at first second third fourth
    simp only [hex4, first, second, third, fourth, reads_ok, and_self]

/-! ## Escapes -/

theorem lookup_escaped_eq_some_iff {letter c : Char} :
    escaped.lookup letter = some c ↔ Short letter c := by
  constructor
  · intro found
    obtain ⟨before, after, split, -⟩ := List.lookup_eq_some_iff.mp found
    have member : (letter, c) ∈ escaped := by rw [split]; simp
    simp only [escaped, List.mem_cons, Prod.mk.injEq, List.not_mem_nil, or_false] at member
    rcases member with ⟨rfl, rfl⟩ | ⟨rfl, rfl⟩ | ⟨rfl, rfl⟩ | ⟨rfl, rfl⟩ | ⟨rfl, rfl⟩ |
      ⟨rfl, rfl⟩ | ⟨rfl, rfl⟩ | ⟨rfl, rfl⟩ <;> constructor
  · rintro ⟨⟩ <;> rfl

theorem isHighSurrogate_eq_true_iff {code : Nat} :
    isHighSurrogate code = true ↔ 0xD800 ≤ code ∧ code ≤ 0xDBFF := by
  rw [isHighSurrogate, Bool.and_eq_true, decide_eq_true_eq, decide_eq_true_eq]

theorem isLowSurrogate_eq_true_iff {code : Nat} :
    isLowSurrogate code = true ↔ 0xDC00 ≤ code ∧ code ≤ 0xDFFF := by
  rw [isLowSurrogate, Bool.and_eq_true, decide_eq_true_eq, decide_eq_true_eq]

/-- **A character of a string as it is written**: one element, or the codes of two surrogates. -/
inductive Character : Char → List Element → List Char → List Char → Prop
  | char {c : Char} {text rest : List Char} :
      (Element.char c).Written text rest → Character c [.char c] text rest
  | code {code : Nat} {text rest : List Char} :
      code < 0xD800 ∨ 0xDFFF < code → (Element.code code).Written text rest →
        Character (Char.ofNat code) [.code code] text rest
  | pair {high low : Nat} {text middle rest : List Char} :
      0xD800 ≤ high ∧ high ≤ 0xDBFF → 0xDC00 ≤ low ∧ low ≤ 0xDFFF →
        (Element.code high).Written text middle → (Element.code low).Written middle rest →
          Character (paired high low) [.code high, .code low] text rest

/-- **How a character starts**: by itself, with a short escape, or with a code. -/
theorem Character.starts {c : Char} {elements : List Element}
    (said : Character c elements text rest) :
    (0x20 ≤ c.toNat ∧ c ≠ '"' ∧ c ≠ '\\' ∧ text = c :: rest) ∨
      (∃ letter, Short letter c ∧ text = '\\' :: letter :: rest) ∨
      ∃ inner, text = '\\' :: 'u' :: inner := by
  cases said with
  | char written =>
    cases written with
    | plain notControl notQuote notBackslash => exact .inl ⟨notControl, notQuote, notBackslash, rfl⟩
    | short letter => exact .inr (.inl ⟨_, letter, rfl⟩)
  | code _ written =>
    cases written with
    | code hex => exact .inr (.inr ⟨_, rfl⟩)
  | pair _ _ high _ =>
    cases high with
    | code hex => exact .inr (.inr ⟨_, rfl⟩)

theorem reads_secondHalf {low : Nat} : Reads (secondHalf text) low rest ↔
    (Element.code low).Written text rest ∧ 0xDC00 ≤ low ∧ low ≤ 0xDFFF := by
  constructor
  · intro reads
    rw [secondHalf.eq_def] at reads
    split at reads
    · exact absurd reads not_reads_error
    · exact absurd reads not_reads_error
    · obtain ⟨found, hex, reads⟩ := reads_bind.mp reads
      split at reads
      · rename_i range
        obtain ⟨rfl, rfl⟩ := reads_ok.mp reads
        exact ⟨.code (reads_hex4.mp ⟨found, hex, rfl, rfl⟩), isLowSurrogate_eq_true_iff.mp range⟩
      · exact absurd reads not_reads_error
    · exact absurd reads not_reads_error
    · exact absurd reads not_reads_error
  · rintro ⟨⟨⟩ | ⟨⟩ | hex, range⟩
    obtain ⟨found, read, rfl, rfl⟩ := reads_hex4.mpr hex
    rw [secondHalf]
    refine reads_bind.mpr ⟨found, read, ?_⟩
    rw [if_pos (isLowSurrogate_eq_true_iff.mpr range)]
    exact ⟨_, rfl, rfl, rfl⟩

theorem reads_coded {c : Char} : Reads (coded text) c rest ↔
    ∃ elements, Character c elements ('\\' :: 'u' :: text) rest := by
  constructor
  · intro reads
    obtain ⟨code, hex, reads⟩ := reads_bind.mp reads
    have written : (Element.code code.value).Written ('\\' :: 'u' :: text) code.rest :=
      .code (reads_hex4.mp ⟨code, hex, rfl, rfl⟩)
    split at reads
    · exact absurd reads not_reads_error
    rename_i notLow
    split at reads
    · rename_i high
      obtain ⟨low, second, reads⟩ := reads_bind.mp reads
      simp only [reads_ok, Read.value_map, Read.rest_map, Read.value_next, Read.rest_next] at reads
      obtain ⟨rfl, rfl⟩ := reads
      obtain ⟨lowWritten, range⟩ := reads_secondHalf.mp ⟨low, second, rfl, rfl⟩
      exact ⟨_, .pair (isHighSurrogate_eq_true_iff.mp high) range written lowWritten⟩
    · rename_i notHigh
      obtain ⟨rfl, rfl⟩ := reads_ok.mp reads
      rw [isLowSurrogate_eq_true_iff] at notLow
      rw [isHighSurrogate_eq_true_iff] at notHigh
      exact ⟨_, .code (by omega) written⟩
  · rintro ⟨elements, said⟩
    cases said with
    | char written =>
      cases written with
      | plain _ _ other => exact absurd rfl other
      | short letter => cases letter
    | code range written =>
      cases written with
      | code hex =>
        obtain ⟨code, read, rfl, rfl⟩ := reads_hex4.mpr hex
        refine reads_bind.mpr ⟨code, read, ?_⟩
        rw [if_neg (by rw [isLowSurrogate_eq_true_iff]; omega),
          if_neg (by rw [isHighSurrogate_eq_true_iff]; omega)]
        exact reads_ok.mpr ⟨rfl, rfl⟩
    | pair high low first second =>
      cases first with
      | code hex =>
        obtain ⟨code, read, rfl, rfl⟩ := reads_hex4.mpr hex
        obtain ⟨half, readHalf, rfl, rfl⟩ := reads_secondHalf.mpr ⟨second, low⟩
        refine reads_bind.mpr ⟨code, read, ?_⟩
        rw [if_neg (by rw [isLowSurrogate_eq_true_iff]; omega),
          if_pos (isHighSurrogate_eq_true_iff.mpr high)]
        refine reads_bind.mpr ⟨half, readHalf, ?_⟩
        simp only [reads_ok, Read.value_map, Read.rest_map, Read.value_next, Read.rest_next,
          paired, and_self]

/-- **An escape** is read for its character. -/
theorem reads_escape {c : Char} : Reads (escape text) c rest ↔
    ∃ elements, Character c elements ('\\' :: text) rest := by
  constructor
  · intro reads
    rw [escape.eq_def] at reads
    split at reads
    · exact absurd reads not_reads_error
    rename_i letter text
    split at reads
    · rename_i stands
      obtain ⟨rfl, rfl⟩ := reads_ok.mp reads
      exact ⟨_, .char (.short (lookup_escaped_eq_some_iff.mp stands))⟩
    split at reads
    · rename_i same
      obtain ⟨code, coded, reads⟩ := reads_bind.mp reads
      obtain ⟨rfl, rfl⟩ := reads_ok.mp reads
      rw [same]
      exact reads_coded.mp ⟨code, coded, rfl, rfl⟩
    · exact absurd reads not_reads_error
  · rintro ⟨elements, said⟩
    obtain ⟨-, -, notBackslash, same⟩ | ⟨letter, stands, same⟩ | ⟨inner, same⟩ := said.starts
    · exact absurd (List.cons.inj same).1.symm notBackslash
    · obtain rfl := List.tail_eq_of_cons_eq same
      rw [escape, lookup_escaped_eq_some_iff.mpr stands]
      exact reads_ok.mpr ⟨rfl, rfl⟩
    · obtain rfl := List.tail_eq_of_cons_eq same
      obtain ⟨code, coded, rfl, rfl⟩ := reads_coded.mpr ⟨elements, said⟩
      exact reads_bind.mpr ⟨code, coded, reads_ok.mpr ⟨rfl, rfl⟩⟩

/-- **A character of a string** is read as one. -/
theorem reads_element_some {c : Char} : Reads (element text) (some c) rest ↔
    ∃ elements, Character c elements text rest := by
  constructor
  · intro reads
    rw [element.eq_def] at reads
    split at reads
    · exact absurd reads not_reads_error
    split at reads
    · exact absurd reads not_reads_error
    rename_i notControl
    split at reads
    · exact nomatch (reads_ok.mp reads).1
    rename_i notQuote
    split at reads
    · rename_i backslash
      obtain ⟨meant, escaped, reads⟩ := reads_bind.mp reads
      obtain ⟨same, rfl⟩ := reads_ok.mp reads
      obtain rfl := Option.some.inj same
      rw [backslash]
      exact reads_escape.mp ⟨meant, escaped, rfl, rfl⟩
    · rename_i notBackslash
      obtain ⟨same, rfl⟩ := reads_ok.mp reads
      obtain rfl := Option.some.inj same
      exact ⟨_, .char (.plain (Nat.le_of_not_lt notControl) notQuote notBackslash)⟩
  · rintro ⟨elements, said⟩
    have byEscape {inner : List Char} (same : text = '\\' :: inner) :
        Reads (element text) (some c) rest := by
      obtain rfl := same
      obtain ⟨meant, escaped, rfl, rfl⟩ := reads_escape.mpr ⟨elements, said⟩
      exact reads_bind.mpr ⟨meant, escaped, reads_ok.mpr ⟨rfl, rfl⟩⟩
    obtain ⟨notControl, notQuote, notBackslash, rfl⟩ | ⟨letter, -, same⟩ | ⟨inner, same⟩ :=
      said.starts
    · rw [element, if_neg (Nat.not_lt_of_le notControl), if_neg notQuote, if_neg notBackslash]
      exact reads_ok.mpr ⟨rfl, rfl⟩
    · exact byEscape same
    · exact byEscape same

theorem reads_element_none : Reads (element text) none rest ↔ text = '"' :: rest := by
  constructor
  · intro reads
    rw [element.eq_def] at reads
    split at reads
    · exact absurd reads not_reads_error
    split at reads
    · exact absurd reads not_reads_error
    split at reads
    · rename_i quote
      obtain ⟨-, rfl⟩ := reads_ok.mp reads
      rw [quote]
      rfl
    split at reads
    · obtain ⟨meant, -, reads⟩ := reads_bind.mp reads
      exact nomatch (reads_ok.mp reads).1
    · exact nomatch (reads_ok.mp reads).1
  · rintro rfl
    exact reads_ok.mpr ⟨rfl, rfl⟩

/-! ## Elements that nobody asks for -/

/-- **An escape that nobody asks for** is one element. -/
theorem reads_skipEscape : Reads (skipEscape text) () rest ↔
    ∃ first : Element, first.Written ('\\' :: text) rest := by
  constructor
  · intro reads
    rw [skipEscape.eq_def] at reads
    split at reads
    · exact absurd reads not_reads_error
    rename_i letter text
    split at reads
    · rename_i c stands
      obtain ⟨-, rfl⟩ := reads_ok.mp reads
      exact ⟨.char c, .short (lookup_escaped_eq_some_iff.mp stands)⟩
    split at reads
    · rename_i same
      obtain ⟨code, hex, reads⟩ := reads_bind.mp reads
      obtain ⟨-, rfl⟩ := reads_ok.mp reads
      rw [same]
      exact ⟨.code code.value, .code (reads_hex4.mp ⟨code, hex, rfl, rfl⟩)⟩
    · exact absurd reads not_reads_error
  · rintro ⟨first, written⟩
    cases written with
    | plain _ _ notBackslash => exact absurd rfl notBackslash
    | short stands =>
      rw [skipEscape, lookup_escaped_eq_some_iff.mpr stands]
      exact reads_ok.mpr ⟨rfl, rfl⟩
    | code hex =>
      obtain ⟨code, read, rfl, rfl⟩ := reads_hex4.mpr hex
      exact reads_bind.mpr ⟨code, read, reads_ok.mpr ⟨rfl, rfl⟩⟩

theorem reads_skipElement_some : Reads (skipElement text) (some ()) rest ↔
    ∃ first : Element, first.Written text rest := by
  constructor
  · intro reads
    rw [skipElement.eq_def] at reads
    split at reads
    · exact absurd reads not_reads_error
    rename_i c text
    split at reads
    · exact absurd reads not_reads_error
    rename_i notControl
    split at reads
    · exact nomatch (reads_ok.mp reads).1
    rename_i notQuote
    split at reads
    · rename_i backslash
      obtain ⟨meant, escaped, reads⟩ := reads_bind.mp reads
      obtain ⟨-, rfl⟩ := reads_ok.mp reads
      rw [backslash]
      exact reads_skipEscape.mp ⟨meant, escaped, rfl, rfl⟩
    · rename_i notBackslash
      obtain ⟨-, rfl⟩ := reads_ok.mp reads
      exact ⟨.char c, .plain (Nat.le_of_not_lt notControl) notQuote notBackslash⟩
  · rintro ⟨first, written⟩
    have byEscape {inner : List Char} (same : text = '\\' :: inner) :
        Reads (skipElement text) (some ()) rest := by
      obtain rfl := same
      obtain ⟨meant, escaped, -, rfl⟩ := reads_skipEscape.mpr ⟨first, written⟩
      exact reads_bind.mpr ⟨meant, escaped, reads_ok.mpr ⟨rfl, rfl⟩⟩
    cases written with
    | plain notControl notQuote notBackslash =>
      rw [skipElement, if_neg (Nat.not_lt_of_le notControl), if_neg notQuote, if_neg notBackslash]
      exact reads_ok.mpr ⟨rfl, rfl⟩
    | short _ => exact byEscape rfl
    | code _ => exact byEscape rfl

theorem reads_skipElement_none : Reads (skipElement text) none rest ↔ text = '"' :: rest := by
  constructor
  · intro reads
    rw [skipElement.eq_def] at reads
    split at reads
    · exact absurd reads not_reads_error
    split at reads
    · exact absurd reads not_reads_error
    split at reads
    · rename_i quote
      obtain ⟨-, rfl⟩ := reads_ok.mp reads
      rw [quote]
      rfl
    split at reads
    · obtain ⟨meant, -, reads⟩ := reads_bind.mp reads
      exact nomatch (reads_ok.mp reads).1
    · exact nomatch (reads_ok.mp reads).1
  · rintro rfl
    exact reads_ok.mpr ⟨rfl, rfl⟩

end SourceScan.Json
