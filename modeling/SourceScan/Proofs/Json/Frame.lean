import SourceScan.Proofs.Json.Unique

/-!
# Proofs/Json/Frame — the grammar does not look ahead

What is written in front of a rest is written there whatever more follows the rest, and the rest is
the end of the text.  So a document with more text behind it still starts with its value, and a list
or an object ends with a bracket of its own.

* `Quoted.append`, `Tree.Written.append`, `Items.append`, `Members.append` — more behind the rest.
* `Tree.Written.isSuffix`, `Items.isSuffix`, `Members.isSuffix` — the rest is the end of the text.
* `Tree.Written.exists_closer` — a bracket is written up to its closing character.
-/

namespace SourceScan.Json

variable {text rest text' rest' : List Char}

/-! ## More behind the rest -/

section Append

variable (more : List Char)

theorem Blanks.append (blanks : Blanks text rest) : Blanks (text ++ more) (rest ++ more) := by
  obtain ⟨gap, all, rfl⟩ := blanks
  exact ⟨gap, all, List.append_assoc ..⟩

theorem Digits.append {digits : List Char} (run : Digits digits text rest) :
    Digits digits (text ++ more) (rest ++ more) := by
  obtain ⟨nonempty, all, rfl⟩ := run
  exact ⟨nonempty, all, List.append_assoc ..⟩

theorem Fraction.append {digits : Option (List Char)} (written : Fraction digits text rest) :
    Fraction digits (text ++ more) (rest ++ more) := by
  cases written with
  | none => exact .none
  | point run => exact .point (run.append more)

theorem Sign.append {minus : Bool} (sign : Sign minus text rest) :
    Sign minus (text ++ more) (rest ++ more) := by
  cases sign with
  | none => exact .none
  | plus => exact .plus
  | minus => exact .minus

theorem Exponent.append {exponent : Option (Bool × List Char)}
    (written : Exponent exponent text rest) : Exponent exponent (text ++ more) (rest ++ more) := by
  cases written with
  | none => exact .none
  | marked mark sign run => exact .marked mark (sign.append more) (run.append more)

theorem Figures.Unsigned.append {figures : Figures} (written : figures.Unsigned text rest) :
    figures.Unsigned (text ++ more) (rest ++ more) := by
  obtain ⟨⟨_, _, whole, fraction, exponent⟩, zero⟩ := written
  exact ⟨⟨_, _, whole.append more, fraction.append more, exponent.append more⟩, zero⟩

theorem Figures.Written.append {figures : Figures} (written : figures.Written text rest) :
    figures.Written (text ++ more) (rest ++ more) := by
  cases written with
  | positive minus unsigned => exact .positive minus (unsigned.append more)
  | negative minus unsigned => exact .negative minus (unsigned.append more)

theorem Element.Written.append {first : Element} (written : first.Written text rest) :
    first.Written (text ++ more) (rest ++ more) := by
  cases written with
  | plain notControl notQuote notBackslash => exact .plain notControl notQuote notBackslash
  | short stands => exact .short stands
  | code hex =>
    obtain ⟨first, second, third, fourth⟩ := hex
    exact .code (.mk first second third fourth)

theorem Quoted.append {elements : List Element} (quoted : Quoted elements text rest) :
    Quoted elements (text ++ more) (rest ++ more) := by
  induction quoted with
  | closed => exact .closed
  | part first _ ih => exact .part (first.append more) ih

theorem Separated.append {opened : Bool} (separated : Separated opened text rest) :
    Separated opened (text ++ more) (rest ++ more) := by
  cases separated with
  | first blanks => exact .first (blanks.append more)
  | comma before behind => exact .comma (before.append more) (behind.append more)

theorem Keyed.append {key : List Element} (keyed : Keyed key text rest) :
    Keyed key (text ++ more) (rest ++ more) := by
  obtain ⟨start, quoted, colon⟩ := keyed
  exact .mk (start.append more) (quoted.append more) (colon.append more)

end Append

mutual

/-- **A value is written** whatever more follows. -/
theorem Tree.Written.append {tree : Tree} {text rest : List Char} (more : List Char)
    (written : tree.Written text rest) : tree.Written (text ++ more) (rest ++ more) := by
  cases written with
  | null blanks => exact .null (blanks.append more)
  | true blanks => exact .true (blanks.append more)
  | false blanks => exact .false (blanks.append more)
  | number blanks written => exact .number (blanks.append more) (written.append more)
  | string blanks quoted => exact .string (blanks.append more) (quoted.append more)
  | list blanks items => exact .list (blanks.append more) (items.append more)
  | object blanks members => exact .object (blanks.append more) (members.append more)

theorem Items.append {opened : Bool} {items : List Tree} {text rest : List Char}
    (more : List Char) (written : Items opened items text rest) :
    Items opened items (text ++ more) (rest ++ more) := by
  cases written with
  | closed blanks => exact .closed (blanks.append more)
  | item separated value items =>
    exact .item (separated.append more) (value.append more) (items.append more)

theorem Members.append {opened : Bool} {members : List (List Element × Tree)}
    {text rest : List Char} (more : List Char) (written : Members opened members text rest) :
    Members opened members (text ++ more) (rest ++ more) := by
  cases written with
  | closed blanks => exact .closed (blanks.append more)
  | member separated keyed value members =>
    exact .member (separated.append more) (keyed.append more) (value.append more)
      (members.append more)

end

/-! ## The rest is the end of the text -/

theorem Blanks.isSuffix (blanks : Blanks text rest) : rest <:+ text := by
  obtain ⟨gap, -, rfl⟩ := blanks
  exact List.suffix_append gap rest

/-- What is behind a character behind blanks. -/
theorem Blanks.isSuffix_tail {c : Char} (blanks : Blanks text (c :: rest)) : rest <:+ text :=
  (List.suffix_cons c rest).trans blanks.isSuffix

theorem Digits.isSuffix {digits : List Char} (run : Digits digits text rest) : rest <:+ text := by
  obtain ⟨-, -, rfl⟩ := run
  exact List.suffix_append digits rest

theorem Fraction.isSuffix {digits : Option (List Char)} (written : Fraction digits text rest) :
    rest <:+ text := by
  cases written with
  | none => exact List.suffix_refl _
  | point run => exact run.isSuffix.trans (List.suffix_cons ..)

theorem Sign.isSuffix {minus : Bool} (sign : Sign minus text rest) : rest <:+ text := by
  cases sign with
  | none => exact List.suffix_refl _
  | plus => exact List.suffix_cons ..
  | minus => exact List.suffix_cons ..

theorem Exponent.isSuffix {exponent : Option (Bool × List Char)}
    (written : Exponent exponent text rest) : rest <:+ text := by
  cases written with
  | none => exact List.suffix_refl _
  | marked _ sign run =>
    exact (run.isSuffix.trans sign.isSuffix).trans (List.suffix_cons ..)

theorem Figures.Unsigned.isSuffix {figures : Figures} (written : figures.Unsigned text rest) :
    rest <:+ text := by
  obtain ⟨_, _, whole, fraction, exponent⟩ := written.parts
  exact (exponent.isSuffix.trans fraction.isSuffix).trans whole.isSuffix

theorem Figures.Written.isSuffix {figures : Figures} (written : figures.Written text rest) :
    rest <:+ text := by
  cases written with
  | positive _ unsigned => exact unsigned.isSuffix
  | negative _ unsigned => exact unsigned.isSuffix.trans (List.suffix_cons ..)

theorem Element.Written.isSuffix {first : Element} (written : first.Written text rest) :
    rest <:+ text := by
  cases written with
  | plain _ _ _ => exact List.suffix_cons ..
  | short _ => exact List.suffix_append ['\\', _] _
  | code hex =>
    obtain ⟨-, -, -, -⟩ := hex
    exact List.suffix_append ['\\', 'u', _, _, _, _] _

theorem Quoted.isSuffix {elements : List Element} (quoted : Quoted elements text rest) :
    rest <:+ text := by
  induction quoted with
  | closed => exact List.suffix_cons ..
  | part first _ ih => exact ih.trans first.isSuffix

theorem Separated.isSuffix {opened : Bool} (separated : Separated opened text rest) :
    rest <:+ text := by
  cases separated with
  | first blanks => exact blanks.isSuffix
  | comma before behind => exact behind.isSuffix.trans before.isSuffix_tail

theorem Keyed.isSuffix {key : List Element} (keyed : Keyed key text rest) : rest <:+ text := by
  obtain ⟨start, quoted, colon⟩ := keyed
  exact (colon.isSuffix_tail.trans quoted.isSuffix).trans start.isSuffix_tail

mutual

/-- **What is behind a value** is the end of the text. -/
theorem Tree.Written.isSuffix {tree : Tree} {text rest : List Char}
    (written : tree.Written text rest) : rest <:+ text := by
  cases written with
  | null blanks => exact (List.suffix_append ['n', 'u', 'l', 'l'] _).trans blanks.isSuffix
  | true blanks => exact (List.suffix_append ['t', 'r', 'u', 'e'] _).trans blanks.isSuffix
  | false blanks => exact (List.suffix_append ['f', 'a', 'l', 's', 'e'] _).trans blanks.isSuffix
  | number blanks written => exact written.isSuffix.trans blanks.isSuffix
  | string blanks quoted => exact quoted.isSuffix.trans blanks.isSuffix_tail
  | list blanks items =>
    exact ((List.suffix_cons ..).trans items.isSuffix).trans blanks.isSuffix_tail
  | object blanks members =>
    exact ((List.suffix_cons ..).trans members.isSuffix).trans blanks.isSuffix_tail

/-- **The inside of a list** ends with its bracket. -/
theorem Items.isSuffix {opened : Bool} {items : List Tree} {text rest : List Char}
    (written : Items opened items text rest) : ']' :: rest <:+ text := by
  cases written with
  | closed blanks => exact blanks.isSuffix
  | item separated value items =>
    exact (items.isSuffix.trans value.isSuffix).trans separated.isSuffix

/-- **The inside of an object** ends with its bracket. -/
theorem Members.isSuffix {opened : Bool} {members : List (List Element × Tree)}
    {text rest : List Char} (written : Members opened members text rest) :
    '\x7d' :: rest <:+ text := by
  cases written with
  | closed blanks => exact blanks.isSuffix
  | member separated keyed value members =>
    exact ((members.isSuffix.trans value.isSuffix).trans keyed.isSuffix).trans separated.isSuffix

end

/-! ## Brackets -/

/-- **A bracket is written up to its closing character.** -/
theorem Tree.Written.exists_closer {tree : Tree} (written : tree.Written text rest)
    (bracketed : tree.Bracketed) :
    ∃ (body : List Char) (bracket : Bracket), text = body ++ bracket.closer :: rest := by
  cases written with
  | list blanks items =>
    obtain ⟨body, same⟩ := items.isSuffix.trans blanks.isSuffix_tail
    exact ⟨body, .list, same.symm⟩
  | object blanks members =>
    obtain ⟨body, same⟩ := members.isSuffix.trans blanks.isSuffix_tail
    exact ⟨body, .object, same.symm⟩
  | _ => exact bracketed.elim

end SourceScan.Json
