import SourceScan.Json.Record
import SourceScan.Proofs.Json.Schema
import SourceScan.Proofs.Json.Skip

/-!
# Proofs/Json/Recognition — readings that recognize a meaning

A reading and a meaning belong together where the reading finds a value exactly for the trees that
mean it.  The grammar lets a number be cut short, so that a tree is read only where nothing behind
it could be more of a number; in a document and in a bracket, nothing ever is.

* `Recognizes` — a reading recognizes a meaning.
* `document_eq_ok_iff` — from a value to a document.
* `recognizes_unsigned`, `recognizes_choice`, `recognizes_optional` — integers, names and nulls.
* `recognizes_field` — a value in a field.
-/

namespace SourceScan.Json

variable {α : Type} {text rest : List Char} {value : α}

/-- **A reading recognizes a meaning**: what it reads is written as a tree that means its value, and
a tree with a meaning is read for it where no number goes on behind it. -/
structure Recognizes (reading : Reading α) (meaning : Tree → Option α) : Prop where
  /-- What is read is written. -/
  sound : ∀ {text value rest}, Reads (reading text) value rest →
    ∃ tree : Tree, tree.Written text rest ∧ meaning tree = some value
  /-- What is written is read. -/
  complete : ∀ {tree : Tree} {text value rest}, tree.Written text rest → Delimited rest →
    meaning tree = some value → Reads (reading text) value rest

/-- A reading recognizes a meaning under any name. -/
theorem Recognizes.congr {reading : Reading α} {meaning meaning' : Tree → Option α}
    (recognizes : Recognizes reading meaning) (same : ∀ tree, meaning tree = meaning' tree) :
    Recognizes reading meaning' := funext same ▸ recognizes

/-- A value that nobody asks for means nothing more. -/
theorem recognizes_skipValue : Recognizes skipValue fun _ => some () where
  sound reads := by
    obtain ⟨tree, written⟩ := written_of_skipValue reads
    exact ⟨tree, written, rfl⟩
  complete written delimited _ := written.skipValue delimited

/-- **A document is read** for what its tree means. -/
theorem document_eq_ok_iff {reading : Reading α} {meaning : Tree → Option α}
    (recognizes : Recognizes reading meaning) :
    document reading text = .ok value ↔
      ∃ tree, Document tree text ∧ meaning tree = some value := by
  constructor
  · intro read
    rw [document, bind_eq_ok_iff] at read
    obtain ⟨found, read, ends⟩ := read
    split at ends
    · rename_i skipped
      obtain rfl := Except.ok.inj ends
      obtain ⟨tree, written, means⟩ := recognizes.sound ⟨found, read, rfl, rfl⟩
      exact ⟨tree, ⟨found.rest, written, skipped ▸ blanks_skipBlanks found.rest⟩, means⟩
    · cases ends
  · rintro ⟨tree, ⟨rest, written, blanks⟩, means⟩
    have delimited : Delimited rest := blanks.delimited (by simp [Delimited])
    obtain ⟨found, read, rfl, rfl⟩ := recognizes.complete written delimited means
    have skipped : skipBlanks found.rest = [] := blanks.skipBlanks_eq
    rw [document, bind_eq_ok_iff]
    refine ⟨found, read, ?_⟩
    rw [skipped]

/-! ## Values -/

/-- A number of digits alone is written as these, behind blanks. -/
theorem unsigned_of_written {digits : List Char}
    (written : Tree.Written (.number ⟨false, digits, none, none⟩) text rest) :
    ∃ start, Blanks text start ∧ Figures.Unsigned ⟨false, digits, none, none⟩ start rest := by
  cases written with
  | number blanks written =>
    cases written with
    | positive _ unsigned => exact ⟨_, blanks, unsigned⟩
    | negative minus _ => cases minus

/-- **An unsigned integer is recognized** by its digits. -/
theorem recognizes_unsigned (expected : String) :
    Recognizes (unsigned expected) Tree.unsigned? where
  sound {text value rest} reads := by
    obtain ⟨c, after, skipped, reads⟩ := exists_of_reads_behind reads
    dsimp only at reads
    split at reads
    · obtain ⟨number, readNumber, reads⟩ := reads_bind.mp reads
      split at reads
      · exact absurd reads not_reads_error
      rename_i integer same
      split at reads
      · exact absurd reads not_reads_error
      · rename_i positive
        exact absurd (neg_of_numeral ⟨number, readNumber, same, rfl⟩) positive
    split at reads
    · obtain ⟨number, readNumber, reads⟩ := reads_bind.mp reads
      split at reads
      · exact absurd reads not_reads_error
      rename_i integer same
      split at reads
      · exact absurd reads not_reads_error
      · obtain ⟨rfl, rfl⟩ := reads_ok.mp reads
        obtain ⟨digits, unsigned, small, rfl⟩ :=
          unsigned_of_numeral ⟨number, readNumber, same, rfl⟩
        exact ⟨_, .number (.of_skipBlanks skipped) (.positive rfl unsigned),
          Tree.unsigned?_eq_some_iff.mpr ⟨digits, rfl, small, rfl⟩⟩
    · exact absurd reads not_reads_error
  complete {tree text value rest} written delimited means := by
    obtain ⟨digits, rfl, small, rfl⟩ := Tree.unsigned?_eq_some_iff.mp means
    obtain ⟨start, blanks, unsigned⟩ := unsigned_of_written written
    obtain ⟨c, after, rfl, digit⟩ := unsigned.starts
    obtain ⟨number, readNumber, same, rfl⟩ := unsigned.numeral delimited small
    refine (reads_behind (blanks.skipBlanks_cons (isSpace_of_isDigit digit))).mpr ?_
    dsimp only
    rw [if_neg (ne_of_isDigit digit rfl), if_pos digit]
    refine reads_bind.mpr ⟨number, readNumber, ?_⟩
    split
    · rename_i other
      cases same.symm.trans other
    · rename_i integer other
      obtain rfl := Number.integer.inj (same.symm.trans other)
      rw [if_neg (Int.not_lt.mpr (Int.natCast_nonneg _))]
      exact reads_ok.mpr ⟨rfl, rfl⟩

/-- **A name is read** as one of several. -/
theorem reads_named {names : List (String × α)} :
    Reads (named names text) value rest ↔
      ∃ elements, Quoted elements text rest ∧ named? names elements = some value := by
  rw [named, reads_bind]
  constructor
  · rintro ⟨name, readName, reads⟩
    obtain ⟨elements, quoted, spells⟩ := reads_text.mp ⟨name, readName, rfl, rfl⟩
    split at reads
    · rename_i meant found
      obtain ⟨rfl, rfl⟩ := reads_ok.mp reads
      refine ⟨elements, quoted, ?_⟩
      rw [named?, spells, Option.bind_eq_bind, Option.bind_some, String.ofList_toList]
      exact found
    · exact absurd reads not_reads_error
  · rintro ⟨elements, quoted, means⟩
    obtain ⟨said, spells, found⟩ := Option.bind_eq_some_iff.mp means
    obtain ⟨name, readName, same, rfl⟩ :=
      reads_text.mpr ⟨elements, quoted, spells.trans (congrArg some String.toList_ofList.symm)⟩
    refine ⟨name, readName, ?_⟩
    rw [same, found]
    exact reads_ok.mpr ⟨rfl, rfl⟩

/-- **The end of a choice** is a colon, a null and the end of the object. -/
theorem reads_choiceEnd : Reads (choiceEnd text) () rest ↔
    ∃ value after, Blanks text (':' :: value) ∧ Tree.Written .null value after ∧
      Blanks after ('\x7d' :: rest) := by
  constructor
  · intro reads
    obtain ⟨colon, readColon, reads⟩ := reads_bind.mp reads
    have blanks := reads_colon.mp ⟨colon, readColon, rfl, rfl⟩
    obtain ⟨c, inner, skipped, reads⟩ := exists_of_reads_behind reads
    dsimp only at reads
    split at reads
    · rename_i same
      obtain ⟨null, readNull, reads⟩ := reads_bind.mp reads
      obtain ⟨-, isNull⟩ := reads_literal.mp ⟨null, readNull, rfl, rfl⟩
      obtain ⟨d, after, closing, reads⟩ := exists_of_reads_behind reads
      split at reads
      · rename_i closes
        obtain ⟨-, rfl⟩ := reads_ok.mp reads
        have word : c :: inner = 'n' :: 'u' :: 'l' :: 'l' :: null.rest := by
          rw [same]
          exact congrArg _ isNull
        exact ⟨_, _, blanks, .null (.of_skipBlanks (skipped.trans word)),
          .of_skipBlanks (closes ▸ closing)⟩
      · exact absurd reads not_reads_error
    · exact absurd reads not_reads_error
  · rintro ⟨value, after, blanks, ⟨word⟩, closing⟩
    have skips := word.skipBlanks_cons rfl
    have closes := closing.skipBlanks_cons rfl
    obtain ⟨colon, readColon, -, rfl⟩ := reads_colon.mpr blanks
    refine reads_bind.mpr ⟨colon, readColon, (reads_behind skips).mpr ?_⟩
    have shorter := length_lt_of_skipBlanks skips
    obtain ⟨null, readNull, -, rfl⟩ : Reads (literal () ['u', 'l', 'l'] shorter) () after :=
      reads_literal.mpr ⟨rfl, rfl⟩
    rw [if_pos rfl]
    refine reads_bind.mpr ⟨null, readNull, (reads_behind closes).mpr ?_⟩
    rw [if_pos rfl]
    exact reads_ok.mpr ⟨rfl, rfl⟩

/-- **A choice in the form of an object**: its only key, and what ends it. -/
theorem written_variant_iff {key : List Element} :
    Tree.Written (.object [(key, .null)]) text rest ↔ ∃ inside quoted after,
      Blanks text ('\x7b' :: inside) ∧ Blanks inside ('"' :: quoted) ∧ Quoted key quoted after ∧
        Reads (choiceEnd after) () rest := by
  simp only [reads_choiceEnd]
  constructor
  · intro written
    cases written with
    | object opens members =>
      cases members with
      | member separated keyed null closed =>
        obtain ⟨start, quoted, colon⟩ := keyed
        cases separated with
        | first blanks =>
          cases closed with
          | closed closes =>
            exact ⟨_, _, _, opens, blanks.trans start, quoted, _, _, colon, null, closes⟩
  · rintro ⟨inside, quoted, after, opens, start, isKey, _, _, colon, null, closes⟩
    exact .object opens (.member (.first (.refl _)) (.mk start isKey colon) null (.closed closes))

/-- **A choice is recognized** in both of its forms. -/
theorem recognizes_choice (names : List (String × α)) :
    Recognizes (choice names) (Tree.choice? names) where
  sound {text value rest} reads := by
    obtain ⟨c, after, skipped, reads⟩ := exists_of_reads_behind reads
    dsimp only at reads
    split at reads
    · rename_i quote
      obtain ⟨name, readName, reads⟩ := reads_bind.mp reads
      obtain ⟨rfl, rfl⟩ := reads_ok.mp reads
      obtain ⟨elements, quoted, means⟩ := reads_named.mp ⟨name, readName, rfl, rfl⟩
      exact ⟨_, .string (.of_skipBlanks (quote ▸ skipped)) quoted, means⟩
    split at reads
    · rename_i opens
      obtain ⟨d, inside, opened, reads⟩ := exists_of_reads_behind reads
      split at reads
      · exact absurd reads not_reads_error
      split at reads
      · rename_i quote
        obtain ⟨name, readName, reads⟩ := reads_bind.mp reads
        obtain ⟨ends, readEnd, reads⟩ := reads_bind.mp reads
        obtain ⟨rfl, rfl⟩ := reads_ok.mp reads
        obtain ⟨elements, quoted, means⟩ := reads_named.mp ⟨name, readName, rfl, rfl⟩
        have isVariant := written_variant_iff.mpr ⟨_, _, _, .of_skipBlanks (opens ▸ skipped),
          .of_skipBlanks (quote ▸ opened), quoted, ends, readEnd, rfl, rfl⟩
        exact ⟨_, isVariant, means⟩
      · exact absurd reads not_reads_error
    · exact absurd reads not_reads_error
  complete {tree text value rest} written _ means := by
    obtain ⟨elements, rfl, means⟩ | ⟨key, rfl, means⟩ := Tree.choice?_eq_some_iff.mp means
    · cases written with
      | string blanks quoted =>
        obtain ⟨name, readName, rfl, rfl⟩ := reads_named.mpr ⟨elements, quoted, means⟩
        refine (reads_behind (blanks.skipBlanks_cons rfl)).mpr ?_
        rw [if_pos rfl]
        exact reads_bind.mpr ⟨name, readName, reads_ok.mpr ⟨rfl, rfl⟩⟩
    · obtain ⟨inside, quoted, after, opens, start, isKey, isEnd⟩ := written_variant_iff.mp written
      obtain ⟨name, readName, rfl, rfl⟩ := reads_named.mpr ⟨key, isKey, means⟩
      obtain ⟨ends, readEnd, -, rfl⟩ := isEnd
      refine (reads_behind (opens.skipBlanks_cons rfl)).mpr ?_
      rw [if_neg (by decide), if_pos rfl]
      refine (reads_behind (start.skipBlanks_cons rfl)).mpr ?_
      rw [if_neg (by decide), if_pos rfl]
      exact reads_bind.mpr ⟨name, readName, reads_bind.mpr ⟨ends, readEnd, reads_ok.mpr ⟨rfl, rfl⟩⟩⟩

/-- A value that is no null starts with no `n`. -/
theorem Tree.Written.eq_null {tree : Tree} {after : List Char} (written : tree.Written text rest)
    (skipped : skipBlanks text = 'n' :: after) : tree = .null := by
  cases written with
  | null _ => rfl
  | true blanks => cases (blanks.skipBlanks_cons rfl).symm.trans skipped
  | false blanks => cases (blanks.skipBlanks_cons rfl).symm.trans skipped
  | string blanks _ => cases (blanks.skipBlanks_cons rfl).symm.trans skipped
  | list blanks _ => cases (blanks.skipBlanks_cons rfl).symm.trans skipped
  | object blanks _ => cases (blanks.skipBlanks_cons rfl).symm.trans skipped
  | number blanks written =>
    cases written with
    | negative _ _ => cases (blanks.skipBlanks_cons rfl).symm.trans skipped
    | positive _ unsigned =>
      obtain ⟨c, after, rfl, digit⟩ := unsigned.starts
      cases (blanks.skipBlanks_cons (isSpace_of_isDigit digit)).symm.trans skipped
      cases digit

theorem Tree.optional?_of_ne_null {tree : Tree} (noNull : tree ≠ .null)
    (meaning : Tree → Option α) : tree.optional? meaning = (meaning tree).map some := by
  cases tree with
  | null => exact absurd rfl noNull
  | _ => rfl

/-- **An optional value is recognized**, a null before anything else. -/
theorem recognizes_optional {reading : Reading α} {meaning : Tree → Option α}
    (recognizes : Recognizes reading meaning) :
    Recognizes (optional reading) (Tree.optional? meaning) where
  sound {text value rest} reads := by
    rw [optional.eq_def] at reads
    split at reads
    · rename_i after skipped
      obtain ⟨rfl, rfl⟩ := reads_literal.mp reads
      exact ⟨.null, .null (.of_skipBlanks skipped), rfl⟩
    · rename_i other
      obtain ⟨found, read, reads⟩ := reads_bind.mp reads
      obtain ⟨rfl, rfl⟩ := reads_ok.mp reads
      obtain ⟨tree, written, means⟩ := recognizes.sound ⟨found, read, rfl, rfl⟩
      have noNull : tree ≠ .null := by
        rintro rfl
        obtain ⟨blanks⟩ := written
        exact other _ (blanks.skipBlanks_cons rfl)
      refine ⟨tree, written, ?_⟩
      rw [Tree.optional?_of_ne_null noNull, means]
      rfl
  complete {tree text value rest} written delimited means := by
    rw [optional.eq_def]
    split
    · rename_i after skipped
      obtain rfl := written.eq_null skipped
      obtain rfl := Option.some.inj means
      obtain ⟨blanks⟩ := written
      have same := List.tail_eq_of_cons_eq ((blanks.skipBlanks_cons rfl).symm.trans skipped)
      exact reads_literal.mpr ⟨rfl, same.symm⟩
    · rename_i other
      have noNull : tree ≠ .null := by
        rintro rfl
        obtain ⟨blanks⟩ := written
        exact other _ (blanks.skipBlanks_cons rfl)
      rw [Tree.optional?_of_ne_null noNull] at means
      obtain ⟨meant, isMeant, rfl⟩ := Option.map_eq_some_iff.mp means
      obtain ⟨found, read, rfl, rfl⟩ := recognizes.complete written delimited isMeant
      exact reads_bind.mpr ⟨found, read, reads_ok.mpr ⟨rfl, rfl⟩⟩

/-- **The value of a field is recognized** as what it puts into the record. -/
theorem recognizes_field {ρ : Type} {reading : Reading α} {meaning : Tree → Option α}
    (recognizes : Recognizes reading meaning) (key : String) (put : α → ρ → ρ) :
    Recognizes (Field.of key reading put).read fun tree => (meaning tree).map put where
  sound {text value rest} reads := by
    obtain ⟨found, read, reads⟩ := reads_bind.mp reads
    obtain ⟨rfl, rfl⟩ := reads_ok.mp reads
    obtain ⟨tree, written, means⟩ := recognizes.sound ⟨found, read, rfl, rfl⟩
    exact ⟨tree, written, Option.map_eq_some_iff.mpr ⟨found.value, means, rfl⟩⟩
  complete {tree text value rest} written delimited means := by
    obtain ⟨meant, isMeant, rfl⟩ := Option.map_eq_some_iff.mp means
    obtain ⟨found, read, rfl, rfl⟩ := recognizes.complete written delimited isMeant
    exact reads_bind.mpr ⟨found, read, reads_ok.mpr ⟨rfl, rfl⟩⟩

end SourceScan.Json
