import SourceScan.Proofs.Json.Record

/-!
# Proofs/Json/Unique — a text is written as one tree

The grammar is not ambiguous: a text that starts with a writing of a tree starts with a writing of
no other, and the two end at one place.  Which value it is shows in its first character behind the
blanks; a bracket and a string end where they close, and only a number must be told where it ends.

* `Element.Written.unique`, `Quoted.unique`, `Figures.Unsigned.unique` — strings and numbers.
* `Tree.cases_of_written` — a value, by the character it starts with.
* `Tree.Written.unique`, `Items.unique`, `Members.unique` — values and the insides of brackets.
* `Document.unique` — a document has one tree.
-/

namespace SourceScan.Json

variable {α : Type} {text text' rest rest' : List Char}

/-- **A reading finds one value** and leaves one rest. -/
theorem Reads.unique {result : Except Fault (Read text α)} {value value' : α}
    (reads : Reads result value rest) (reads' : Reads result value' rest') :
    value = value' ∧ rest = rest' := by
  obtain ⟨read, found, rfl, rfl⟩ := reads
  obtain ⟨read', found', rfl, rfl⟩ := reads'
  obtain rfl := Except.ok.inj (found.symm.trans found')
  exact ⟨rfl, rfl⟩

/-- A part that is read is one. -/
theorem Leaves.unique {result : Except Fault (Part text α)} {value value' : α}
    (leaves : Leaves result value rest) (leaves' : Leaves result value' rest') :
    value = value' ∧ rest = rest' := by
  obtain ⟨part, found, rfl, rfl⟩ := leaves
  obtain ⟨part', found', rfl, rfl⟩ := leaves'
  obtain rfl := Except.ok.inj (found.symm.trans found')
  exact ⟨rfl, rfl⟩

/-! ## Strings -/

/-- **An element is one**: its first characters say of which form it is. -/
theorem Element.Written.unique {first other : Element} (written : first.Written text rest)
    (written' : other.Written text rest') : first = other ∧ rest = rest' := by
  cases written with
  | plain _ _ notBackslash =>
    cases written' with
    | plain _ _ _ => exact ⟨rfl, rfl⟩
    | short _ => exact absurd rfl notBackslash
    | code _ => exact absurd rfl notBackslash
  | short stands =>
    cases written' with
    | plain _ _ notBackslash => exact absurd rfl notBackslash
    | short stands' =>
      rw [← lookup_escaped_eq_some_iff] at stands stands'
      rw [Option.some.inj (stands.symm.trans stands')]
      exact ⟨rfl, rfl⟩
    | code _ => cases stands
  | code hex =>
    cases written' with
    | plain _ _ notBackslash => exact absurd rfl notBackslash
    | short stands => cases stands
    | code hex' =>
      obtain ⟨rfl, rfl⟩ := (reads_hex4.mpr hex).unique (reads_hex4.mpr hex')
      exact ⟨rfl, rfl⟩

/-- No element starts with a quote. -/
theorem Element.Written.ne_quote {first : Element} : ¬ first.Written ('"' :: text) rest := by
  rintro (_ | _ | _)
  contradiction

/-- **A string is one**, and ends at the first quote that is no part of an element. -/
theorem Quoted.unique {elements elements' : List Element} (quoted : Quoted elements text rest)
    (quoted' : Quoted elements' text rest') : elements = elements' ∧ rest = rest' := by
  induction quoted generalizing elements' with
  | closed =>
    cases quoted' with
    | closed => exact ⟨rfl, rfl⟩
    | part first _ => exact absurd first Element.Written.ne_quote
  | part first _ ih =>
    cases quoted' with
    | closed => exact absurd first Element.Written.ne_quote
    | part first' others' =>
      obtain ⟨rfl, rfl⟩ := first.unique first'
      obtain ⟨rfl, rfl⟩ := ih others'
      exact ⟨rfl, rfl⟩

/-! ## Numbers -/

/-- **A run of digits is one** if no digit follows. -/
theorem Digits.unique {digits digits' : List Char} (run : Digits digits text rest)
    (run' : Digits digits' text rest') (ends : Json.startsWithDigit rest = false)
    (ends' : Json.startsWithDigit rest' = false) : digits = digits' ∧ rest = rest' := by
  obtain ⟨-, all, rfl⟩ := run
  obtain ⟨-, all', same⟩ := run'
  obtain ⟨front, back⟩ := leadingDigits_append all ends
  obtain ⟨front', back'⟩ := leadingDigits_append all' ends'
  rw [same] at front back
  exact ⟨front.symm.trans front', back.symm.trans back'⟩

/-- **An exponent is one** if the number ends behind it. -/
theorem Exponent.unique {exponent exponent' : Option (Bool × List Char)}
    (written : Exponent exponent text rest) (written' : Exponent exponent' text rest')
    (delimited : Delimited rest) (delimited' : Delimited rest') :
    exponent = exponent' ∧ rest = rest' := by
  have noMark {mark : Char} (isMark : mark = 'e' ∨ mark = 'E') {after : List Char} :
      ¬ Delimited (mark :: after) := by
    intro delimited
    obtain ⟨-, -, small, large⟩ := delimited mark rfl
    exact isMark.elim small large
  cases written with
  | none =>
    cases written' with
    | none => exact ⟨rfl, rfl⟩
    | marked mark _ _ => exact absurd delimited (noMark mark)
  | marked mark sign run =>
    cases written' with
    | none => exact absurd delimited' (noMark mark)
    | marked mark' sign' run' =>
      obtain ⟨minus, unsigned⟩ := sign.signOf run.startsWithDigit
      obtain ⟨minus', unsigned'⟩ := sign'.signOf run'.startsWithDigit
      obtain rfl := minus.symm.trans minus'
      obtain rfl := unsigned.symm.trans unsigned'
      obtain ⟨rfl, rfl⟩ :=
        run.unique run' delimited.startsWithDigit delimited'.startsWithDigit
      exact ⟨rfl, rfl⟩

/-- **A number without its sign is one** if it ends where the rest starts. -/
theorem Figures.Unsigned.unique {figures figures' : Figures}
    (written : figures.Unsigned text rest) (written' : figures'.Unsigned text rest')
    (minus : figures.minus = figures'.minus) (delimited : Delimited rest)
    (delimited' : Delimited rest') : figures = figures' ∧ rest = rest' := by
  obtain ⟨_, whole, fraction, exponent⟩ := figures
  obtain ⟨_, whole', fraction', exponent'⟩ := figures'
  obtain ⟨⟨_, _, isWhole, isFraction, isExponent⟩, zero⟩ := written
  obtain ⟨⟨_, _, isWhole', isFraction', isExponent'⟩, zero'⟩ := written'
  obtain ⟨ends, noPoint⟩ := isExponent.starts delimited
  obtain ⟨ends', noPoint'⟩ := isExponent'.starts delimited'
  obtain rfl : _ = _ := minus
  obtain ⟨rfl, rfl⟩ := (isWhole.whole zero (isFraction.startsWithDigit ends)).unique
    (isWhole'.whole zero' (isFraction'.startsWithDigit ends'))
  obtain ⟨rfl, rfl⟩ := (isFraction.fraction ends noPoint).unique
    (isFraction'.fraction ends' noPoint')
  obtain ⟨rfl, rfl⟩ := isExponent.unique isExponent' delimited delimited'
  exact ⟨rfl, rfl⟩

/-! ## Values -/

/-- **A value by its first character.** -/
theorem Tree.cases_of_written {tree : Tree} {c : Char} {after : List Char}
    (written : tree.Written text rest) (skipped : skipBlanks text = c :: after) :
    (c = 'n' ∧ tree = .null ∧ after = 'u' :: 'l' :: 'l' :: rest) ∨
    (c = 't' ∧ tree = .bool true ∧ after = 'r' :: 'u' :: 'e' :: rest) ∨
    (c = 'f' ∧ tree = .bool false ∧ after = 'a' :: 'l' :: 's' :: 'e' :: rest) ∨
    (c = '-' ∧ ∃ figures : Figures, tree = .number figures ∧ figures.minus = true ∧
      figures.Unsigned after rest) ∨
    (c.isDigit = true ∧ ∃ figures : Figures, tree = .number figures ∧ figures.minus = false ∧
      figures.Unsigned (c :: after) rest) ∨
    (c = '"' ∧ ∃ elements, tree = .string elements ∧ Quoted elements after rest) ∨
    (c = '[' ∧ ∃ items, tree = .list items ∧ Items true items after rest) ∨
    (c = '\x7b' ∧ ∃ members, tree = .object members ∧ Members true members after rest) := by
  have starts {d : Char} {inner : List Char} (blanks : Blanks text (d :: inner))
      (noBlank : isSpace d = false) : c = d ∧ after = inner :=
    List.cons.inj (skipped.symm.trans (blanks.skipBlanks_cons noBlank))
  cases written with
  | null blanks =>
    obtain ⟨rfl, rfl⟩ := starts blanks rfl
    simp
  | true blanks =>
    obtain ⟨rfl, rfl⟩ := starts blanks rfl
    simp
  | false blanks =>
    obtain ⟨rfl, rfl⟩ := starts blanks rfl
    simp
  | number blanks written =>
    cases written with
    | positive minus unsigned =>
      obtain ⟨d, inner, rfl, digit⟩ := unsigned.starts
      obtain ⟨rfl, rfl⟩ := starts blanks (isSpace_of_isDigit digit)
      simp [digit, minus, unsigned]
    | negative minus unsigned =>
      obtain ⟨rfl, rfl⟩ := starts blanks rfl
      simp [minus, unsigned]
  | string blanks quoted =>
    obtain ⟨rfl, rfl⟩ := starts blanks rfl
    simp [quoted]
  | list blanks items =>
    obtain ⟨rfl, rfl⟩ := starts blanks rfl
    simp [items]
  | object blanks members =>
    obtain ⟨rfl, rfl⟩ := starts blanks rfl
    simp [members]

/-- **What separates entries** ends at one place, up to blanks. -/
theorem Separated.skipBlanks_eq {opened : Bool} {start start' : List Char}
    (separated : Separated opened text start) (separated' : Separated opened text start') :
    skipBlanks start = skipBlanks start' := by
  cases separated with
  | first blanks =>
    cases separated' with
    | first blanks' => exact blanks.skipBlanks_eq.symm.trans blanks'.skipBlanks_eq
  | comma before behind =>
    cases separated' with
    | comma before' behind' =>
      have same := (before.skipBlanks_cons rfl).symm.trans (before'.skipBlanks_cons rfl)
      rw [← behind.skipBlanks_eq, ← behind'.skipBlanks_eq, List.tail_eq_of_cons_eq same]

/-- **A bracket does not end** where an entry follows. -/
theorem Separated.not_closed (bracket : Bracket) {opened : Bool} {start next : List Char} {c : Char}
    (separated : Separated opened text start) (starts : skipBlanks start = c :: next)
    (noEnd : c ≠ bracket.closer) : ¬ Blanks text (bracket.closer :: rest) := by
  intro closes
  have skipped := closes.skipBlanks_cons (by cases bracket <;> rfl)
  cases separated with
  | first blanks =>
    exact noEnd (List.head_eq_of_cons_eq (starts.symm.trans
      (blanks.skipBlanks_eq.symm.trans skipped)))
  | comma before _ =>
    have same := List.head_eq_of_cons_eq ((before.skipBlanks_cons rfl).symm.trans skipped)
    cases bracket <;> cases same

/-- **A key is one.** -/
theorem Keyed.unique {key key' : List Element} (keyed : Keyed key text rest)
    (keyed' : Keyed key' text' rest') (same : skipBlanks text = skipBlanks text') :
    key = key' ∧ rest = rest' := by
  obtain ⟨start, quoted, colon⟩ := keyed
  obtain ⟨start', quoted', colon'⟩ := keyed'
  rw [start.skipBlanks_cons rfl, start'.skipBlanks_cons rfl] at same
  obtain rfl := List.tail_eq_of_cons_eq same
  obtain ⟨rfl, rfl⟩ := quoted.unique quoted'
  have colons := (colon.skipBlanks_cons rfl).symm.trans (colon'.skipBlanks_cons rfl)
  exact ⟨rfl, List.tail_eq_of_cons_eq colons⟩

/-- **A key starts with a quote.** -/
theorem Keyed.starts {key : List Element} (keyed : Keyed key text rest) :
    ∃ next, skipBlanks text = '"' :: next := by
  obtain ⟨start, -, -⟩ := keyed
  exact ⟨_, start.skipBlanks_cons rfl⟩

/-- **A list or an object.** -/
def Tree.Bracketed : Tree → Prop
  | .list _ | .object _ => True
  | _ => False

mutual

/-- **A value is one** if it is a bracket, or if no number goes on behind it. -/
theorem Tree.Written.unique {tree tree' : Tree} {text text' rest rest' : List Char}
    (written : tree.Written text rest) (written' : tree'.Written text' rest')
    (same : skipBlanks text = skipBlanks text')
    (ends : tree.Bracketed ∨ Delimited rest ∧ Delimited rest') : tree = tree' ∧ rest = rest' := by
  cases written with
  | null blanks =>
    have other := Tree.cases_of_written written' (same ▸ blanks.skipBlanks_cons rfl)
    obtain ⟨rfl, rfl⟩ : tree' = .null ∧ _ = rest' := by simpa using other
    exact ⟨rfl, rfl⟩
  | true blanks =>
    have other := Tree.cases_of_written written' (same ▸ blanks.skipBlanks_cons rfl)
    obtain ⟨rfl, rfl⟩ : tree' = .bool Bool.true ∧ _ = rest' := by simpa using other
    exact ⟨rfl, rfl⟩
  | false blanks =>
    have other := Tree.cases_of_written written' (same ▸ blanks.skipBlanks_cons rfl)
    obtain ⟨rfl, rfl⟩ : tree' = .bool Bool.false ∧ _ = rest' := by simpa using other
    exact ⟨rfl, rfl⟩
  | number blanks written =>
    obtain ⟨delimited, delimited'⟩ := ends.resolve_left id
    cases written with
    | positive minus unsigned =>
      obtain ⟨c, after, rfl, digit⟩ := unsigned.starts
      have other := Tree.cases_of_written written'
        (same ▸ blanks.skipBlanks_cons (isSpace_of_isDigit digit))
      obtain ⟨figures', rfl, minus', unsigned'⟩ : ∃ figures' : Figures, tree' = .number figures' ∧
          figures'.minus = Bool.false ∧ figures'.Unsigned (c :: after) rest' := by
        simpa [digit, ne_of_isDigit digit] using other
      obtain ⟨rfl, rfl⟩ :=
        unsigned.unique unsigned' (minus.trans minus'.symm) delimited delimited'
      exact ⟨rfl, rfl⟩
    | negative minus unsigned =>
      have other := Tree.cases_of_written written' (same ▸ blanks.skipBlanks_cons rfl)
      obtain ⟨figures', rfl, minus', unsigned'⟩ : ∃ figures' : Figures, tree' = .number figures' ∧
          figures'.minus = Bool.true ∧ figures'.Unsigned _ rest' := by simpa using other
      obtain ⟨rfl, rfl⟩ :=
        unsigned.unique unsigned' (minus.trans minus'.symm) delimited delimited'
      exact ⟨rfl, rfl⟩
  | string blanks quoted =>
    have other := Tree.cases_of_written written' (same ▸ blanks.skipBlanks_cons rfl)
    obtain ⟨elements', rfl, quoted'⟩ : ∃ elements', tree' = .string elements' ∧
        Quoted elements' _ rest' := by simpa using other
    obtain ⟨rfl, rfl⟩ := quoted.unique quoted'
    exact ⟨rfl, rfl⟩
  | list blanks items =>
    have other := Tree.cases_of_written written' (same ▸ blanks.skipBlanks_cons rfl)
    obtain ⟨items', rfl, inside'⟩ : ∃ items', tree' = .list items' ∧
        Items Bool.true items' _ rest' := by simpa using other
    obtain ⟨rfl, rfl⟩ := items.unique inside'
    exact ⟨rfl, rfl⟩
  | object blanks members =>
    have other := Tree.cases_of_written written' (same ▸ blanks.skipBlanks_cons rfl)
    obtain ⟨members', rfl, inside'⟩ : ∃ members', tree' = .object members' ∧
        Members Bool.true members' _ rest' := by simpa using other
    obtain ⟨rfl, rfl⟩ := members.unique inside'
    exact ⟨rfl, rfl⟩

/-- **The inside of a list is one.** -/
theorem Items.unique {opened : Bool} {items items' : List Tree} {text rest rest' : List Char}
    (written : Items opened items text rest) (written' : Items opened items' text rest') :
    items = items' ∧ rest = rest' := by
  cases written with
  | closed blanks =>
    cases written' with
    | closed blanks' =>
      have same := (blanks.skipBlanks_cons rfl).symm.trans (blanks'.skipBlanks_cons rfl)
      exact ⟨rfl, List.tail_eq_of_cons_eq same⟩
    | item separated' value' _ =>
      obtain ⟨c, next, starts, noEnd, -⟩ := value'.starts
      exact absurd blanks (separated'.not_closed .list starts noEnd)
  | item separated value items =>
    cases written' with
    | closed blanks' =>
      obtain ⟨c, next, starts, noEnd, -⟩ := value.starts
      exact absurd blanks' (separated.not_closed .list starts noEnd)
    | item separated' value' items' =>
      obtain ⟨rfl, rfl⟩ := value.unique value' (separated.skipBlanks_eq separated')
        (.inr ⟨items.delimited, items'.delimited⟩)
      obtain ⟨rfl, rfl⟩ := items.unique items'
      exact ⟨rfl, rfl⟩

/-- **The inside of an object is one.** -/
theorem Members.unique {opened : Bool} {members members' : List (List Element × Tree)}
    {text rest rest' : List Char} (written : Members opened members text rest)
    (written' : Members opened members' text rest') : members = members' ∧ rest = rest' := by
  cases written with
  | closed blanks =>
    cases written' with
    | closed blanks' =>
      have same := (blanks.skipBlanks_cons rfl).symm.trans (blanks'.skipBlanks_cons rfl)
      exact ⟨rfl, List.tail_eq_of_cons_eq same⟩
    | member separated' keyed' _ _ =>
      obtain ⟨next, starts⟩ := keyed'.starts
      exact absurd blanks (separated'.not_closed .object starts (by decide))
  | member separated keyed value members =>
    cases written' with
    | closed blanks' =>
      obtain ⟨next, starts⟩ := keyed.starts
      exact absurd blanks' (separated.not_closed .object starts (by decide))
    | member separated' keyed' value' members' =>
      obtain ⟨rfl, rfl⟩ := keyed.unique keyed' (separated.skipBlanks_eq separated')
      obtain ⟨rfl, rfl⟩ :=
        value.unique value' rfl (.inr ⟨members.delimited, members'.delimited⟩)
      obtain ⟨rfl, rfl⟩ := members.unique members'
      exact ⟨rfl, rfl⟩

end

/-- **A document has one tree.** -/
theorem Document.unique {tree tree' : Tree} (document : Document tree text)
    (document' : Document tree' text) : tree = tree' := by
  obtain ⟨rest, written, blanks⟩ := document
  obtain ⟨rest', written', blanks'⟩ := document'
  have delimited : Delimited rest := blanks.delimited (by simp [Delimited])
  have delimited' : Delimited rest' := blanks'.delimited (by simp [Delimited])
  exact (written.unique written' rfl (.inr ⟨delimited, delimited'⟩)).1

end SourceScan.Json
