import SourceScan.Json.Skip
import SourceScan.Proofs.Json.Numeral
import SourceScan.Proofs.Json.Text

/-!
# Proofs/Json/Skip — values that nobody asks for

A value that nobody asks for is read just where one is written, however deep its brackets go.  Which
of the readings goes on is known from the first character behind the blanks.

* `reads_skipValue`, `reads_skipInside` — a value, and the inside of a bracket, by what they start
  with.
* `written_of_skipValue`, `inside_of_skipInside` — what is read is written.
* `Tree.Written.skipValue`, `Items.skipInside`, `Members.skipInside` — what is written is read.
-/

namespace SourceScan.Json

variable {text rest : List Char}

/-- **A key that nobody asks for** is read with its colon. -/
theorem reads_skipKey : Reads (skipKey text) () rest ↔ ∃ key, Keyed key text rest := by
  constructor
  · intro reads
    obtain ⟨c, after, skipped, reads⟩ := exists_of_reads_behind reads
    split at reads
    · rename_i quote
      obtain ⟨key, readKey, reads⟩ := reads_bind.mp reads
      obtain ⟨colon, readColon, reads⟩ := reads_bind.mp reads
      obtain ⟨-, rfl⟩ := reads_ok.mp reads
      obtain ⟨elements, quoted⟩ := reads_skipText.mp ⟨key, readKey, rfl, rfl⟩
      rw [quote] at skipped
      exact ⟨elements, .mk (skipped ▸ blanks_skipBlanks text) quoted
        (reads_colon.mp ⟨colon, readColon, rfl, rfl⟩)⟩
    · exact absurd reads not_reads_error
  · rintro ⟨elements, blanks, quoted, beforeColon⟩
    obtain ⟨key, readKey, -, rfl⟩ := reads_skipText.mpr ⟨elements, quoted⟩
    obtain ⟨colon, readColon, -, rfl⟩ := reads_colon.mpr beforeColon
    refine (reads_behind (blanks.skipBlanks_cons rfl)).mpr ?_
    rw [if_pos rfl]
    exact reads_bind.mpr ⟨key, readKey, reads_bind.mpr ⟨colon, readColon, reads_ok.mpr ⟨rfl, rfl⟩⟩⟩

/-- **In front of the value of an entry**: its key in an object, and nothing in a list. -/
def Lead : Bracket → List Char → List Char → Prop
  | .list, text, rest => text = rest
  | .object, text, rest => ∃ key, Keyed key text rest

theorem leaves_skipLead {bracket : Bracket} :
    Leaves (skipLead bracket text) () rest ↔ Lead bracket text rest := by
  cases bracket with
  | list => exact leaves_ok.trans ⟨fun found => found.2, fun same => ⟨rfl, same⟩⟩
  | object =>
    rw [skipLead, leaves_bind, Lead, ← reads_skipKey]
    constructor
    · rintro ⟨key, read, leaves⟩
      exact ⟨key, read, rfl, (leaves_ok.mp leaves).2⟩
    · rintro ⟨key, read, -, left⟩
      exact ⟨key, read, leaves_ok.mpr ⟨rfl, left⟩⟩

theorem ne_of_isDigit {c other : Char} (digit : c.isDigit = true)
    (noDigit : other.isDigit = false) : c ≠ other := by
  rintro rfl
  exact Bool.noConfusion (digit.symm.trans noDigit)

/-- **How a value that nobody asks for is read**, by its first character. -/
theorem reads_skipValue {c : Char} {after : List Char} (skipped : skipBlanks text = c :: after) :
    Reads (skipValue text) () rest ↔
      (c = 'n' ∧ after = 'u' :: 'l' :: 'l' :: rest) ∨
      (c = 't' ∧ after = 'r' :: 'u' :: 'e' :: rest) ∨
      (c = 'f' ∧ after = 'a' :: 'l' :: 's' :: 'e' :: rest) ∨
      (c = '-' ∧ Reads (skipNumeral after) () rest) ∨
      (c.isDigit = true ∧ Reads (skipNumeral (c :: after)) () rest) ∨
      (c = '"' ∧ Reads (skipText after) () rest) ∨
      (c = '[' ∧ Reads (skipInside .list true after) () rest) ∨
      (c = '\x7b' ∧ Reads (skipInside .object true after) () rest) := by
  rw [skipValue.eq_def]
  refine (reads_behind skipped).trans ?_
  dsimp only
  split
  · rename_i same
    subst same
    simp [reads_literal]
  split
  · rename_i same
    subst same
    simp [reads_literal]
  split
  · rename_i same
    subst same
    simp [reads_literal]
  split
  · rename_i same
    subst same
    refine Iff.trans reads_bind_ok ?_
    simp
  rename_i noNull noTrue noFalse noMinus
  split
  · rename_i digit
    refine Iff.trans reads_bind_ok ?_
    simp [noNull, noTrue, noFalse, noMinus, digit, ne_of_isDigit digit]
  rename_i noDigit
  split
  · rename_i same
    subst same
    refine Iff.trans reads_bind_ok ?_
    simp
  split
  · rename_i same
    subst same
    refine Iff.trans reads_bind_ok ?_
    simp
  split
  · rename_i same
    subst same
    refine Iff.trans reads_bind_ok ?_
    simp
  · simp [*]

/-- **How an entry that nobody asks for is read**, and the inside of the bracket after it. -/
theorem reads_skipEntry {bracket : Bracket} {start : List Char}
    {take : (lead : Part start Unit) → (value : Read lead.rest Unit) → Read value.rest Unit →
      Read text Unit} (same : ∀ lead value inside, (take lead value inside).rest = inside.rest) :
    Reads (skipLead bracket start >>= fun lead => skipValue lead.rest >>= fun value =>
        skipInside bracket false value.rest >>= fun inside => .ok (take lead value inside))
        () rest ↔
      ∃ keyed after, Lead bracket start keyed ∧ Reads (skipValue keyed) () after ∧
        Reads (skipInside bracket false after) () rest := by
  simp only [reads_bind, reads_ok, same, true_and]
  constructor
  · rintro ⟨lead, readLead, value, readValue, inside, readInside, left⟩
    exact ⟨lead.rest, value.rest, leaves_skipLead.mp ⟨lead, readLead, rfl, rfl⟩,
      ⟨value, readValue, rfl, rfl⟩, ⟨inside, readInside, rfl, left⟩⟩
  · rintro ⟨keyed, after, isLead, isValue, isInside⟩
    obtain ⟨lead, readLead, -, rfl⟩ := leaves_skipLead.mpr isLead
    obtain ⟨value, readValue, -, rfl⟩ := isValue
    obtain ⟨inside, readInside, -, left⟩ := isInside
    exact ⟨lead, readLead, value, readValue, inside, readInside, left⟩

/-- **How the inside of a bracket that nobody asks for is read**: its end, or an entry and the
inside after it. -/
theorem reads_skipInside {bracket : Bracket} {opened : Bool} {c : Char} {next : List Char}
    (skipped : skipBlanks text = c :: next) :
    Reads (skipInside bracket opened text) () rest ↔
      (c = bracket.closer ∧ next = rest) ∨
      (c ≠ bracket.closer ∧ ∃ start,
        (opened = true ∧ start = c :: next ∨ opened = false ∧ c = ',' ∧ start = next) ∧
        ∃ keyed after, Lead bracket start keyed ∧ Reads (skipValue keyed) () after ∧
          Reads (skipInside bracket false after) () rest) := by
  rw [skipInside.eq_def]
  refine (reads_behind skipped).trans ?_
  dsimp only
  split
  · rename_i closes
    simp [closes]
  rename_i noEnd
  split
  · rename_i first
    refine Iff.trans (reads_skipEntry fun _ _ _ => rfl) ?_
    simp [noEnd, first]
  rename_i noFirst
  split
  · rename_i comma
    subst comma
    refine Iff.trans (reads_skipEntry fun _ _ _ => rfl) ?_
    simp [noEnd, noFirst, Part.ofRead]
  · rename_i noComma
    refine iff_of_false not_reads_error ?_
    simp [noEnd, noFirst, noComma]

/-! ## Reading what is written -/

/-- **The inside of a bracket**, of either kind. -/
def Inside : Bracket → Bool → List Char → List Char → Prop
  | .list, opened, text, rest => ∃ items, Items opened items text rest
  | .object, opened, text, rest => ∃ members, Members opened members text rest

theorem Inside.closed {bracket : Bracket} {opened : Bool}
    (blanks : Blanks text (bracket.closer :: rest)) : Inside bracket opened text rest := by
  cases bracket with
  | list => exact ⟨[], .closed blanks⟩
  | object => exact ⟨[], .closed blanks⟩

theorem Inside.entry {bracket : Bracket} {opened : Bool} {start keyed after : List Char}
    {tree : Tree} (separated : Separated opened text start) (lead : Lead bracket start keyed)
    (value : tree.Written keyed after) (inside : Inside bracket false after rest) :
    Inside bracket opened text rest := by
  cases bracket with
  | list =>
    obtain rfl := lead
    obtain ⟨items, inside⟩ := inside
    exact ⟨tree :: items, .item separated value inside⟩
  | object =>
    obtain ⟨key, lead⟩ := lead
    obtain ⟨members, inside⟩ := inside
    exact ⟨(key, tree) :: members, .member separated lead value inside⟩

/-- There is no value in a text of blanks. -/
theorem not_reads_skipValue (skipped : skipBlanks text = []) :
    ¬ Reads (skipValue text) () rest := by
  rw [skipValue.eq_def]
  intro reads
  obtain ⟨_, _, other, -⟩ := exists_of_reads_behind reads
  cases skipped.symm.trans other

/-- There is no end of a bracket in a text of blanks. -/
theorem not_reads_skipInside {bracket : Bracket} {opened : Bool} (skipped : skipBlanks text = []) :
    ¬ Reads (skipInside bracket opened text) () rest := by
  rw [skipInside.eq_def]
  intro reads
  obtain ⟨_, _, other, -⟩ := exists_of_reads_behind reads
  cases skipped.symm.trans other

mutual

/-- **A value that nobody asks for** is read where one is written. -/
theorem written_of_skipValue {text rest : List Char} (reads : Reads (skipValue text) () rest) :
    ∃ tree : Tree, tree.Written text rest := by
  cases skipped : skipBlanks text with
  | nil => exact absurd reads (not_reads_skipValue skipped)
  | cons c after =>
    have blanks := Blanks.of_skipBlanks skipped
    have shorter := length_lt_of_skipBlanks skipped
    obtain ⟨rfl, rfl⟩ | ⟨rfl, rfl⟩ | ⟨rfl, rfl⟩ | ⟨rfl, number⟩ | ⟨digit, number⟩ | ⟨rfl, string⟩ |
      ⟨rfl, inside⟩ | ⟨rfl, inside⟩ := (reads_skipValue skipped).mp reads
    · exact ⟨_, .null blanks⟩
    · exact ⟨_, .true blanks⟩
    · exact ⟨_, .false blanks⟩
    · obtain ⟨figures, minus, unsigned⟩ := unsigned_of_skipNumeral number true
      exact ⟨_, .number blanks (.negative minus unsigned)⟩
    · obtain ⟨figures, minus, unsigned⟩ := unsigned_of_skipNumeral number false
      exact ⟨_, .number blanks (.positive minus unsigned)⟩
    · obtain ⟨elements, quoted⟩ := reads_skipText.mp string
      exact ⟨_, .string blanks quoted⟩
    · obtain ⟨items, written⟩ := inside_of_skipInside inside
      exact ⟨_, .list blanks written⟩
    · obtain ⟨members, written⟩ := inside_of_skipInside inside
      exact ⟨_, .object blanks written⟩
termination_by 2 * text.length

/-- **The inside of a bracket that nobody asks for** is read where one is written. -/
theorem inside_of_skipInside {bracket : Bracket} {opened : Bool} {text rest : List Char}
    (reads : Reads (skipInside bracket opened text) () rest) : Inside bracket opened text rest := by
  cases skipped : skipBlanks text with
  | nil => exact absurd reads (not_reads_skipInside skipped)
  | cons c next =>
    have blanks := Blanks.of_skipBlanks skipped
    have shorter := length_lt_of_skipBlanks skipped
    obtain ⟨rfl, rfl⟩ | ⟨-, start, starts, keyed, after, lead, value, inside⟩ :=
      (reads_skipInside skipped).mp reads
    · exact .closed blanks
    · obtain ⟨separated, noLonger⟩ :
          Separated opened text start ∧ start.length ≤ text.length := by
        obtain ⟨rfl, rfl⟩ | ⟨rfl, rfl, rfl⟩ := starts
        · exact ⟨.first blanks, shorter⟩
        · exact ⟨.comma blanks (.refl _), Nat.le_of_lt shorter⟩
      have := (leaves_skipLead.mpr lead).noLonger
      have := value.shorter
      obtain ⟨tree, value⟩ := written_of_skipValue value
      exact .entry separated lead value (inside_of_skipInside inside)
termination_by 2 * text.length + 1

end

/-- **How an entry starts**: with no end of its bracket, and whatever blanks are in front of it. -/
theorem Lead.starts {bracket : Bracket} {keyed after : List Char} (lead : Lead bracket text keyed)
    (value : Reads (skipValue keyed) () after) :
    ∃ c next, skipBlanks text = c :: next ∧ c ≠ bracket.closer ∧
      ∀ start, skipBlanks start = c :: next →
        ∃ keyed, Lead bracket start keyed ∧ Reads (skipValue keyed) () after := by
  cases bracket with
  | list =>
    obtain rfl := lead
    cases skipped : skipBlanks text with
    | nil => exact absurd value (not_reads_skipValue skipped)
    | cons c next =>
      have starts := (reads_skipValue skipped).mp value
      refine ⟨c, next, rfl, ?_, fun start skips => ⟨start, rfl, (reads_skipValue skips).mpr starts⟩⟩
      rintro rfl
      simp [Bracket.closer] at starts
  | object =>
    obtain ⟨key, blanks, quoted, colon⟩ := lead
    exact ⟨_, _, blanks.skipBlanks_cons rfl, by decide, fun start skips =>
      ⟨_, ⟨key, .mk (.of_skipBlanks skips) quoted colon⟩, value⟩⟩

/-- **The inside of a bracket is read** if an entry is, and the inside after it. -/
theorem reads_skipInside_of_entry {bracket : Bracket} {opened : Bool}
    {start keyed after : List Char} (separated : Separated opened text start)
    (lead : Lead bracket start keyed) (value : Reads (skipValue keyed) () after)
    (inside : Reads (skipInside bracket false after) () rest) :
    Reads (skipInside bracket opened text) () rest := by
  obtain ⟨c, next, skipped, noEnd, starts⟩ := lead.starts value
  cases separated with
  | first blanks =>
    obtain ⟨keyed, lead, value⟩ := starts (c :: next) (skipBlanks_of_skipBlanks skipped)
    exact (reads_skipInside (blanks.skipBlanks_eq.trans skipped)).mpr
      (.inr ⟨noEnd, _, .inl ⟨rfl, rfl⟩, keyed, after, lead, value, inside⟩)
  | @comma _ middle _ before behind =>
    obtain ⟨keyed, lead, value⟩ := starts middle (behind.skipBlanks_eq.trans skipped)
    have comma : ',' ≠ bracket.closer := by cases bracket <;> decide
    exact (reads_skipInside (before.skipBlanks_cons rfl)).mpr
      (.inr ⟨comma, middle, .inr ⟨rfl, rfl, rfl⟩, keyed, after, lead, value, inside⟩)

/-- Blanks in front of what ends a number end it. -/
theorem Blanks.delimited (blanks : Blanks text rest) (delimited : Delimited rest) :
    Delimited text := by
  obtain ⟨gap, all, rfl⟩ := blanks
  cases gap with
  | nil => exact delimited
  | cons c gap =>
    have blank := all c List.mem_cons_self
    intro c' head
    obtain rfl := Option.some.inj head
    simp only [List.mem_cons, List.not_mem_nil, or_false] at blank
    obtain rfl | rfl | rfl | rfl := blank <;> decide

/-- Behind an item, no number goes on. -/
theorem Items.delimited {items : List Tree} (written : Items false items text rest) :
    Delimited text := by
  cases written with
  | closed blanks => exact blanks.delimited (by simp [Delimited])
  | item separated _ _ =>
    cases separated with
    | comma blanks _ => exact blanks.delimited (by simp [Delimited])

/-- Behind a member, no number goes on. -/
theorem Members.delimited {members : List (List Element × Tree)}
    (written : Members false members text rest) : Delimited text := by
  cases written with
  | closed blanks => exact blanks.delimited (by simp [Delimited])
  | member separated _ _ _ =>
    cases separated with
    | comma blanks _ => exact blanks.delimited (by simp [Delimited])

mutual

/-- **A value that nobody asks for is read** up to where it ends. -/
theorem Tree.Written.skipValue {tree : Tree} {text rest : List Char}
    (written : tree.Written text rest) (delimited : Delimited rest) :
    Reads (skipValue text) () rest := by
  cases written with
  | null blanks => exact (reads_skipValue (blanks.skipBlanks_cons rfl)).mpr (by simp)
  | true blanks => exact (reads_skipValue (blanks.skipBlanks_cons rfl)).mpr (by simp)
  | false blanks => exact (reads_skipValue (blanks.skipBlanks_cons rfl)).mpr (by simp)
  | number blanks written =>
    cases written with
    | positive _ unsigned =>
      have number := unsigned.skipNumeral delimited
      obtain ⟨c, after, rfl, digit⟩ := unsigned.starts
      have noBlank : isSpace c = false := isSpace_of_isDigit digit
      exact (reads_skipValue (blanks.skipBlanks_cons noBlank)).mpr (by simp [digit, number])
    | negative _ unsigned =>
      have number := unsigned.skipNumeral delimited
      exact (reads_skipValue (blanks.skipBlanks_cons rfl)).mpr (by simp [number])
  | string blanks quoted =>
    have string := reads_skipText.mpr ⟨_, quoted⟩
    exact (reads_skipValue (blanks.skipBlanks_cons rfl)).mpr (by simp [string])
  | list blanks items =>
    have inside := items.skipInside
    exact (reads_skipValue (blanks.skipBlanks_cons rfl)).mpr (by simp [inside])
  | object blanks members =>
    have inside := members.skipInside
    exact (reads_skipValue (blanks.skipBlanks_cons rfl)).mpr (by simp [inside])

/-- **The inside of a list that nobody asks for is read.** -/
theorem Items.skipInside {opened : Bool} {items : List Tree} {text rest : List Char}
    (written : Items opened items text rest) : Reads (skipInside .list opened text) () rest := by
  cases written with
  | closed blanks => exact (reads_skipInside (blanks.skipBlanks_cons rfl)).mpr (.inl ⟨rfl, rfl⟩)
  | item separated value items =>
    exact reads_skipInside_of_entry separated rfl (value.skipValue items.delimited) items.skipInside

/-- **The inside of an object that nobody asks for is read.** -/
theorem Members.skipInside {opened : Bool} {members : List (List Element × Tree)}
    {text rest : List Char} (written : Members opened members text rest) :
    Reads (skipInside .object opened text) () rest := by
  cases written with
  | closed blanks => exact (reads_skipInside (blanks.skipBlanks_cons rfl)).mpr (.inl ⟨rfl, rfl⟩)
  | member separated keyed value members =>
    exact reads_skipInside_of_entry separated ⟨_, keyed⟩ (value.skipValue members.delimited)
      members.skipInside

end

end SourceScan.Json
