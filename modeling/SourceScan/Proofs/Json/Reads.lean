import SourceScan.Proofs.Json.Grammar
import SourceScan.Json.Read

/-!
# Proofs/Json/Reads — what a reading leaves

A reading that succeeds has a value and leaves a rest.  Where the grammar allows only one rest, the
two are one statement: the reading has this value and leaves this rest exactly if the text is
written so.

* `Reads`, `Leaves` — the value and the rest of a reading, and of a part.
* `reads_bind`, `leaves_bind` — one reading after another.
* `Blanks.skipBlanks_eq`, `blanks_skipBlanks` — blanks are skipped.
* `match_skipBlanks`, `reads_behind`, `exists_of_reads_behind` — a reading that goes by what is
  behind the blanks.
* `leaves_word`, `reads_literal`, `reads_colon` — words and colons.
-/

namespace SourceScan.Json

variable {α β : Type} {text rest : List Char} {value : α}

/-- **What a reading has found**: a value, and what is left of the text. -/
def Reads (result : Except Fault (Read text α)) (value : α) (rest : List Char) : Prop :=
  ∃ read, result = .ok read ∧ read.value = value ∧ read.rest = rest

/-- **What a reading has found in a part** that may be empty. -/
def Leaves (result : Except Fault (Part text α)) (value : α) (rest : List Char) : Prop :=
  ∃ part, result = .ok part ∧ part.value = value ∧ part.rest = rest

/-- A reading leaves a shorter text. -/
theorem Reads.shorter {result : Except Fault (Read text α)} (reads : Reads result value rest) :
    rest.length < text.length := by
  obtain ⟨read, -, -, rfl⟩ := reads
  exact read.shorter

/-- A part leaves no longer text. -/
theorem Leaves.noLonger {result : Except Fault (Part text α)} (leaves : Leaves result value rest) :
    rest.length ≤ text.length := by
  obtain ⟨part, -, -, rfl⟩ := leaves
  exact part.noLonger

@[simp] theorem reads_ok {read : Read text α} :
    Reads (.ok read) value rest ↔ read.value = value ∧ read.rest = rest := by
  simp only [Reads, Except.ok.injEq, exists_eq_left']

@[simp] theorem leaves_ok {part : Part text α} :
    Leaves (.ok part) value rest ↔ part.value = value ∧ part.rest = rest := by
  simp only [Leaves, Except.ok.injEq, exists_eq_left']

@[simp] theorem not_reads_error {fault : Fault} :
    ¬ Reads (.error fault : Except Fault (Read text α)) value rest := by
  rintro ⟨_, impossible, -⟩
  cases impossible

@[simp] theorem not_leaves_error {fault : Fault} :
    ¬ Leaves (.error fault : Except Fault (Part text α)) value rest := by
  rintro ⟨_, impossible, -⟩
  cases impossible

/-- A result after another is one after what the other has found. -/
theorem bind_eq_ok_iff {first : Except Fault α} {next : α → Except Fault β} {found : β} :
    first >>= next = .ok found ↔ ∃ before, first = .ok before ∧ next before = .ok found := by
  cases first with
  | ok before => simp only [Except.ok.injEq, exists_eq_left']; rfl
  | error fault =>
    refine iff_of_false ?_ ?_
    · rintro ⟨⟩
    · rintro ⟨_, impossible, -⟩
      cases impossible

/-- **A reading after another** goes on from what the other has found. -/
theorem reads_bind {first : Except Fault β} {next : β → Except Fault (Read text α)} :
    Reads (first >>= next) value rest ↔
      ∃ found, first = .ok found ∧ Reads (next found) value rest := by
  simp only [Reads, bind_eq_ok_iff]
  constructor
  · rintro ⟨read, ⟨found, first, next⟩, what⟩
    exact ⟨found, first, read, next, what⟩
  · rintro ⟨found, first, read, next, what⟩
    exact ⟨read, ⟨found, first, next⟩, what⟩

/-- A reading whose value and rest are taken over as they are. -/
theorem reads_bind_ok {longer : List Char} {first : Except Fault (Read longer α)}
    {take : Read longer α → Read text α}
    (same : ∀ read, (take read).value = read.value ∧ (take read).rest = read.rest := by
      exact fun _ => ⟨rfl, rfl⟩) :
    Reads (first >>= fun read => .ok (take read)) value rest ↔ Reads first value rest := by
  simp only [reads_bind, reads_ok, same]
  rfl

theorem leaves_bind {first : Except Fault β} {next : β → Except Fault (Part text α)} :
    Leaves (first >>= next) value rest ↔
      ∃ found, first = .ok found ∧ Leaves (next found) value rest := by
  simp only [Leaves, bind_eq_ok_iff]
  constructor
  · rintro ⟨part, ⟨found, first, next⟩, what⟩
    exact ⟨found, first, part, next, what⟩
  · rintro ⟨found, first, part, next, what⟩
    exact ⟨part, ⟨found, first, next⟩, what⟩

/-! ## Blanks -/

theorem isSpace_eq_true_iff {c : Char} : isSpace c = true ↔ c ∈ [' ', '\n', '\t', '\r'] := by
  simp only [isSpace, Bool.or_eq_true, beq_iff_eq, List.mem_cons, List.not_mem_nil, or_false,
    or_assoc]

/-- No blank is in front of the text itself. -/
theorem Blanks.refl (text : List Char) : Blanks text text := ⟨[], by simp, rfl⟩

/-- Blanks in front of blanks are blanks. -/
theorem Blanks.trans {middle : List Char} (first : Blanks text middle)
    (second : Blanks middle rest) : Blanks text rest := by
  obtain ⟨gap, all, rfl⟩ := first
  obtain ⟨more, others, rfl⟩ := second
  exact ⟨gap ++ more, List.forall_mem_append.mpr ⟨all, others⟩, (List.append_assoc ..).symm⟩

/-- **Blanks are skipped.** -/
theorem blanks_skipBlanks (text : List Char) : Blanks text (skipBlanks text) :=
  ⟨text.takeWhile isSpace,
    fun c member => isSpace_eq_true_iff.mp (List.all_eq_true.mp List.all_takeWhile c member),
    List.takeWhile_append_dropWhile.symm⟩

/-- Blanks make no difference to what is left without them. -/
theorem Blanks.skipBlanks_eq (blanks : Blanks text rest) : skipBlanks text = skipBlanks rest := by
  obtain ⟨gap, all, rfl⟩ := blanks
  exact List.dropWhile_append_of_pos fun c member => isSpace_eq_true_iff.mpr (all c member)

/-- Nothing is skipped in front of a character that is no blank. -/
theorem skipBlanks_cons {c : Char} (noBlank : isSpace c = false) (rest : List Char) :
    skipBlanks (c :: rest) = c :: rest :=
  List.dropWhile_cons_of_neg (Bool.eq_false_iff.mp noBlank)

/-- What is left without blanks starts with what is no blank. -/
theorem Blanks.skipBlanks_cons {c : Char} (blanks : Blanks text (c :: rest))
    (noBlank : isSpace c = false) : skipBlanks text = c :: rest :=
  blanks.skipBlanks_eq.trans (Json.skipBlanks_cons noBlank rest)

/-- What is skipped is blanks. -/
theorem Blanks.of_skipBlanks {c : Char} (skipped : skipBlanks text = c :: rest) :
    Blanks text (c :: rest) := skipped ▸ blanks_skipBlanks text

/-- What is left has no blanks in front. -/
theorem skipBlanks_of_skipBlanks (skipped : skipBlanks text = rest) : skipBlanks rest = rest := by
  rw [← skipped, ← (blanks_skipBlanks text).skipBlanks_eq]

/-! ## Behind the blanks -/

/-- **What is done by the first character behind the blanks** is done by the one that is there. -/
theorem match_skipBlanks {σ : Type} {c : Char} {after : List Char} {empty : σ}
    {found : ∀ c after, skipBlanks text = c :: after → σ} (skipped : skipBlanks text = c :: after) :
    (match skipped : skipBlanks text with
      | [] => empty
      | c :: after => found c after skipped) = found c after skipped := by
  split
  · rename_i nothing
    cases skipped.symm.trans nothing
  · rename_i c' after' skipped'
    obtain ⟨rfl, rfl⟩ := List.cons.inj (skipped.symm.trans skipped')
    rfl

/-- **A reading goes on** from the first character behind the blanks. -/
theorem reads_behind {c : Char} {start after : List Char} {empty : Except Fault (Read text α)}
    {found : ∀ c after, skipBlanks start = c :: after → Except Fault (Read text α)}
    (skipped : skipBlanks start = c :: after) :
    Reads (match skipped : skipBlanks start with
      | [] => empty
      | c :: after => found c after skipped) value rest ↔
      Reads (found c after skipped) value rest := by
  rw [match_skipBlanks skipped]

/-- **Something is behind the blanks** where a reading goes by it. -/
theorem exists_of_reads_behind {start : List Char} {fault : Fault}
    {found : ∀ c after, skipBlanks start = c :: after → Except Fault (Read text α)}
    (reads : Reads (match skipped : skipBlanks start with
      | [] => .error fault
      | c :: after => found c after skipped) value rest) :
    ∃ c after, ∃ skipped : skipBlanks start = c :: after,
      Reads (found c after skipped) value rest := by
  split at reads
  · exact absurd reads not_reads_error
  · exact ⟨_, _, _, reads⟩

/-! ## Words and colons -/

/-- **A word is read** letter by letter. -/
theorem leaves_word {letters : List Char} :
    Leaves (word letters text) () rest ↔ text = letters ++ rest := by
  induction letters generalizing text with
  | nil => exact leaves_ok.trans ⟨fun found => found.2, fun same => ⟨rfl, same⟩⟩
  | cons letter letters ih =>
    cases text with
    | nil => exact iff_of_false not_leaves_error (by simp)
    | cons c text =>
      rw [word, List.cons_append, List.cons.injEq]
      by_cases same : c = letter
      · rw [if_pos same, leaves_bind, ← ih]
        constructor
        · rintro ⟨part, found, leaves⟩
          exact ⟨same, part, found, rfl, (leaves_ok.mp leaves).2⟩
        · rintro ⟨-, part, found, -, left⟩
          exact ⟨part, found, leaves_ok.mpr ⟨rfl, left⟩⟩
      · rw [if_neg same]
        exact iff_of_false not_leaves_error fun found => same found.1

/-- **A literal is read** where its word follows. -/
theorem reads_literal {meant : α} {letters after : List Char}
    {shorter : after.length < text.length} :
    Reads (literal meant letters shorter) value rest ↔ meant = value ∧ after = letters ++ rest := by
  rw [literal, reads_bind, ← leaves_word]
  constructor
  · rintro ⟨part, found, reads⟩
    obtain ⟨rfl, left⟩ := reads_ok.mp reads
    exact ⟨rfl, part, found, rfl, left⟩
  · rintro ⟨rfl, part, found, -, left⟩
    exact ⟨part, found, reads_ok.mpr ⟨rfl, left⟩⟩

/-- **A colon is read** after blanks. -/
theorem reads_colon : Reads (colon text) () rest ↔ Blanks text (':' :: rest) := by
  constructor
  · intro reads
    obtain ⟨c, after, skipped, reads⟩ := exists_of_reads_behind reads
    split at reads
    · rename_i same
      obtain ⟨-, rfl⟩ := reads_ok.mp reads
      rw [← same, ← skipped]
      exact blanks_skipBlanks text
    · exact absurd reads not_reads_error
  · intro blanks
    exact (reads_behind (blanks.skipBlanks_cons rfl)).mpr (reads_ok.mpr ⟨rfl, rfl⟩)

end SourceScan.Json
