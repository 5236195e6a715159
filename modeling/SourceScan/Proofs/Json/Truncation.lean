import SourceScan.Proofs.Json.Recognition

/-!
# Proofs/Json/Truncation — values that are cut off

A text that would be read is cut somewhere, and only the front of it is read.  If the cut is behind
the value, the value is read as before; if it is inside, the fault is that the text has ended, and
nothing else: every character in front of the cut is as it was.  A number alone may end anywhere
among its digits, and a front of it is a number, too.

* `Ended` — the fault is that the text has ended.
* `Cut`, `Cut.bind` — what a reading makes of the front of a text; one reading after another.
* `cut_literal`, `cut_colon`, `cut_text` — words, colons and strings.
* `cut_choice`, `cut_optional` — names and nulls.
* `CutsAt`, `cutsAt_unsigned` — a reading that is cut, driven by the tree of the whole; integers.
-/

namespace SourceScan.Json

variable {σ α β : Type} {front back text rest middle : List Char} {value : α}

/-! ## Results of a front -/

/-- **The fault is that the text has ended.** -/
def Ended (result : Except Fault σ) : Prop :=
  ∃ fault, result = .error fault ∧ fault.cause.category = .truncated

theorem ended_error {inside : Unfinished} {left : List Char} :
    Ended (.error (.here (.ended inside) left) : Except Fault σ) := ⟨_, rfl, rfl⟩

/-- What has ended has ended whatever was to be read next. -/
theorem Ended.bind {τ : Type} {first : Except Fault σ} (ended : Ended first)
    (next : σ → Except Fault τ) : Ended (first >>= next) := by
  obtain ⟨fault, rfl, short⟩ := ended
  exact ⟨fault, rfl, short⟩

/-- What is read next may end. -/
theorem Ended.of_ok {τ : Type} {first : Except Fault σ} {found : σ} (ok : first = .ok found)
    {next : σ → Except Fault τ} (ended : Ended (next found)) : Ended (first >>= next) :=
  ok ▸ ended

/-- **What a reading makes of the front of a text**, where it reads a value from the whole: it ends
with the front, or reads the same value and leaves what is left of the front. -/
def Cut (result : Except Fault (Read text α)) (back : List Char) (value : α)
    (rest : List Char) : Prop :=
  Ended result ∨ ∃ left, rest = left ++ back ∧ Reads result value left

theorem cut_ok {read : Read text α} (same : read.value = value) (left : rest = read.rest ++ back) :
    Cut (.ok read) back value rest := .inr ⟨_, left, reads_ok.mpr ⟨same, rfl⟩⟩

/-- **One reading after another** is cut in the one or in the other. -/
theorem Cut.bind {before : β} {first : Except Fault (Read front β)}
    {next : Read front β → Except Fault (Read text α)} (cut : Cut first back before middle)
    (after : ∀ read : Read front β, read.value = before → middle = read.rest ++ back →
      Cut (next read) back value rest) : Cut (first >>= next) back value rest := by
  obtain ended | ⟨_, left, read, found, same, rfl⟩ := cut
  · exact .inl (ended.bind next)
  · rw [found]
    exact after read same left

/-- A reading whose value is taken for another. -/
theorem Cut.bind_ok {before : β} {first : Except Fault (Read front β)}
    {take : Read front β → Read text α}
    (cut : Cut first back before rest) (values : ∀ read : Read front β, read.value = before →
      (take read).value = value ∧ (take read).rest = read.rest) :
    Cut (first >>= fun read => .ok (take read)) back value rest :=
  cut.bind fun read same left =>
    cut_ok (values read same).1 (left.trans (congrArg (· ++ back) (values read same).2.symm))

/-! ## Blanks and words -/

/-- **Behind the blanks** of a front is what is behind those of the whole, or nothing. -/
theorem skipBlanks_cut {c : Char} (skipped : skipBlanks (front ++ back) = c :: rest) :
    skipBlanks front = [] ∨ ∃ left, skipBlanks front = c :: left ∧ rest = left ++ back := by
  rw [skipBlanks, List.dropWhile_append] at skipped
  cases found : skipBlanks front with
  | nil => exact .inl rfl
  | cons d left =>
    rw [skipBlanks] at found
    rw [found] at skipped
    obtain ⟨rfl, same⟩ := List.cons.inj skipped
    exact .inr ⟨left, rfl, same.symm⟩

/-- **A reading that goes by what is behind the blanks** ends where there is nothing. -/
theorem ended_behind {start : List Char} {inside : Unfinished} {left : List Char}
    {found : ∀ c after, skipBlanks start = c :: after → Except Fault σ}
    (nothing : skipBlanks start = []) :
    Ended (match skipped : skipBlanks start with
      | [] => .error (.here (.ended inside) left)
      | c :: after => found c after skipped) := by
  split
  · exact ended_error
  · rename_i other
    cases nothing.symm.trans other

/-- A result that goes by what is behind the blanks ends where it goes on from there and ends. -/
theorem ended_behind_cons {start after : List Char} {c : Char} {empty : Except Fault σ}
    {found : ∀ c after, skipBlanks start = c :: after → Except Fault σ}
    (skipped : skipBlanks start = c :: after) (ended : Ended (found c after skipped)) :
    Ended (match skipped : skipBlanks start with
      | [] => empty
      | c :: after => found c after skipped) := by
  split
  · rename_i nothing
    cases skipped.symm.trans nothing
  · rename_i skipped'
    obtain ⟨rfl, rfl⟩ := List.cons.inj (skipped.symm.trans skipped')
    exact ended

/-- A reading goes on from what is behind the blanks. -/
theorem cut_behind {start after : List Char} {c : Char} {empty : Except Fault (Read text α)}
    {found : ∀ c after, skipBlanks start = c :: after → Except Fault (Read text α)}
    (skipped : skipBlanks start = c :: after)
    (cut : Cut (found c after skipped) back value rest) :
    Cut (match skipped : skipBlanks start with
      | [] => empty
      | c :: after => found c after skipped) back value rest := by
  split
  · rename_i nothing
    cases skipped.symm.trans nothing
  · rename_i skipped'
    obtain ⟨rfl, rfl⟩ := List.cons.inj (skipped.symm.trans skipped')
    exact cut

/-- **A word is cut** or is whole. -/
theorem word_cut {letters : List Char} (same : front ++ back = letters ++ rest) :
    Ended (word letters front) ∨ ∃ left, rest = left ++ back ∧ front = letters ++ left := by
  induction letters generalizing front with
  | nil => exact .inr ⟨front, same.symm, rfl⟩
  | cons letter letters ih =>
    cases front with
    | nil => exact .inl ended_error
    | cons c front =>
      obtain ⟨rfl, others⟩ := List.cons.inj same
      rw [word, if_pos rfl]
      obtain ended | ⟨left, rfl, rfl⟩ := ih others
      · exact .inl (ended.bind _)
      · exact .inr ⟨left, rfl, rfl⟩

/-- **A literal** is cut in its word. -/
theorem cut_literal {letters after : List Char} {shorter : after.length < text.length}
    (same : after ++ back = letters ++ rest) :
    Cut (literal value letters shorter) back value rest := by
  obtain ended | ⟨left, rfl, isWord⟩ := word_cut same
  · exact .inl (ended.bind _)
  · exact .inr ⟨left, rfl, reads_literal.mpr ⟨rfl, isWord⟩⟩

/-- **A colon** is cut off with the blanks in front of it. -/
theorem cut_colon (reads : Reads (colon (front ++ back)) () rest) :
    Cut (colon front) back () rest := by
  obtain nothing | ⟨left, skipped, rfl⟩ :=
    skipBlanks_cut ((reads_colon.mp reads).skipBlanks_cons rfl)
  · exact .inl (ended_behind nothing)
  · exact .inr ⟨left, rfl, reads_colon.mpr (.of_skipBlanks skipped)⟩

/-! ## Strings -/

/-- A hexadecimal digit is one byte long. -/
theorem utf8Size_of_hexDigit {c : Char} {digit : Nat} (hex : HexDigit c digit) :
    c.utf8Size = 1 := by
  have lower : ("0123456789abcdef".toList.all fun c => c.utf8Size == 1) = true := by decide
  have upper : ("0123456789ABCDEF".toList.all fun c => c.utf8Size == 1) = true := by decide
  obtain found | found := hex
  · exact beq_iff_eq.mp (List.all_eq_true.mp lower c (List.mem_of_getElem? found))
  · exact beq_iff_eq.mp (List.all_eq_true.mp upper c (List.mem_of_getElem? found))

/-- Fewer than four bytes are no code. -/
theorem ended_hex4 (short : byteLength front < 4) : Ended (hex4 front) := by
  rw [hex4.eq_def]
  split
  · rename_i a b c d left
    have := a.utf8Size_pos
    have := b.utf8Size_pos
    have := c.utf8Size_pos
    have := d.utf8Size_pos
    simp only [byteLength_cons] at short
    omega
  · rw [if_pos short]
    exact ended_error

/-- **Four hexadecimal digits** are cut where fewer are left, each of one byte. -/
theorem cut_hex4 {code : Nat} (reads : Reads (hex4 (front ++ back)) code rest) :
    Cut (hex4 front) back code rest := by
  generalize whole : front ++ back = text at reads
  obtain @⟨a, b, c, d, _, _, _, _, rest, first, second, third, fourth⟩ := reads_hex4.mp reads
  have bytes : byteLength [a, b, c, d] = 4 := by
    simp [utf8Size_of_hexDigit first, utf8Size_of_hexDigit second, utf8Size_of_hexDigit third,
      utf8Size_of_hexDigit fourth]
  have digits (left : List Char) : Reads (hex4 ([a, b, c, d] ++ left)) _ left :=
    reads_hex4.mpr (.mk first second third fourth)
  obtain ⟨more, same, rfl⟩ | ⟨left, rfl, rfl⟩ :=
    List.append_eq_append_iff.mp (show front ++ back = [a, b, c, d] ++ rest from whole)
  · cases more with
    | nil =>
      rw [List.append_nil] at same
      subst same
      exact .inr ⟨[], rfl, digits []⟩
    | cons e more =>
      have := e.utf8Size_pos
      rw [same, byteLength_append, byteLength_cons] at bytes
      exact .inl (ended_hex4 (by omega))
  · exact .inr ⟨left, rfl, digits left⟩

/-- **The second half of a pair** is cut in its escape. -/
theorem cut_secondHalf {low : Nat} (reads : Reads (secondHalf (front ++ back)) low rest) :
    Cut (secondHalf front) back low rest := by
  generalize whole : front ++ back = text at reads
  obtain ⟨⟨⟩ | ⟨⟩ | hex, range⟩ := reads_secondHalf.mp reads
  cases front with
  | nil => exact .inl ended_error
  | cons c front =>
    obtain ⟨rfl, others⟩ := List.cons.inj whole
    cases front with
    | nil => exact .inl ended_error
    | cons d front =>
      obtain ⟨rfl, rfl⟩ := List.cons.inj others
      rw [secondHalf]
      refine (cut_hex4 (reads_hex4.mpr hex)).bind fun read same left => ?_
      rw [if_pos (isLowSurrogate_eq_true_iff.mpr (same ▸ range))]
      exact cut_ok same left

/-- **A code** is cut in its digits or in those of its second half. -/
theorem cut_coded {c : Char} (reads : Reads (coded (front ++ back)) c rest) :
    Cut (coded front) back c rest := by
  obtain ⟨code, hex, reads⟩ := reads_bind.mp reads
  refine (cut_hex4 ⟨code, hex, rfl, rfl⟩).bind fun read same left => ?_
  rw [same]
  split at reads
  · exact absurd reads not_reads_error
  rename_i notLow
  rw [if_neg notLow]
  split at reads
  · rename_i high
    rw [if_pos high]
    obtain ⟨low, second, reads⟩ := reads_bind.mp reads
    obtain ⟨rfl, rfl⟩ := reads_ok.mp reads
    have half : Reads (secondHalf (read.rest ++ back)) low.value low.rest :=
      left ▸ ⟨low, second, rfl, rfl⟩
    exact (cut_secondHalf half).bind fun second sameLow leftLow =>
      cut_ok (by rw [Read.value_map, Read.value_map, Read.value_next, Read.value_next, sameLow])
        leftLow
  · rename_i notHigh
    rw [if_neg notHigh]
    obtain ⟨rfl, rfl⟩ := reads_ok.mp reads
    exact cut_ok (congrArg Char.ofNat same) left

/-- **An escape** is cut in front of its letter or in its code. -/
theorem cut_escape {c : Char} (reads : Reads (escape (front ++ back)) c rest) :
    Cut (escape front) back c rest := by
  cases front with
  | nil => exact .inl ended_error
  | cons letter front =>
    rw [List.cons_append, escape] at reads
    rw [escape]
    split at reads
    · obtain ⟨rfl, rfl⟩ := reads_ok.mp reads
      exact cut_ok rfl rfl
    · split at reads
      · rename_i coded
        rw [if_pos coded]
        obtain ⟨code, isCode, reads⟩ := reads_bind.mp reads
        obtain ⟨rfl, rfl⟩ := reads_ok.mp reads
        exact (cut_coded ⟨code, isCode, rfl, rfl⟩).bind_ok fun read same => ⟨same, rfl⟩
      · exact absurd reads not_reads_error

/-- **An element of a string** is cut in front of it or in its escape. -/
theorem cut_element {c : Option Char} (reads : Reads (element (front ++ back)) c rest) :
    Cut (element front) back c rest := by
  cases front with
  | nil => exact .inl ended_error
  | cons d front =>
    rw [List.cons_append, element] at reads
    rw [element]
    split at reads
    · exact absurd reads not_reads_error
    rename_i noControl
    rw [if_neg noControl]
    split at reads
    · rename_i quote
      obtain ⟨rfl, rfl⟩ := reads_ok.mp reads
      rw [if_pos quote]
      exact cut_ok rfl rfl
    rename_i noQuote
    rw [if_neg noQuote]
    split at reads
    · rename_i backslash
      rw [if_pos backslash]
      obtain ⟨meant, escaped, reads⟩ := reads_bind.mp reads
      obtain ⟨rfl, rfl⟩ := reads_ok.mp reads
      exact (cut_escape ⟨meant, escaped, rfl, rfl⟩).bind_ok fun read same =>
        ⟨congrArg some same, rfl⟩
    · rename_i noBackslash
      obtain ⟨rfl, rfl⟩ := reads_ok.mp reads
      rw [if_neg noBackslash]
      exact cut_ok rfl rfl

/-- **Elements up to the closing quote** are cut in one of them or between two. -/
theorem cut_untilClosed {values : List Char}
    (reads : Reads (untilClosed element (front ++ back)) values rest) :
    Cut (untilClosed element front) back values rest := by
  induction front using (measure List.length).wf.induction generalizing values with
  | _ front ih =>
    rw [untilClosed] at reads ⊢
    obtain ⟨first, found, reads⟩ := reads_bind.mp reads
    refine (cut_element ⟨first, found, rfl, rfl⟩).bind fun read same left => ?_
    split at reads
    · rename_i closes
      obtain ⟨rfl, rfl⟩ := reads_ok.mp reads
      split
      · exact cut_ok rfl left
      · rename_i other
        cases (other.symm.trans same).trans closes
    · rename_i value goes
      obtain ⟨others, more, reads⟩ := reads_bind.mp reads
      obtain ⟨rfl, rfl⟩ := reads_ok.mp reads
      split
      · rename_i other
        cases (other.symm.trans same).trans goes
      · rename_i value' goes'
        obtain rfl := Option.some.inj ((goes'.symm.trans same).trans goes)
        have others : Reads (untilClosed element (read.rest ++ back)) others.value others.rest :=
          left ▸ ⟨others, more, rfl, rfl⟩
        exact (ih read.rest read.shorter others).bind_ok fun read same =>
          ⟨congrArg (value' :: ·) same, rfl⟩

/-- **A string** is cut anywhere up to its closing quote. -/
theorem cut_text {said : String} (reads : Reads (Json.text (front ++ back)) said rest) :
    Cut (Json.text front) back said rest := by
  obtain ⟨read, found, reads⟩ := reads_bind.mp reads
  obtain ⟨rfl, rfl⟩ := reads_ok.mp reads
  exact (cut_untilClosed ⟨read, found, rfl, rfl⟩).bind_ok fun read same =>
    ⟨congrArg String.ofList same, rfl⟩

/-! ## Names and nulls -/

/-- **A name** is cut in its string. -/
theorem cut_named {names : List (String × α)}
    (reads : Reads (named names (front ++ back)) value rest) :
    Cut (named names front) back value rest := by
  obtain ⟨name, found, reads⟩ := reads_bind.mp reads
  refine (cut_text ⟨name, found, rfl, rfl⟩).bind fun read same left => ?_
  rw [same]
  split at reads
  · obtain ⟨rfl, rfl⟩ := reads_ok.mp reads
    exact cut_ok rfl left
  · exact absurd reads not_reads_error

/-- **The end of a choice** is cut in its colon, in its null or in front of its bracket. -/
theorem cut_choiceEnd (reads : Reads (choiceEnd (front ++ back)) () rest) :
    Cut (choiceEnd front) back () rest := by
  obtain ⟨value, after, beforeColon, ⟨null⟩, closes⟩ := reads_choiceEnd.mp reads
  refine (cut_colon (reads_colon.mpr beforeColon)).bind fun colon _ left => ?_
  obtain nothing | ⟨letters, skipped, isWord⟩ := skipBlanks_cut (left ▸ null.skipBlanks_cons rfl)
  · exact .inl (ended_behind nothing)
  refine cut_behind skipped ?_
  rw [if_pos rfl]
  have same : letters ++ back = ['u', 'l', 'l'] ++ after := isWord.symm
  refine (cut_literal same).bind fun word _ left => ?_
  obtain nothing | ⟨_, closing, rfl⟩ := skipBlanks_cut (left ▸ closes.skipBlanks_cons rfl)
  · exact .inl (ended_behind nothing)
  refine cut_behind closing ?_
  rw [if_pos rfl]
  exact cut_ok rfl rfl

/-- There is no choice in a text of blanks. -/
theorem ended_choice {names : List (String × α)} (nothing : skipBlanks front = []) :
    Ended (choice names front) := ended_behind nothing

/-- **A choice** is cut in either of its forms. -/
theorem cut_choice {names : List (String × α)}
    (reads : Reads (choice names (front ++ back)) value rest) :
    Cut (choice names front) back value rest := by
  obtain ⟨c, after, skipped, reads⟩ := exists_of_reads_behind reads
  obtain nothing | ⟨left, skips, rfl⟩ := skipBlanks_cut skipped
  · exact .inl (ended_choice nothing)
  refine cut_behind skips ?_
  dsimp only at reads ⊢
  split at reads
  · rename_i quote
    rw [if_pos quote]
    obtain ⟨name, readName, reads⟩ := reads_bind.mp reads
    obtain ⟨rfl, rfl⟩ := reads_ok.mp reads
    exact (cut_named ⟨name, readName, rfl, rfl⟩).bind_ok fun read same => ⟨same, rfl⟩
  rename_i noQuote
  rw [if_neg noQuote]
  split at reads
  · rename_i opens
    rw [if_pos opens]
    obtain ⟨d, inside, opened, reads⟩ := exists_of_reads_behind reads
    obtain nothing | ⟨left, skips, rfl⟩ := skipBlanks_cut opened
    · exact .inl (ended_behind nothing)
    refine cut_behind skips ?_
    split at reads
    · exact absurd reads not_reads_error
    rename_i noEnd
    rw [if_neg noEnd]
    split at reads
    · rename_i quote
      rw [if_pos quote]
      obtain ⟨name, readName, reads⟩ := reads_bind.mp reads
      obtain ⟨ends, readEnd, reads⟩ := reads_bind.mp reads
      obtain ⟨rfl, rfl⟩ := reads_ok.mp reads
      refine (cut_named ⟨name, readName, rfl, rfl⟩).bind fun read same left => ?_
      have isEnd : Reads (choiceEnd (read.rest ++ back)) () ends.rest :=
        left ▸ ⟨ends, readEnd, rfl, rfl⟩
      exact (cut_choiceEnd isEnd).bind_ok fun _ _ => ⟨same, rfl⟩
    · exact absurd reads not_reads_error
  · exact absurd reads not_reads_error

/-- **An optional value** is cut in its null or where the value is. -/
theorem cut_optional {reading : Reading α} {value : Option α}
    (empty : ∀ {front}, skipBlanks front = [] → Ended (reading front))
    (cut : ∀ {front back value rest}, Reads (reading (front ++ back)) value rest →
      Cut (reading front) back value rest)
    (reads : Reads (optional reading (front ++ back)) value rest) :
    Cut (optional reading front) back value rest := by
  rw [optional.eq_def] at reads ⊢
  split at reads
  · rename_i after skipped
    obtain ⟨rfl, isWord⟩ := reads_literal.mp reads
    obtain nothing | ⟨left, skips, rfl⟩ := skipBlanks_cut skipped
    · split
      · rename_i other
        cases nothing.symm.trans other
      · exact .inl ((empty nothing).bind _)
    · split
      · rename_i other
        obtain rfl := List.tail_eq_of_cons_eq (skips.symm.trans other)
        exact cut_literal isWord
      · rename_i other
        exact absurd skips (other left)
  · rename_i noNull
    obtain ⟨read, found, reads⟩ := reads_bind.mp reads
    obtain ⟨rfl, rfl⟩ := reads_ok.mp reads
    split
    · rename_i left skips
      have null : skipBlanks (front ++ back) = 'n' :: (left ++ back) := by
        rw [skipBlanks] at skips ⊢
        rw [List.dropWhile_append, skips]
        rfl
      exact absurd null (noNull _)
    · exact (cut ⟨read, found, rfl, rfl⟩).bind_ok fun _ same => ⟨congrArg some same, rfl⟩

/-! ## Trees -/

/-- **A reading is cut** where it is of a tree that it recognizes: the front of the text ends, or is
read as the whole is, or is all a value of its own, as that of a number may be. -/
def CutsAt (reading : Reading α) (meaning : Tree → Option α) (within : Tree → Prop) : Prop :=
  ∀ ⦃tree front back value rest⦄, Tree.Written tree (front ++ back) rest → Delimited rest →
    meaning tree = some value → within tree →
      Cut (reading front) back value rest ∨ ∃ other, Reads (reading front) other []

/-- A reading that is cut whatever it reads is cut at the trees it recognizes. -/
theorem Recognizes.cutsAt {reading : Reading α} {meaning : Tree → Option α}
    (recognizes : Recognizes reading meaning)
    (cut : ∀ {front back value rest}, Reads (reading (front ++ back)) value rest →
      Cut (reading front) back value rest) (within : Tree → Prop) :
    CutsAt reading meaning within := fun _ _ _ _ _ written delimited means _ =>
  .inl (cut (recognizes.complete written delimited means))

/-- What delimits a number with more behind it delimits it without. -/
theorem Delimited.of_append {left : List Char} (delimited : Delimited (left ++ back)) :
    Delimited left := by
  cases left with
  | nil => exact fun _ none => nomatch none
  | cons c left => exact delimited

/-- **An integer is cut** in front of it, behind it, or between its digits, where it is another. -/
theorem cutsAt_unsigned (expected : String) (within : Tree → Prop) :
    CutsAt (unsigned expected) Tree.unsigned? within := by
  intro tree front back value rest written delimited means _
  obtain ⟨digits, rfl, small, rfl⟩ := Tree.unsigned?_eq_some_iff.mp means
  obtain ⟨_, blanks, ⟨_, _, ⟨nonempty, all, rfl⟩, ⟨⟩, ⟨⟩⟩, zero⟩ := unsigned_of_written written
  obtain ⟨c, others, rfl⟩ := List.exists_cons_of_ne_nil nonempty
  have digit := (allDigits_cons.mp all).1
  obtain nothing | ⟨left, skipped, same⟩ :=
    skipBlanks_cut (blanks.skipBlanks_cons (isSpace_of_isDigit digit))
  · exact .inl (.inl (ended_behind nothing))
  have start := Blanks.of_skipBlanks skipped
  obtain ⟨left, rfl, rfl⟩ | ⟨more, rfl, rfl⟩ := List.append_eq_append_iff.mp same
  · have number : Figures.Unsigned ⟨false, c :: others, none, none⟩ (c :: (others ++ left)) left :=
      ⟨⟨_, _, ⟨nonempty, all, rfl⟩, .none, .none⟩, zero⟩
    exact .inl (.inr ⟨left, rfl, (recognizes_unsigned expected).complete
      (.number start (.positive rfl number)) delimited.of_append means⟩)
  · have number : Figures.Unsigned ⟨false, c :: left, none, none⟩ (c :: left) [] := by
      refine ⟨⟨_, _, ⟨List.cons_ne_nil _ _, ?_, (List.append_nil _).symm⟩, .none, .none⟩, ?_⟩
      · exact fun d member => all d (List.mem_append_left more member)
      · intro first
        obtain ⟨rfl, empty⟩ := List.cons.inj (zero first)
        rw [(List.append_eq_nil_iff.mp empty).1]
    have fits := Nat.lt_of_le_of_lt (decimal_le_decimal_append (c :: left) more) small
    exact .inr ⟨_, (recognizes_unsigned expected).complete
      (.number start (.positive rfl number)) (fun _ none => nomatch none)
      (Tree.unsigned?_eq_some_iff.mpr ⟨_, rfl, fits, rfl⟩)⟩

end SourceScan.Json
