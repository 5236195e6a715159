import SourceScan.Json.Fault

/-!
# Json/Read — reading from the front of a text

A **reader** reads a value from the front of a text and leaves the rest, or finds a fault.  What it
leaves is shorter than what it was given, and the type says so: that is why reading a document
ends.

* `Read`, `Reading` — what a reader leaves, and what a reader is.
* `Part` — what is left where the part to read may be empty.
* `skipBlanks`, `word`, `colon` — the parts between values.
-/

namespace SourceScan.Json

/-- **What a reader leaves**: a value, and a rest shorter than the text it was given. -/
structure Read (text : List Char) (α : Type) where
  value : α
  rest : List Char
  shorter : rest.length < text.length

/-- **What may be left out** of a text: a value, and a rest no longer than the text. -/
structure Part (text : List Char) (α : Type) where
  value : α
  rest : List Char
  noLonger : rest.length ≤ text.length

/-- **A reader** of values. -/
abbrev Reading (α : Type) := (text : List Char) → Except Fault (Read text α)

theorem length_lt_cons (c : Char) (rest : List Char) : rest.length < (c :: rest).length :=
  Nat.lt_succ_self _

namespace Read

variable {text longer : List Char} {α β : Type}

/-- One character, read as a value. -/
def one (c : Char) (rest : List Char) (value : α) : Read (c :: rest) α :=
  ⟨value, rest, length_lt_cons c rest⟩

/-- What is left of a text is left of a longer one. -/
def within (read : Read text α) (lt : text.length < longer.length) : Read longer α :=
  ⟨read.value, read.rest, Nat.lt_trans read.shorter lt⟩

/-- What is read after the first character of a text is read from the text. -/
def after (c : Char) (read : Read text α) : Read (c :: text) α :=
  read.within (length_lt_cons c text)

/-- What is read as one value may be taken for another. -/
def map (f : α → β) (read : Read text α) : Read text β := ⟨f read.value, read.rest, read.shorter⟩

/-- **One value after another**, the second being the one that counts. -/
def next (first : Read text α) (second : Read first.rest β) : Read text β :=
  second.within first.shorter

@[simp] theorem value_map (f : α → β) (read : Read text α) : (read.map f).value = f read.value :=
  rfl

@[simp] theorem rest_map (f : α → β) (read : Read text α) : (read.map f).rest = read.rest := rfl

@[simp] theorem value_next (first : Read text α) (second : Read first.rest β) :
    (first.next second).value = second.value := rfl

@[simp] theorem rest_next (first : Read text α) (second : Read first.rest β) :
    (first.next second).rest = second.rest := rfl

/-- **A value and then a part** that may be empty, the part being the one that counts. -/
def part (first : Read text α) (second : Part first.rest β) : Read text β :=
  ⟨second.value, second.rest, Nat.lt_of_le_of_lt second.noLonger first.shorter⟩

end Read

namespace Part

variable {text : List Char} {α β : Type}

/-- An empty part. -/
def empty (value : α) : Part text α := ⟨value, text, Nat.le_refl _⟩

/-- What is read as one value may be taken for another. -/
def map (f : α → β) (part : Part text α) : Part text β := ⟨f part.value, part.rest, part.noLonger⟩

/-- One character, read as a value. -/
def one (c : Char) (rest : List Char) (value : α) : Part (c :: rest) α :=
  ⟨value, rest, Nat.le_of_lt (length_lt_cons c rest)⟩

/-- A value that was read, as a part. -/
def ofRead (read : Read text α) : Part text α :=
  ⟨read.value, read.rest, Nat.le_of_lt read.shorter⟩

/-- What is read after the first character of a text is read from the text. -/
def after (c : Char) (part : Part text α) : Part (c :: text) α :=
  ⟨part.value, part.rest, Nat.le_succ_of_le part.noLonger⟩

/-- **One part after another**, the second being the one that counts. -/
def next (first : Part text α) (second : Part first.rest β) : Part text β :=
  ⟨second.value, second.rest, Nat.le_trans second.noLonger first.noLonger⟩

/-- **A part and then a value**, which is the one that counts. -/
def read (first : Part text α) (second : Read first.rest β) : Read text β :=
  ⟨second.value, second.rest, Nat.lt_of_lt_of_le second.shorter first.noLonger⟩

end Part

/-- The blanks of a document. -/
def isSpace (c : Char) : Bool := c == ' ' || c == '\n' || c == '\t' || c == '\r'

/-- **The text after its leading blanks.** -/
def skipBlanks (text : List Char) : List Char := text.dropWhile isSpace

theorem length_skipBlanks_le (text : List Char) : (skipBlanks text).length ≤ text.length :=
  (List.dropWhile_sublist isSpace).length_le

theorem length_lt_of_skipBlanks {text rest : List Char} {c : Char}
    (skipped : skipBlanks text = c :: rest) : rest.length < text.length := by
  have := length_skipBlanks_le text
  rw [skipped, List.length_cons] at this
  exact this

/-- **The letters of a word**, one after another. -/
def word : List Char → (text : List Char) → Except Fault (Part text Unit)
  | [], _ => .ok (.empty ())
  | _ :: _, [] => .error (.here (.ended .value) [])
  | letter :: letters, c :: text =>
    if c = letter then do
      let rest ← word letters text
      .ok (rest.after c)
    else .error (.looking .misspelt (c :: text))

/-- **A character and then a word.**  The character has been looked at. -/
def literal {α : Type} (value : α) (letters : List Char) {text rest : List Char}
    (shorter : rest.length < text.length) : Except Fault (Read text α) := do
  let after ← word letters rest
  .ok ((Read.part ⟨(), rest, shorter⟩ after).map fun _ => value)

/-- **The colon** between a key and its value. -/
def colon : Reading Unit := fun text =>
  match skipped : skipBlanks text with
  | [] => .error (.here (.ended (.inside .object)) [])
  | c :: rest =>
    if c = ':' then .ok ⟨(), rest, length_lt_of_skipBlanks skipped⟩
    else .error (.looking .noColon (c :: rest))

end SourceScan.Json
