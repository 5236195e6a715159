/-!
# Text/Position — places in a source

A **position** is the place before a character: its line and column, both counted from 1 for a
reader, and its offset in UTF-8 bytes, counted from 0 for slicing.  Stepping over a character
moves all three; only the line feed starts a new line, and every other character is one column.

Positions are exact numbers.  A program keeps them in **counters** of 64 bits; what becomes of a
counter beyond its largest value depends on how the program was built.

* `Position.step`, `Position.advance` — the position after one character, after a text.
* `Position.advance_append` — advancing over a text in two parts.
* `Position.offset_advance` — the offset grows by the byte length of the text.
* `Position.shift` — a position counted from the start, seen from another place.
* `Counters.step`, `Counters.advance` — the counters after one character, after a text.
-/

namespace SourceScan

/-- The length of a text in UTF-8 bytes. -/
def byteLength : List Char → Nat
  | [] => 0
  | c :: text => c.utf8Size + byteLength text

@[simp] theorem byteLength_nil : byteLength [] = 0 := rfl

@[simp] theorem byteLength_cons (c : Char) (text : List Char) :
    byteLength (c :: text) = c.utf8Size + byteLength text := rfl

@[simp] theorem byteLength_append (left right : List Char) :
    byteLength (left ++ right) = byteLength left + byteLength right := by
  induction left with
  | nil => exact (Nat.zero_add _).symm
  | cons c left ih => rw [List.cons_append, byteLength_cons, byteLength_cons, ih, Nat.add_assoc]

/-- **A position**: the place before a character, in exact numbers.  `Counters` are the words of 64
bits that a program keeps instead; on the way over a source in memory they say the same. -/
structure Position where
  /-- Lines are counted from 1. -/
  line : Nat
  /-- Columns are counted from 1, in characters. -/
  column : Nat
  /-- Offsets are counted from 0, in bytes of UTF-8. -/
  offset : Nat
deriving DecidableEq, Repr

namespace Position

/-- The start of a source. -/
def start : Position := ⟨1, 1, 0⟩

/-- **One character on**: a line feed starts a new line, any other character is one column.  There
is no largest number here; `Counters.step` is the step that has one. -/
def step (position : Position) (c : Char) : Position :=
  if c = '\n' then ⟨position.line + 1, 1, position.offset + c.utf8Size⟩
  else ⟨position.line, position.column + 1, position.offset + c.utf8Size⟩

/-- **A text on.** -/
def advance (position : Position) (text : List Char) : Position := text.foldl step position

/-- **A change of origin**: where a position counted from the start of a text lies when that text
itself starts at `origin`.  Only the first line keeps the columns of the line it continues. -/
def shift (origin position : Position) : Position :=
  ⟨origin.line + position.line - 1,
    if position.line = 1 then origin.column + position.column - 1 else position.column,
    origin.offset + position.offset⟩

@[simp] theorem advance_nil (position : Position) : position.advance [] = position := rfl

@[simp] theorem advance_cons (position : Position) (c : Char) (text : List Char) :
    position.advance (c :: text) = (position.step c).advance text := rfl

/-- Advancing over a text is advancing over its first part and then over its second. -/
theorem advance_append (position : Position) (left right : List Char) :
    position.advance (left ++ right) = (position.advance left).advance right :=
  List.foldl_append

@[simp] theorem offset_step (position : Position) (c : Char) :
    (position.step c).offset = position.offset + c.utf8Size := by
  unfold step
  split <;> rfl

/-- **The offset counts bytes**: it grows by the byte length of the text. -/
theorem offset_advance (position : Position) (text : List Char) :
    (position.advance text).offset = position.offset + byteLength text := by
  induction text generalizing position with
  | nil => rfl
  | cons c text ih => rw [advance_cons, ih, offset_step, byteLength_cons, Nat.add_assoc]

end Position

/-! ## Counters -/

/-- **What becomes of a counter beyond its largest value**: the program stops, or the counter goes
on from zero.  Which of the two is settled when the program is built. -/
inductive Overflow where
  | stops
  | wraps
deriving DecidableEq, Repr

/-- **A counter increased**; `none` if the program stops. -/
def Overflow.add (overflow : Overflow) (counter amount : UInt64) : Option UInt64 :=
  match overflow with
  | wraps => some (counter + amount)
  | stops =>
    if counter.toNat + amount.toNat < UInt64.size then some (counter + amount) else none

/-- **The counters of a position**. -/
structure Counters where
  line : UInt64
  column : UInt64
  offset : UInt64
deriving DecidableEq, Repr

namespace Counters

/-- The counters at the start of a source. -/
def start : Counters := ⟨1, 1, 0⟩

/-- The position the counters say. -/
def position (counters : Counters) : Position :=
  ⟨counters.line.toNat, counters.column.toNat, counters.offset.toNat⟩

/-- **One character on**, unless the program stops. -/
def step (overflow : Overflow) (counters : Counters) (c : Char) : Option Counters :=
  let size := UInt64.ofNat c.utf8Size
  if c = '\n' then do
    some ⟨← overflow.add counters.line 1, 1, ← overflow.add counters.offset size⟩
  else do
    some ⟨counters.line, ← overflow.add counters.column 1, ← overflow.add counters.offset size⟩

/-- **A text on**, unless the program stops. -/
def advance (overflow : Overflow) (counters : Counters) (text : List Char) : Option Counters :=
  text.foldlM (step overflow) counters

@[simp] theorem advance_nil (overflow : Overflow) (counters : Counters) :
    counters.advance overflow [] = some counters := rfl

@[simp] theorem advance_cons (overflow : Overflow) (counters : Counters) (c : Char)
    (text : List Char) : counters.advance overflow (c :: text) =
      counters.step overflow c >>= fun next => next.advance overflow text := rfl

end Counters

/-- **A span**: the half-open range of a source from one position to another. -/
structure Span where
  start : Position
  stop : Position
deriving DecidableEq, Repr

namespace Span

/-- The length of a span in bytes. -/
def length (span : Span) : Nat := span.stop.offset - span.start.offset

/-- The span holds no byte. -/
def isEmpty (span : Span) : Bool := span.length == 0

end Span

end SourceScan
