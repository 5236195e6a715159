import SourceScan.Json.Read

/-!
# Json/Text — reading strings

A string is read after its opening quote, one element after another: a character that stands for
itself, an escape, or the closing quote.  A code point beyond four hexadecimal digits is escaped as
a pair of surrogates; a surrogate without its partner is refused.

* `text` — a string, for its characters.
* `skipText` — a string that nobody asks for: its escapes are only looked at, surrogates included.
-/

namespace SourceScan.Json

/-- The value of a hexadecimal digit, of either case. -/
def hexValue? (c : Char) : Option Nat :=
  if '0' ≤ c ∧ c ≤ '9' then some (c.toNat - '0'.toNat)
  else if 'a' ≤ c ∧ c ≤ 'f' then some (c.toNat - 'a'.toNat + 10)
  else if 'A' ≤ c ∧ c ≤ 'F' then some (c.toNat - 'A'.toNat + 10)
  else none

/-- **Four hexadecimal digits.**  Four bytes are taken before any of them is looked at. -/
def hex4 : Reading Nat
  | a :: b :: c :: d :: rest =>
    match hexValue? a, hexValue? b, hexValue? c, hexValue? d with
    | some a, some b, some c, some d =>
      .ok ⟨((a * 16 + b) * 16 + c) * 16 + d, rest, by simp only [List.length_cons]; omega⟩
    | _, _, _, _ => .error ⟨.invalidEscape, a :: b :: c :: d :: rest, 4⟩
  | short =>
    if byteLength short < 4 then .error (.here (.ended .string) [])
    else .error ⟨.invalidEscape, short, 4⟩

/-- The characters with a short escape, by the letter of their escape. -/
def escaped : List (Char × Char) :=
  [('"', '"'), ('\\', '\\'), ('/', '/'), ('b', '\x08'), ('f', '\x0c'), ('n', '\n'), ('r', '\r'),
    ('t', '\t')]

/-- The code is that of the first half of a pair. -/
def isHighSurrogate (code : Nat) : Bool := decide (0xD800 ≤ code) && decide (code ≤ 0xDBFF)

/-- The code is that of the second half of a pair. -/
def isLowSurrogate (code : Nat) : Bool := decide (0xDC00 ≤ code) && decide (code ≤ 0xDFFF)

/-- **The second half of a pair**, an escape of its own. -/
def secondHalf : Reading Nat
  | [] => .error (.here (.ended .string) [])
  | '\\' :: [] => .error (.here (.ended .string) [])
  | '\\' :: 'u' :: rest => do
    let low ← hex4 rest
    if isLowSurrogate low.value then .ok ((low.after 'u').after '\\')
    else .error (.here .loneSurrogate low.rest)
  | '\\' :: other => .error (.looking .brokenPair other)
  | other => .error (.looking .brokenPair other)

/-- **A character by its code**, after the `u` of its escape. -/
def coded : Reading Char := fun text => do
  let code ← hex4 text
  if isLowSurrogate code.value then .error (.here .loneSurrogate code.rest)
  else if isHighSurrogate code.value then do
    let low ← secondHalf code.rest
    .ok ((code.next low).map fun low =>
      Char.ofNat (0x10000 + (code.value - 0xD800) * 0x400 + (low - 0xDC00)))
  else .ok (code.map Char.ofNat)

/-- **An escape**, after its backslash. -/
def escape : Reading Char
  | [] => .error (.here (.ended .string) [])
  | letter :: rest =>
    match escaped.lookup letter with
    | some c => .ok (.one letter rest c)
    | none =>
      if letter = 'u' then do
        let code ← coded rest
        .ok (code.after letter)
      else .error (.looking .invalidEscape (letter :: rest))

/-- **An element of a string**: a character, or nothing at the closing quote. -/
def element : Reading (Option Char)
  | [] => .error (.here (.ended .string) [])
  | c :: rest =>
    if c.toNat < 0x20 then .error (.looking .controlCharacter (c :: rest))
    else if c = '"' then .ok (.one c rest none)
    else if c = '\\' then do
      let meant ← escape rest
      .ok ((meant.map some).after c)
    else .ok (.one c rest (some c))

/-- **An escape that nobody asks for**: the digits of a code are looked at, not their value. -/
def skipEscape : Reading Unit
  | [] => .error (.here (.ended .string) [])
  | letter :: rest =>
    match escaped.lookup letter with
    | some _ => .ok (.one letter rest ())
    | none =>
      if letter = 'u' then do
        let code ← hex4 rest
        .ok ((code.map fun _ => ()).after letter)
      else .error (.looking .invalidEscape (letter :: rest))

/-- **An element of a string that nobody asks for.** -/
def skipElement : Reading (Option Unit)
  | [] => .error (.here (.ended .string) [])
  | c :: rest =>
    if c.toNat < 0x20 then .error (.here .controlCharacter (c :: rest))
    else if c = '"' then .ok (.one c rest none)
    else if c = '\\' then do
      let meant ← skipEscape rest
      .ok ((meant.map some).after c)
    else .ok (.one c rest (some ()))

/-- **Elements up to the closing quote.** -/
def untilClosed {α : Type} (element : Reading (Option α)) (text : List Char) :
    Except Fault (Read text (List α)) := do
  let first ← element text
  match first.value with
  | none => .ok (first.map fun _ => [])
  | some value =>
    have _shorter := first.shorter
    let others ← untilClosed element first.rest
    .ok ((first.next others).map (value :: ·))
termination_by text.length

/-- **A string**, after its opening quote. -/
def text : Reading String := fun input => do
  let read ← untilClosed element input
  .ok (read.map String.ofList)

/-- **A string that nobody asks for**, after its opening quote. -/
def skipText : Reading Unit := fun input => do
  let read ← untilClosed skipElement input
  .ok (read.map fun _ => ())

end SourceScan.Json
