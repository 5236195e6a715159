import SourceScan.Json.Numeral
import SourceScan.Json.Text

/-!
# Json/Skip — a value that nobody asks for

A value under an unknown key is read for its form alone, however deep it nests.

* `skipValue` — any value, with the blanks before it.
* `skipInside` — the inside of a bracket, up to the end of it.
-/

namespace SourceScan.Json

/-- The key of a field that nobody asks for, with its colon. -/
def skipKey : Reading Unit := fun text =>
  match skipped : skipBlanks text with
  | [] => .error (.here (.ended (.inside .object)) [])
  | c :: rest =>
    if c = '"' then do
      let key ← skipText rest
      let after ← colon key.rest
      .ok ((key.next after).within (length_lt_of_skipBlanks skipped))
    else .error (.looking .keyNotString (c :: rest))

/-- What comes before the value of an entry: nothing in a list, the key in an object. -/
def skipLead (bracket : Bracket) (text : List Char) : Except Fault (Part text Unit) :=
  match bracket with
  | .list => .ok (.empty ())
  | .object => do
    let key ← skipKey text
    .ok (.ofRead key)

mutual

/-- **A value that nobody asks for.** -/
def skipValue (text : List Char) : Except Fault (Read text Unit) :=
  match skipped : skipBlanks text with
  | [] => .error (.here (.ended .value) [])
  | c :: rest =>
    have shorter := length_lt_of_skipBlanks skipped
    if c = 'n' then literal () ['u', 'l', 'l'] shorter
    else if c = 't' then literal () ['r', 'u', 'e'] shorter
    else if c = 'f' then literal () ['a', 'l', 's', 'e'] shorter
    else if c = '-' then do
      let number ← skipNumeral rest
      .ok (number.within shorter)
    else if c.isDigit then do
      let number ← skipNumeral (c :: rest)
      .ok (Part.read ⟨(), c :: rest, shorter⟩ number)
    else if c = '"' then do
      let string ← skipText rest
      .ok (string.within shorter)
    else if c = '[' then do
      let inside ← skipInside .list true rest
      .ok (inside.within shorter)
    else if c = '\x7b' then do
      let inside ← skipInside .object true rest
      .ok (inside.within shorter)
    else .error (.looking .noValue (c :: rest))
termination_by 2 * text.length

/-- **The inside of a bracket that nobody asks for**, just after it was opened or after an entry. -/
def skipInside (bracket : Bracket) (opened : Bool) (text : List Char) :
    Except Fault (Read text Unit) :=
  match skipped : skipBlanks text with
  | [] => .error (.here (.ended (.inside bracket)) [])
  | c :: rest =>
    have shorter := length_lt_of_skipBlanks skipped
    if c = bracket.closer then .ok ⟨(), rest, shorter⟩
    else do
      let entry : Part text Unit ←
        if opened then .ok ⟨(), c :: rest, shorter⟩
        else if c = ',' then .ok (.ofRead ⟨(), rest, shorter⟩)
        else .error (.looking (.noSeparator bracket) (c :: rest))
      let lead ← skipLead bracket entry.rest
      have _le : lead.rest.length ≤ text.length := (entry.next lead).noLonger
      let value ← skipValue lead.rest
      have lt : value.rest.length < text.length := ((entry.next lead).read value).shorter
      let inside ← skipInside bracket false value.rest
      .ok (inside.within lt)
termination_by 2 * text.length + 1
decreasing_by
  · exact Nat.lt_succ_of_le (Nat.mul_le_mul_left 2 _le)
  · omega

end

end SourceScan.Json
