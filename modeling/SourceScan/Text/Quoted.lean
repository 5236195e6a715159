import SourceScan.Codepoint.Graphic

/-!
# Text/Quoted — a text between quotes

A quoted text shows every character: the quote, the backslash and the four controls that have a
name are written with a backslash and a letter, graphic characters stand for themselves, and every
other character is written by its code point in hexadecimal between braces.
-/

namespace SourceScan.Quoted

/-- The characters with an escape of their own, each with the letter of its escape. -/
def named : List (Char × Char) :=
  [('\x00', '0'), ('\t', 't'), ('\r', 'r'), ('\n', 'n'), ('\\', '\\'), ('"', '"')]

/-- **One character** as it is written between the quotes. -/
def character (c : Char) : List Char :=
  match named.lookup c with
  | some letter => ['\\', letter]
  | none =>
    if Codepoint.isGraphic c then [c]
    else '\\' :: 'u' :: '{' :: Nat.toDigits 16 c.toNat ++ ['}']

/-- **The quoted form** of a text. -/
def quote (text : String) : String :=
  String.ofList ('"' :: text.toList.flatMap character ++ ['"'])

end SourceScan.Quoted
