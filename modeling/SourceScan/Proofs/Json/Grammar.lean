import SourceScan.Proofs.Number.Decimal

/-!
# Proofs/Json/Grammar — the grammar of documents

A **tree** is a JSON value as it is written, without its blanks: its strings are lists of elements,
its numbers lists of digits.  The grammar relates a tree to a text that starts with a writing of it,
and to the rest of the text.  It says what a document is without saying how one is read: nothing in
it looks ahead, and a number may be followed by anything.

* `Tree`, `Element`, `Figures` — what is written.
* `Blanks`, `Figures.Written`, `Element.Written`, `Quoted` — blanks, numbers and strings.
* `Tree.Written`, `Items`, `Members` — values and the insides of brackets.
* `Document` — a text with one value and blanks around it.
* `decode?` — the characters that a string says.
-/

namespace SourceScan.Json

/-- **An element of a string**: a character, by itself or by its short escape, or a code of four
hexadecimal digits. -/
inductive Element where
  | char (c : Char)
  | code (code : Nat)
deriving DecidableEq, Repr

/-- **A number**, as its digits; an exponent may have a minus of its own. -/
structure Figures where
  minus : Bool
  whole : List Char
  fraction : Option (List Char)
  exponent : Option (Bool × List Char)
deriving DecidableEq, Repr

/-- **A value as it is written**: keys are not compared, and nothing is left out. -/
inductive Tree where
  | null
  | bool (value : Bool)
  | number (figures : Figures)
  | string (elements : List Element)
  | list (items : List Tree)
  | object (members : List (List Element × Tree))

/-! ## Blanks and numbers -/

/-- **Blanks**, perhaps none, in front of the rest. -/
def Blanks (text rest : List Char) : Prop :=
  ∃ gap, (∀ c ∈ gap, c ∈ [' ', '\n', '\t', '\r']) ∧ text = gap ++ rest

/-- **Digits**, at least one, in front of the rest. -/
def Digits (digits text rest : List Char) : Prop :=
  digits ≠ [] ∧ AllDigits digits ∧ text = digits ++ rest

/-- **A fraction**, if there is one: a point and digits. -/
inductive Fraction : Option (List Char) → List Char → List Char → Prop
  | none {rest : List Char} : Fraction none rest rest
  | point {digits text rest : List Char} :
      Digits digits text rest → Fraction (some digits) ('.' :: text) rest

/-- **The sign of an exponent**, if there is one: whether it is a minus. -/
inductive Sign : Bool → List Char → List Char → Prop
  | none {rest : List Char} : Sign false rest rest
  | plus {rest : List Char} : Sign false ('+' :: rest) rest
  | minus {rest : List Char} : Sign true ('-' :: rest) rest

/-- **An exponent**, if there is one: its mark, perhaps a sign, and digits. -/
inductive Exponent : Option (Bool × List Char) → List Char → List Char → Prop
  | none {rest : List Char} : Exponent none rest rest
  | marked {mark : Char} {minus : Bool} {digits text unsigned rest : List Char} :
      mark = 'e' ∨ mark = 'E' → Sign minus text unsigned → Digits digits unsigned rest →
        Exponent (some (minus, digits)) (mark :: text) rest

/-- **A number without its sign**: a whole part with no needless zero, and what follows it. -/
structure Figures.Unsigned (figures : Figures) (text rest : List Char) : Prop where
  parts : ∃ afterWhole afterFraction, Digits figures.whole text afterWhole ∧
    Fraction figures.fraction afterWhole afterFraction ∧
    Exponent figures.exponent afterFraction rest
  zero : figures.whole.head? = some '0' → figures.whole = ['0']

/-- **A number.** -/
inductive Figures.Written : Figures → List Char → List Char → Prop
  | positive {figures : Figures} {text rest : List Char} :
      figures.minus = false → figures.Unsigned text rest → Written figures text rest
  | negative {figures : Figures} {text rest : List Char} :
      figures.minus = true → figures.Unsigned text rest → Written figures ('-' :: text) rest

/-! ## Strings -/

/-- **A hexadecimal digit** of either case, and its value. -/
def HexDigit (c : Char) (value : Nat) : Prop :=
  "0123456789abcdef".toList[value]? = some c ∨ "0123456789ABCDEF".toList[value]? = some c

/-- **The short escapes**: a letter, and the character it stands for. -/
inductive Short : Char → Char → Prop
  | quote : Short '"' '"'
  | backslash : Short '\\' '\\'
  | slash : Short '/' '/'
  | backspace : Short 'b' '\x08'
  | formFeed : Short 'f' '\x0c'
  | lineFeed : Short 'n' '\n'
  | carriageReturn : Short 'r' '\r'
  | tab : Short 't' '\t'

/-- **Four hexadecimal digits**, and the code they say. -/
inductive HexCode : Nat → List Char → List Char → Prop
  | mk {a b c d : Char} {i j k l : Nat} {rest : List Char} :
      HexDigit a i → HexDigit b j → HexDigit c k → HexDigit d l →
        HexCode (((i * 16 + j) * 16 + k) * 16 + l) (a :: b :: c :: d :: rest) rest

/-- **An element of a string** in front of the rest. -/
inductive Element.Written : Element → List Char → List Char → Prop
  | plain {c : Char} {rest : List Char} :
      0x20 ≤ c.toNat → c ≠ '"' → c ≠ '\\' → Written (.char c) (c :: rest) rest
  | short {letter c : Char} {rest : List Char} :
      Short letter c → Written (.char c) ('\\' :: letter :: rest) rest
  | code {code : Nat} {text rest : List Char} :
      HexCode code text rest → Written (.code code) ('\\' :: 'u' :: text) rest

/-- **One part after another**, up to the closing quote. -/
inductive UntilQuote {α : Type} (Part : α → List Char → List Char → Prop) :
    List α → List Char → List Char → Prop
  | closed {rest : List Char} : UntilQuote Part [] ('"' :: rest) rest
  | part {first : α} {others : List α} {text middle rest : List Char} :
      Part first text middle → UntilQuote Part others middle rest →
        UntilQuote Part (first :: others) text rest

/-- **A string**, after its opening quote. -/
abbrev Quoted : List Element → List Char → List Char → Prop := UntilQuote Element.Written

/-- **The character of two surrogates**, a high one and a low one: ten bits of each, above
`U+10000`. -/
def paired (high low : Nat) : Char :=
  Char.ofNat (0x10000 + (high - 0xD800) * 0x400 + (low - 0xDC00))

/-- **The characters that a string says.**  The codes of two surrogates are one character; a
surrogate without its partner is none, and the string says nothing. -/
def decode? : List Element → Option (List Char)
  | [] => some []
  | .char c :: elements => (decode? elements).map (c :: ·)
  | .code code :: elements =>
    if code < 0xD800 ∨ 0xDFFF < code then (decode? elements).map (Char.ofNat code :: ·)
    else match elements with
      | .code low :: others =>
        if code ≤ 0xDBFF ∧ 0xDC00 ≤ low ∧ low ≤ 0xDFFF then
          (decode? others).map (paired code low :: ·)
        else none
      | _ => none

/-! ## Values -/

/-- **In front of an entry** of a bracket: blanks where it is the first, else a comma among them. -/
inductive Separated : Bool → List Char → List Char → Prop
  | first {text rest : List Char} : Blanks text rest → Separated true text rest
  | comma {text middle rest : List Char} :
      Blanks text (',' :: middle) → Blanks middle rest → Separated false text rest

/-- **The key of a member** with its colon. -/
inductive Keyed : List Element → List Char → List Char → Prop
  | mk {key : List Element} {text quoted after rest : List Char} :
      Blanks text ('"' :: quoted) → Quoted key quoted after → Blanks after (':' :: rest) →
        Keyed key text rest

mutual

/-- **A value**, with the blanks before it. -/
inductive Tree.Written : Tree → List Char → List Char → Prop
  | null {text rest : List Char} :
      Blanks text ('n' :: 'u' :: 'l' :: 'l' :: rest) → Tree.Written .null text rest
  | true {text rest : List Char} :
      Blanks text ('t' :: 'r' :: 'u' :: 'e' :: rest) → Tree.Written (.bool true) text rest
  | false {text rest : List Char} :
      Blanks text ('f' :: 'a' :: 'l' :: 's' :: 'e' :: rest) → Tree.Written (.bool false) text rest
  | number {figures : Figures} {text number rest : List Char} :
      Blanks text number → figures.Written number rest → Tree.Written (.number figures) text rest
  | string {elements : List Element} {text quoted rest : List Char} :
      Blanks text ('"' :: quoted) → Quoted elements quoted rest →
        Tree.Written (.string elements) text rest
  | list {items : List Tree} {text inside rest : List Char} :
      Blanks text ('[' :: inside) → Items true items inside rest →
        Tree.Written (.list items) text rest
  | object {members : List (List Element × Tree)} {text inside rest : List Char} :
      Blanks text ('\x7b' :: inside) → Members true members inside rest →
        Tree.Written (.object members) text rest

/-- **The inside of a list** up to the end of it, just after it was opened or after an item. -/
inductive Items : Bool → List Tree → List Char → List Char → Prop
  | closed {opened : Bool} {text rest : List Char} :
      Blanks text (']' :: rest) → Items opened [] text rest
  | item {opened : Bool} {item : Tree} {items : List Tree} {text start after rest : List Char} :
      Separated opened text start → item.Written start after → Items false items after rest →
        Items opened (item :: items) text rest

/-- **The inside of an object** up to the end of it, just after it was opened or after a member. -/
inductive Members : Bool → List (List Element × Tree) → List Char → List Char → Prop
  | closed {opened : Bool} {text rest : List Char} :
      Blanks text ('\x7d' :: rest) → Members opened [] text rest
  | member {opened : Bool} {key : List Element} {value : Tree}
      {members : List (List Element × Tree)} {text start keyed after rest : List Char} :
      Separated opened text start → Keyed key start keyed → value.Written keyed after →
        Members false members after rest → Members opened ((key, value) :: members) text rest

end

/-- **A document**: one value, with blanks around it. -/
def Document (tree : Tree) (text : List Char) : Prop :=
  ∃ rest, tree.Written text rest ∧ Blanks rest []

end SourceScan.Json
