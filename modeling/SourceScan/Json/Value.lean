/-!
# Json/Value — JSON values and their compact text

A **JSON value** is what a document denotes; its numbers are the integers, the only ones written
here.  The compact text has no blank outside strings and keeps fields in their order.

* `Json.chars`, `Json.render` — the compact text of a value.
* `Json.quote` — a string between quotes: the quote and the backslash get a backslash, the controls
  below `U+0020` a short escape or a code of four digits, and everything else stands for itself.
-/

namespace SourceScan

/-- **A JSON value** with integer numbers; the fields of an object keep their order. -/
inductive Json where
  | null
  | bool (value : Bool)
  | number (value : Int)
  | string (text : String)
  | list (items : List Json)
  | object (fields : List (String × Json))

namespace Json

/-- The controls with a short escape, each with the letter of its escape. -/
def shortEscapes : List (Char × Char) :=
  [('"', '"'), ('\\', '\\'), ('\x08', 'b'), ('\t', 't'), ('\n', 'n'), ('\x0c', 'f'), ('\r', 'r')]

/-- **One character** as it is written in a string. -/
def character (c : Char) : List Char :=
  match shortEscapes.lookup c with
  | some letter => ['\\', letter]
  | none =>
    if c.toNat < 0x20 then
      ['\\', 'u', '0', '0', Nat.digitChar (c.toNat / 16), Nat.digitChar (c.toNat % 16)]
    else [c]

/-- **A string** between quotes. -/
def quote (text : String) : List Char := '"' :: text.toList.flatMap character ++ ['"']

mutual

/-- **The compact text** of a value, as characters. -/
def chars : Json → List Char
  | .null => "null".toList
  | .bool true => "true".toList
  | .bool false => "false".toList
  | .number value => value.repr.toList
  | .string text => quote text
  | .list items => '[' :: charsItems items ++ [']']
  | .object fields => '{' :: charsFields fields ++ ['}']

/-- The items of a list, with commas between them. -/
def charsItems : List Json → List Char
  | [] => []
  | [item] => item.chars
  | item :: items => item.chars ++ ',' :: charsItems items

/-- The fields of an object, with commas between them. -/
def charsFields : List (String × Json) → List Char
  | [] => []
  | [(key, value)] => quote key ++ ':' :: value.chars
  | (key, value) :: fields => quote key ++ ':' :: value.chars ++ ',' :: charsFields fields

end

/-- **The compact text** of a value. -/
def render (json : Json) : String := String.ofList json.chars

end Json

end SourceScan
