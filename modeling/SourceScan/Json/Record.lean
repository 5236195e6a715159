import SourceScan.Json.Skip

/-!
# Json/Record — reading the values of a schema

A schema is built from readers: an unsigned integer, a choice of names, an optional value, and a
**record** of fields.  A record is written as an object, with its keys in any order and unknown keys
passed over, or as a list of its fields in their order; in both forms what is left out keeps its
default.

* `unsigned`, `choice`, `optional`, `record` — the readers.
* `mismatch` — the fault of a value of the wrong type, which is read to be told.
-/

namespace SourceScan.Json

/-- The fault of a value of the wrong type, found where its reading ended. -/
def wrongType (found : Found) (expected : String) (left : List Char) : Fault :=
  .here (.invalidType found expected) left

/-- What a number is called where it is not wanted. -/
def Number.found : Number → Found
  | integer value => .integer value
  | float value => .float value

/-- **The fault of a value of the wrong type.**  A value that is no bracket is read first, and what
is wrong with it counts for more than its type. -/
def mismatch (expected : String) (text : List Char) : Fault :=
  let told {input : List Char} (read : Except Fault (Read input Found)) : Fault :=
    match read with
    | .ok read => wrongType read.value expected read.rest
    | .error fault => fault
  match text with
  | [] => .looking .noValue []
  | c :: rest =>
    have shorter := length_lt_cons c rest
    if c = 'n' then told (literal .null ['u', 'l', 'l'] shorter)
    else if c = 't' then told (literal (.bool true) ['r', 'u', 'e'] shorter)
    else if c = 'f' then told (literal (.bool false) ['a', 'l', 's', 'e'] shorter)
    else if c = '-' then told ((numeral true rest).map (·.map Number.found))
    else if c.isDigit then told ((numeral false (c :: rest)).map (·.map Number.found))
    else if c = '"' then told ((Json.text rest).map (·.map Found.string))
    else if c = '[' then wrongType .sequence expected (c :: rest)
    else if c = '\x7b' then wrongType .map expected (c :: rest)
    else .looking .noValue (c :: rest)

/-- **An unsigned integer** of 64 bits. -/
def unsigned (expected : String) : Reading UInt64 := fun text =>
  match skipped : skipBlanks text with
  | [] => .error (.here (.ended .value) [])
  | c :: rest =>
    have shorter := length_lt_of_skipBlanks skipped
    let accept (read : Read text Number) : Except Fault (Read text UInt64) :=
      match read.value with
      | .float _ => .error (wrongType read.value.found expected read.rest)
      | .integer value =>
        if value < 0 then .error (.here (.invalidValue (.integer value) expected) read.rest)
        else .ok (read.map fun _ => UInt64.ofNat value.toNat)
    if c = '-' then do
      let number ← numeral true rest
      accept (number.within shorter)
    else if c.isDigit then do
      let number ← numeral false (c :: rest)
      accept (Part.read ⟨(), c :: rest, shorter⟩ number)
    else .error (mismatch expected (c :: rest))

/-- **A name out of several**, after its opening quote. -/
def named {α : Type} (names : List (String × α)) : Reading α := fun text => do
  let name ← Json.text text
  match names.lookup name.value with
  | some value => .ok (name.map fun _ => value)
  | none => .error (.here (.unknownName name.value (names.map Prod.fst)) name.rest)

/-- The rest of a choice in the form of an object, after its name: a colon, a null and the closing
bracket. -/
def choiceEnd : Reading Unit := fun text => do
  let afterColon ← colon text
  match skipped : skipBlanks afterColon.rest with
  | [] => .error (.here (.ended .value) [])
  | c :: rest =>
    have shorter := length_lt_of_skipBlanks skipped
    if c = 'n' then do
      let null ← literal () ['u', 'l', 'l'] shorter
      match closing : skipBlanks null.rest with
      | [] => .error (.here (.ended (.inside .object)) [])
      | d :: after =>
        if d = '\x7d' then
          .ok ((afterColon.next null).next ⟨(), after, length_lt_of_skipBlanks closing⟩)
        else .error (.here .noValue (d :: after))
    else .error (mismatch "unit" (c :: rest))

/-- **A choice**: one of several names, as a string or as the only key of an object with a null. -/
def choice {α : Type} (names : List (String × α)) : Reading α := fun text =>
  match skipped : skipBlanks text with
  | [] => .error (.here (.ended .value) [])
  | c :: rest =>
    have shorter := length_lt_of_skipBlanks skipped
    if c = '"' then do
      let name ← named names rest
      .ok (name.within shorter)
    else if c = '\x7b' then
      match opened : skipBlanks rest with
      | [] => .error (.here (.ended (.inside .object)) [])
      | d :: inside =>
        if d = '\x7d' then .error (.looking .noValue (d :: inside))
        else if d = '"' then do
          let name ← named names inside
          let after ← choiceEnd name.rest
          .ok ((((name.next after).map fun _ => name.value).within
            (length_lt_of_skipBlanks opened)).within shorter)
        else .error (.looking .keyNotString (d :: inside))
    else .error (.looking .noValue (c :: rest))

/-- **An optional value**: null, or the value. -/
def optional {α : Type} (value : Reading α) : Reading (Option α) := fun text =>
  match skipped : skipBlanks text with
  | 'n' :: _ => literal none ['u', 'l', 'l'] (length_lt_of_skipBlanks skipped)
  | _ => do
    let read ← value text
    .ok (read.map some)

/-- **A field of a record**: its key, and the reader of its value, which puts it into a record. -/
structure Field (ρ : Type) where
  key : String
  read : Reading (ρ → ρ)

/-- A field that is read by a reader and put in place by a setter. -/
def Field.of {ρ α : Type} (key : String) (value : Reading α) (put : α → ρ → ρ) : Field ρ :=
  ⟨key, fun text => do
    let read ← value text
    .ok (read.map put)⟩

/-- **The next turn** inside a bracket: its end has been read, or an entry starts after some part of
the text. -/
inductive Turn (text : List Char) where
  | closed (closing : Read text Unit)
  | entry (lead : Part text Unit)

/-- **The next turn**, just after the bracket was opened or after an entry. -/
def turn (bracket : Bracket) (opened : Bool) (text : List Char) : Except Fault (Turn text) :=
  match skipped : skipBlanks text with
  | [] => .error (.here (.ended (.inside bracket)) [])
  | c :: rest =>
    have shorter := length_lt_of_skipBlanks skipped
    if c = bracket.closer then .ok (.closed ⟨(), rest, shorter⟩)
    else if opened then .ok (.entry ⟨(), c :: rest, shorter⟩)
    else if c = ',' then
      match next : skipBlanks rest with
      | [] => .error (.here (.ended .value) [])
      | d :: others =>
        if d = bracket.closer then .error (.looking .trailingComma (d :: others))
        else .ok (.entry ⟨(), d :: others,
          Nat.le_trans (length_lt_of_skipBlanks next) (Nat.le_of_lt shorter)⟩)
    else .error (.looking (.noSeparator bracket) (c :: rest))

/-- The end of a list that has all its fields. -/
def listEnd : Reading Unit := fun text =>
  match skipped : skipBlanks text with
  | [] => .error (.here (.ended (.inside .list)) [])
  | c :: rest =>
    if c = ']' then .ok ⟨(), rest, length_lt_of_skipBlanks skipped⟩
    else if c = ',' then
      match skipBlanks rest with
      | ']' :: others => .error (.looking .trailingComma (']' :: others))
      | others => .error (.looking .trailingCharacters others)
    else .error (.looking .trailingCharacters (c :: rest))

/-- **A record as a list** of its fields in order, after the opening bracket. -/
def positional {ρ : Type} : List (Field ρ) → (opened : Bool) → (record : ρ) → Reading ρ
  | [], _, record, text => do
    let read ← listEnd text
    .ok (read.map fun _ => record)
  | field :: fields, opened, record, text => do
    match ← turn .list opened text with
    | .closed closing => .ok (closing.map fun _ => record)
    | .entry lead =>
      let read ← field.read lead.rest
      let others ← positional fields false (read.value record) read.rest
      .ok (lead.read (read.next others))

/-- **A key**: a string. -/
def key : Reading String
  | [] => .error (.looking .keyNotString [])
  | c :: rest =>
    if c = '"' then do
      let name ← Json.text rest
      .ok (name.after c)
    else .error (.looking .keyNotString (c :: rest))

/-- The fault of a key that was there before; its place is after blanks and one closing bracket. -/
def duplicate (key : String) (text : List Char) : Fault :=
  .here (.duplicateField key) (match skipBlanks text with
    | '\x7d' :: rest => rest
    | rest => rest)

/-- The reader of the value under a key: that of its field, or one that passes over it. -/
def valueFor {ρ : Type} (field : Option (Field ρ)) : Reading (ρ → ρ) := fun text =>
  match field with
  | some field => field.read text
  | none => do
    let skipped ← skipValue text
    .ok (skipped.map fun _ => id)

/-- **A record as an object**, after the opening bracket or an entry; no key of a field comes
twice. -/
def keyed {ρ : Type} (fields : List (Field ρ)) (seen : List String) (opened : Bool) (record : ρ)
    (text : List Char) : Except Fault (Read text ρ) := do
  match ← turn .object opened text with
  | .closed closing => .ok (closing.map fun _ => record)
  | .entry lead =>
    let name ← key lead.rest
    if seen.contains name.value then .error (duplicate name.value name.rest)
    else do
      let field := fields.find? fun field => field.key == name.value
      let afterColon ← colon name.rest
      let read ← valueFor field afterColon.rest
      have shorter : read.rest.length < text.length :=
        (lead.read ((name.next afterColon).next read)).shorter
      let seen := if field.isSome then name.value :: seen else seen
      let others ← keyed fields seen false (read.value record) read.rest
      .ok (others.within shorter)
termination_by text.length

/-- **A record**, in either form; what is left out is as in the given record. -/
def record {ρ : Type} (expected : String) (fields : List (Field ρ)) (default : ρ) : Reading ρ :=
  fun text =>
    match skipped : skipBlanks text with
    | [] => .error (.here (.ended .value) [])
    | c :: rest =>
      have shorter := length_lt_of_skipBlanks skipped
      if c = '[' then do
        let read ← positional fields true default rest
        .ok (read.within shorter)
      else if c = '\x7b' then do
        let read ← keyed fields [] true default rest
        .ok (read.within shorter)
      else .error (mismatch expected (c :: rest))

/-- **A document**: one value, and nothing but blanks after it. -/
def document {α : Type} (value : Reading α) (text : List Char) : Except Fault α := do
  let read ← value text
  match skipBlanks read.rest with
  | [] => .ok read.value
  | rest => .error (.looking .trailingCharacters rest)

end SourceScan.Json
