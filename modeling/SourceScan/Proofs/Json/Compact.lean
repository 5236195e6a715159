import SourceScan.Json.Value
import SourceScan.Proofs.Json.Schema
import SourceScan.Proofs.Json.Text

/-!
# Proofs/Json/Compact — the compact text of a value is a document

The compact text of a value is written as a tree, with one element for every character of a string
and the digits of every number.  The tree says what the value says: its strings are the strings of
the value, and its entries are the fields.

* `Element.ofChar`, `Figures.ofInt`, `Json.tree` — the tree of a value.
* `Json.written_tree`, `Json.document_render` — the compact text is written as it.
* `decode?_map_ofChar`, `named?_map_ofChar`, `Json.entries?_tree` — what its strings and entries
  say.
-/

namespace SourceScan.Json

/-! ## Strings -/

/-- **The element of a character**: a code for a control that has no short escape, and else the
character. -/
def Element.ofChar (c : Char) : Element :=
  if shortEscapes.lookup c = none ∧ c.toNat < 0x20 then .code c.toNat else .char c

/-- The letter of a short escape stands for the character. -/
theorem short_of_lookup {letter c : Char} (found : shortEscapes.lookup c = some letter) :
    Short letter c := by
  obtain ⟨before, after, split, -⟩ := List.lookup_eq_some_iff.mp found
  have member : (c, letter) ∈ shortEscapes := by rw [split]; simp
  simp only [shortEscapes, List.mem_cons, Prod.mk.injEq, List.not_mem_nil, or_false] at member
  rcases member with ⟨rfl, rfl⟩ | ⟨rfl, rfl⟩ | ⟨rfl, rfl⟩ | ⟨rfl, rfl⟩ | ⟨rfl, rfl⟩ |
    ⟨rfl, rfl⟩ | ⟨rfl, rfl⟩ <;> constructor

/-- The digit of a value is one of the lower case. -/
theorem hexDigit_digitChar :
    ∀ {value : Nat}, value < 16 → HexDigit (Nat.digitChar value) value := by
  decide

/-- **The code of a control** in four digits, of which the first two are zeros. -/
theorem hexCode_of_lt {code : Nat} (control : code < 0x20) (rest : List Char) :
    HexCode code ('0' :: '0' :: Nat.digitChar (code / 16) :: Nat.digitChar (code % 16) :: rest)
      rest := by
  have zero : HexDigit '0' 0 := .inl rfl
  have high : HexDigit (Nat.digitChar (code / 16)) (code / 16) := hexDigit_digitChar (by omega)
  have low : HexDigit (Nat.digitChar (code % 16)) (code % 16) := hexDigit_digitChar (by omega)
  have digits : HexCode _ _ rest := .mk zero zero high low
  rwa [show ((0 * 16 + 0) * 16 + code / 16) * 16 + code % 16 = code by omega] at digits

/-- **A character is written as its element.** -/
theorem character_ofChar (c : Char) (rest : List Char) :
    Character c [Element.ofChar c] (character c ++ rest) rest := by
  rw [Element.ofChar, character]
  cases found : shortEscapes.lookup c with
  | some letter =>
    rw [if_neg fun coded => nomatch coded.1]
    exact .char (.short (short_of_lookup found))
  | none =>
    by_cases control : c.toNat < 0x20
    · have said : Character (Char.ofNat c.toNat) _ _ rest :=
        .code (.inl (Nat.lt_trans control (by decide))) (.code (hexCode_of_lt control rest))
      rw [Char.ofNat_toNat] at said
      rw [if_pos ⟨rfl, control⟩]
      dsimp only
      rw [if_pos control]
      exact said
    · have notQuote : c ≠ '"' := by rintro rfl; cases found
      have notBackslash : c ≠ '\\' := by rintro rfl; cases found
      rw [if_neg fun coded => control coded.2]
      dsimp only
      rw [if_neg control]
      exact .char (.plain (Nat.le_of_not_lt control) notQuote notBackslash)

/-- **A text between quotes** is written as the elements of its characters. -/
theorem quoted_map_ofChar (text rest : List Char) :
    Quoted (text.map Element.ofChar) (text.flatMap character ++ '"' :: rest) rest := by
  induction text with
  | nil => exact .closed
  | cons c text ih =>
    rw [List.flatMap_cons, List.append_assoc]
    exact (character_ofChar c _).quoted ih

/-- **The elements of a text say the text.** -/
theorem decode?_map_ofChar (text : List Char) : decode? (text.map Element.ofChar) = some text := by
  induction text with
  | nil => rfl
  | cons c text ih =>
    have said := (character_ofChar c []).decode?_append (text.map Element.ofChar)
    rw [ih] at said
    exact said

/-! ## Numbers -/

/-- **The figures of an integer**: its sign and its digits. -/
def Figures.ofInt (value : Int) : Figures :=
  ⟨decide (value < 0), Nat.toDigits 10 value.natAbs, none, none⟩

/-- The digits of a number have no needless zero in front. -/
theorem toDigits_eq_zero {value : Nat} (first : (Nat.toDigits 10 value).head? = some '0') :
    Nat.toDigits 10 value = ['0'] := by
  obtain ⟨digits, split⟩ := List.head?_eq_some_iff.mp first
  cases digits with
  | nil => exact split
  | cons d digits =>
    -- Without the zero the digits say the same number, which needs no more places than these.
    have all := allDigits_toDigits value
    have same := decimal_toDigits value
    rw [split] at all same
    have shown : decimal ('0' :: d :: digits) = decimal (d :: digits) :=
      decimal_replicate_zero_append 1 _
    have small := decimal_lt (allDigits_cons.mp all).2
    rw [← shown, same] at small
    have fits := (Nat.length_toDigits_le_iff (by decide) (Nat.succ_pos digits.length)).mpr small
    rw [split] at fits
    exact absurd fits (Nat.not_succ_le_self _)

/-- **The digits of a number** are written as the whole part of one. -/
theorem Figures.unsigned_toDigits (minus : Bool) (value : Nat) (rest : List Char) :
    Figures.Unsigned ⟨minus, Nat.toDigits 10 value, none, none⟩ (Nat.toDigits 10 value ++ rest)
      rest where
  parts := ⟨rest, rest, ⟨Nat.toDigits_ne_nil, allDigits_toDigits value, rfl⟩, .none, .none⟩
  zero := toDigits_eq_zero

/-- **An integer is written as its figures.** -/
theorem Figures.written_ofInt (value : Int) (rest : List Char) :
    (Figures.ofInt value).Written (value.repr.toList ++ rest) rest := by
  cases value with
  | ofNat value =>
    rw [toList_repr_ofNat]
    exact .positive (decide_eq_false (Int.not_lt.mpr (Int.natCast_nonneg value)))
      (unsigned_toDigits _ value rest)
  | negSucc value =>
    rw [toList_repr_negSucc]
    exact .negative (decide_eq_true (Int.negSucc_lt_zero value))
      (unsigned_toDigits _ (value + 1) rest)

/-! ## Values -/

mutual

/-- **The tree of a value.** -/
def tree : Json → Tree
  | .null => .null
  | .bool value => .bool value
  | .number value => .number (.ofInt value)
  | .string text => .string (text.toList.map .ofChar)
  | .list items => .list (treeItems items)
  | .object fields => .object (treeFields fields)

/-- The trees of some values. -/
def treeItems : List Json → List Tree
  | [] => []
  | item :: items => item.tree :: treeItems items

/-- The members of an object with some fields. -/
def treeFields : List (String × Json) → List (List Element × Tree)
  | [] => []
  | (key, value) :: fields => (key.toList.map .ofChar, value.tree) :: treeFields fields

end

/-- A string in front of a text. -/
theorem quote_append (text : String) (rest : List Char) :
    quote text ++ rest = '"' :: (text.toList.flatMap character ++ '"' :: rest) := by
  rw [quote, List.append_assoc]
  rfl

/-- **A key is written as its elements**, with its colon. -/
theorem keyed_quote (key : String) (rest : List Char) :
    Keyed (key.toList.map .ofChar) (quote key ++ ':' :: rest) rest := by
  rw [quote_append]
  exact .mk (.refl _) (quoted_map_ofChar key.toList _) (.refl _)

mutual

/-- **The compact text of a value is written as its tree.** -/
theorem written_tree : ∀ (json : Json) (rest : List Char),
    json.tree.Written (json.chars ++ rest) rest
  | .null, _ => .null (.refl _)
  | .bool true, _ => .true (.refl _)
  | .bool false, _ => .false (.refl _)
  | .number value, rest => .number (.refl _) (Figures.written_ofInt value rest)
  | .string text, rest => by
    rw [chars, quote_append]
    exact .string (.refl _) (quoted_map_ofChar text.toList rest)
  | .list [], _ => .list (.refl _) (.closed (.refl _))
  | .list (item :: items), rest => by
    rw [chars, List.cons_append, List.cons_append, List.append_assoc]
    exact .list (.refl _)
      (written_treeItems (item :: items) (List.cons_ne_nil _ _) (.first (.refl _)))
  | .object [], _ => .object (.refl _) (.closed (.refl _))
  | .object (field :: fields), rest => by
    rw [chars, List.cons_append, List.cons_append, List.append_assoc]
    exact .object (.refl _)
      (written_treeFields (field :: fields) (List.cons_ne_nil _ _) (.first (.refl _)))

/-- The items of a list are written as their trees, after the bracket or a comma. -/
theorem written_treeItems : ∀ (items : List Json), items ≠ [] → ∀ {opened : Bool}
    {text rest : List Char}, Separated opened text (charsItems items ++ ']' :: rest) →
      Items opened (treeItems items) text rest
  | [item], _, _, _, rest, separated =>
    .item separated (written_tree item (']' :: rest)) (.closed (.refl _))
  | item :: next :: items, _, _, _, rest, separated => by
    rw [charsItems, List.append_assoc] at separated
    · exact .item separated (written_tree item _)
        (written_treeItems (next :: items) (List.cons_ne_nil _ _) (.comma (.refl _) (.refl _)))
    · exact fun none => nomatch none

/-- The fields of an object are written as its members, after the bracket or a comma. -/
theorem written_treeFields : ∀ (fields : List (String × Json)), fields ≠ [] → ∀ {opened : Bool}
    {text rest : List Char}, Separated opened text (charsFields fields ++ '\x7d' :: rest) →
      Members opened (treeFields fields) text rest
  | [(key, value)], _, _, _, rest, separated => by
    rw [charsFields, List.append_assoc] at separated
    exact .member separated (keyed_quote key _) (written_tree value ('\x7d' :: rest))
      (.closed (.refl _))
  | (key, value) :: next :: fields, _, _, _, rest, separated => by
    rw [charsFields, List.append_assoc, List.append_assoc] at separated
    · exact .member separated (keyed_quote key _) (written_tree value _)
        (written_treeFields (next :: fields) (List.cons_ne_nil _ _) (.comma (.refl _) (.refl _)))
    · exact fun none => nomatch none

end

/-- **The compact text of a value is a document** with its tree. -/
theorem document_render (json : Json) : Document json.tree json.render.toList := by
  have written := written_tree json []
  rw [List.append_nil] at written
  rw [render, String.toList_ofList]
  exact ⟨[], written, .refl _⟩

/-! ## What the tree says -/

variable {α : Type}

/-- A name is looked up by its text. -/
theorem named?_map_ofChar (names : List (String × α)) (name : String) :
    named? names (name.toList.map .ofChar) = names.lookup name := by
  rw [named?, decode?_map_ofChar, Option.bind_eq_bind, Option.bind_some, String.ofList_toList]

/-- The members of an object say its fields. -/
theorem mapM_entry?_treeFields (fields : List (String × Json)) :
    (treeFields fields).mapM Tree.entry? =
      some (fields.map fun field => (field.1, field.2.tree)) := by
  induction fields with
  | nil => rfl
  | cons field fields ih =>
    obtain ⟨key, value⟩ := field
    have said : Tree.entry? (key.toList.map .ofChar, value.tree) = some (key, value.tree) := by
      rw [Tree.entry?, decode?_map_ofChar, Option.bind_eq_bind, Option.bind_some,
        String.ofList_toList]
    rw [treeFields, List.mapM_cons, said, ih]
    rfl

/-- **The entries of an object are its fields**, if no key comes twice. -/
theorem entries?_tree {fields : List (String × Json)} (distinct : (fields.map Prod.fst).Nodup)
    (known : List String) :
    (object fields).tree.entries? known =
      some (fields.map fun field => (field.1, field.2.tree)) := by
  refine Tree.entries?_eq_some_iff.mpr (.inr ⟨_, rfl, mapM_entry?_treeFields fields, ?_⟩)
  rw [List.map_map]
  exact distinct.filter _

/-- An unsigned integer of 64 bits means itself. -/
theorem unsigned?_tree (value : UInt64) : (number value.toNat).tree.unsigned? = some value := by
  have same := decimal_toDigits value.toNat
  refine Tree.unsigned?_eq_some_iff.mpr ⟨Nat.toDigits 10 value.toNat, ?_, ?_, ?_⟩
  · have positive : ¬ (value.toNat : Int) < 0 := Int.not_lt.mpr (Int.natCast_nonneg _)
    rw [tree, Figures.ofInt, Int.natAbs_natCast, decide_eq_false positive]
  · rw [same]
    exact value.toNat_lt
  · rw [same, UInt64.ofNat_toNat]

/-- A name of a choice means what it names. -/
theorem choice?_tree (names : List (String × α)) (name : String) :
    (string name).tree.choice? names = names.lookup name := by
  rw [tree, Tree.choice?]
  exact named?_map_ofChar names name

end SourceScan.Json
