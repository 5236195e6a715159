import SourceScan.Lex.Scan
import SourceScan.Proofs.Json.Render
import SourceScan.Proofs.Text.Counters
import SourceScan.Proofs.Token.Shown

/-!
# Proofs/Token/Dump — a dump loses nothing

The dump of a list of tokens is a document of one tree, and the tree means the list: to a schema in
which a kind without anything to add is its name, and any other kind is an object with the name as
its one key; which takes records in either of their forms; and in which integers have 64 bits.  So
the list is read back, whatever its texts hold, and dumps tell lists apart.

* `Json.Tree.signed?`, `Json.Tree.text?`, `Json.Tree.variant?`, `Json.Tree.items?`, `Json.required`
  — what such a schema is made of.
* `Token.meaning?`, `Position.meaning?`, `Span.meaning?`, `SpannedToken.meaning?` — the schema.
* `Token.meaning?_tree`, `SpannedToken.meaning?_tree` — what is dumped means itself.
* `Json.Decodes` — a text is a document of one tree, which means a value.
* `SpannedToken.dump_decodes` — the law of dumps.
-/

namespace SourceScan

namespace Json

variable {α : Type}

namespace Tree

/-- **A signed integer** of 64 bits; a zero has no sign. -/
def signed? : Tree → Option Int64
  | .number ⟨false, digits, none, none⟩ =>
    if decimal digits < 2 ^ 63 then some (Int64.ofInt (decimal digits)) else none
  | .number ⟨true, digits, none, none⟩ =>
    if 0 < decimal digits ∧ decimal digits ≤ 2 ^ 63 then some (Int64.ofInt (-decimal digits))
    else none
  | _ => none

/-- **The text that a string says.** -/
def text? : Tree → Option String
  | .string elements => (decode? elements).map String.ofList
  | _ => none

/-- **A variant with a value**: an object with one key, which names the variant, and under it a
value with a meaning to this variant. -/
def variant? (variants : List (String × (Tree → Option α))) : Tree → Option α
  | .object [(key, tree)] => do
    let meaning ← named? variants key
    meaning tree
  | _ => none

/-- **A list**, for the meanings of its items. -/
def items? (meaning : Tree → Option α) : Tree → Option (List α)
  | .list items => items.mapM meaning
  | _ => none

end Tree

/-- **The meaning of the entry under a key**, which must not be missing. -/
def required (entries : List (String × Tree)) (key : String) (meaning : Tree → Option α) :
    Option α := do
  let tree ← entries.lookup key
  meaning tree

/-- **A text decodes as a value**: it is a document of one tree and of no other, and the tree means
the value. -/
def Decodes (meaning : Tree → Option α) (text : String) (value : α) : Prop :=
  ∃ tree, (∀ other, Document other text.toList ↔ other = tree) ∧ meaning tree = some value

/-! ## What the compact text of a value means -/

/-- A signed integer of 64 bits means itself. -/
theorem signed?_tree (value : Int64) : (number value.toInt).tree.signed? = some value := by
  have low := value.le_toInt
  have high := value.toInt_lt
  have digits := decimal_toDigits value.toInt.natAbs
  rw [tree, Figures.ofInt]
  by_cases negative : value.toInt < 0
  · have range : 0 < decimal (Nat.toDigits 10 value.toInt.natAbs) ∧
        decimal (Nat.toDigits 10 value.toInt.natAbs) ≤ 2 ^ 63 := by omega
    have same : -(decimal (Nat.toDigits 10 value.toInt.natAbs) : Int) = value.toInt := by omega
    rw [decide_eq_true negative, Tree.signed?, if_pos range, same, Int64.ofInt_toInt]
  · have range : decimal (Nat.toDigits 10 value.toInt.natAbs) < 2 ^ 63 := by omega
    have same : (decimal (Nat.toDigits 10 value.toInt.natAbs) : Int) = value.toInt := by omega
    rw [decide_eq_false negative, Tree.signed?, if_pos range, same, Int64.ofInt_toInt]

/-- A text means itself. -/
theorem text?_tree (text : String) : (string text).tree.text? = some text := by
  rw [tree, Tree.text?, decode?_map_ofChar, Option.map_some, String.ofList_toList]

/-- A value under the name of a variant means what it means to the variant. -/
theorem variant?_tree {variants : List (String × (Tree → Option α))} {name : String}
    (value : Json) {meaning : Tree → Option α} (found : variants.lookup name = some meaning) :
    (object [(name, value)]).tree.variant? variants = meaning value.tree := by
  rw [tree, treeFields, treeFields, Tree.variant?, named?_map_ofChar, found]
  rfl

/-- A list means what its items mean. -/
theorem items?_tree {meaning : Tree → Option α} {toJson : α → Json} {values : List α}
    (means : ∀ value ∈ values, meaning (toJson value).tree = some value) :
    (list (values.map toJson)).tree.items? meaning = some values := by
  rw [tree, Tree.items?]
  induction values with
  | nil => rfl
  | cons value values ih =>
    obtain ⟨first, others⟩ := List.forall_mem_cons.mp means
    rw [List.map_cons, treeItems, List.mapM_cons, first, ih others]
    rfl

/-- A count that fits 64 bits means itself. -/
theorem unsigned?_tree_of_lt {count : Nat} (fits : count < 2 ^ 64) :
    (number count).tree.unsigned? = some (UInt64.ofNat count) := by
  have same : (UInt64.ofNat count).toNat = count := UInt64.toNat_ofNat_of_lt' fits
  have means := unsigned?_tree (UInt64.ofNat count)
  rwa [same] at means

end Json

open Json (Tree Decodes Printed required entries?_tree)

/-! ## The schema -/

/-- **The operator** that a tree means: one of the names of operators. -/
def Operator.meaning? : Tree → Option Operator :=
  Tree.choice? [("Add", .add), ("Sub", .sub), ("Mul", .mul), ("Div", .div), ("Equal", .equal)]

/-- The kinds of tokens that carry something, and what they carry. -/
def Token.variants : List (String × (Tree → Option Token)) :=
  [("ArithOp", fun tree => (Operator.meaning? tree).map .operator),
    ("IntegerLiteral", fun tree => tree.signed?.map .integer),
    ("StringLiteral", fun tree => tree.text?.map .string),
    ("Identifier", fun tree => tree.text?.map .identifier)]

/-- **The token** that a tree means: a kind alone, or a kind with what it carries. -/
def Token.meaning? (tree : Tree) : Option Token :=
  tree.choice? [("Semicolon", .semicolon)] <|> tree.variant? variants

/-- **The position** that a tree means. -/
def Position.meaning? (tree : Tree) : Option Position := do
  let entries ← tree.entries? ["line", "column", "byte_offset"]
  let line ← required entries "line" Tree.unsigned?
  let column ← required entries "column" Tree.unsigned?
  let offset ← required entries "byte_offset" Tree.unsigned?
  some ⟨line.toNat, column.toNat, offset.toNat⟩

/-- **The span** that a tree means. -/
def Span.meaning? (tree : Tree) : Option Span := do
  let entries ← tree.entries? ["start", "end"]
  let start ← required entries "start" Position.meaning?
  let stop ← required entries "end" Position.meaning?
  some ⟨start, stop⟩

/-- **The spanned token** that a tree means. -/
def SpannedToken.meaning? (tree : Tree) : Option SpannedToken := do
  let entries ← tree.entries? ["token", "span"]
  let token ← required entries "token" Token.meaning?
  let span ← required entries "span" Span.meaning?
  some ⟨token, span⟩

/-! ## What is dumped means itself -/

theorem Operator.meaning?_tree (operator : Operator) :
    meaning? (Json.string operator.name).tree = some operator := by
  rw [meaning?, Json.choice?_tree]
  cases operator <;> rfl

/-- **A token means itself**, whatever texts it carries. -/
theorem Token.meaning?_tree (token : Token) : meaning? token.toJson.tree = some token := by
  cases token with
  | semicolon => rfl
  | operator op =>
    have found : variants.lookup "ArithOp" = some fun tree =>
      (Operator.meaning? tree).map operator := rfl
    have carried := congrArg (Option.map operator) (Operator.meaning?_tree op)
    exact (Json.variant?_tree (.string op.name) found).trans carried
  | integer value =>
    have found : variants.lookup "IntegerLiteral" = some fun tree => tree.signed?.map integer := rfl
    have carried := congrArg (Option.map integer) (Json.signed?_tree value)
    exact (Json.variant?_tree (.number value.toInt) found).trans carried
  | string content =>
    have found : variants.lookup "StringLiteral" = some fun tree => tree.text?.map string := rfl
    have carried := congrArg (Option.map string) (Json.text?_tree content)
    exact (Json.variant?_tree (.string content) found).trans carried
  | identifier name =>
    have found : variants.lookup "Identifier" = some fun tree => tree.text?.map identifier := rfl
    have carried := congrArg (Option.map identifier) (Json.text?_tree name)
    exact (Json.variant?_tree (.string name) found).trans carried

/-- **A span of 64 bits**, at both of its ends. -/
structure Span.Fits (span : Span) : Prop where
  start : span.start.Fits
  stop : span.stop.Fits

theorem Position.meaning?_tree {position : Position} (fits : position.Fits) :
    meaning? position.toJson.tree = some position := by
  have distinct : ["line", "column", "byte_offset"].Nodup := by decide
  rw [meaning?, toJson]
  refine Option.bind_eq_some_iff.mpr ⟨_, entries?_tree ?_ _, ?_⟩
  · exact distinct
  refine Option.bind_eq_some_iff.mpr ⟨_, Json.unsigned?_tree_of_lt fits.line, ?_⟩
  refine Option.bind_eq_some_iff.mpr ⟨_, Json.unsigned?_tree_of_lt fits.column, ?_⟩
  refine Option.bind_eq_some_iff.mpr ⟨_, Json.unsigned?_tree_of_lt fits.offset, ?_⟩
  rw [UInt64.toNat_ofNat_of_lt' fits.line, UInt64.toNat_ofNat_of_lt' fits.column,
    UInt64.toNat_ofNat_of_lt' fits.offset]

theorem Span.meaning?_tree {span : Span} (fits : span.Fits) :
    meaning? span.toJson.tree = some span := by
  have distinct : ["start", "end"].Nodup := by decide
  rw [meaning?, toJson]
  refine Option.bind_eq_some_iff.mpr ⟨_, entries?_tree ?_ _, ?_⟩
  · exact distinct
  refine Option.bind_eq_some_iff.mpr ⟨_, Position.meaning?_tree fits.start, ?_⟩
  exact Option.bind_eq_some_iff.mpr ⟨_, Position.meaning?_tree fits.stop, rfl⟩

/-- **A spanned token means itself** if its span fits. -/
theorem SpannedToken.meaning?_tree {spanned : SpannedToken} (fits : spanned.span.Fits) :
    meaning? spanned.toJson.tree = some spanned := by
  have distinct : ["token", "span"].Nodup := by decide
  rw [meaning?, toJson]
  refine Option.bind_eq_some_iff.mpr ⟨_, entries?_tree ?_ _, ?_⟩
  · exact distinct
  refine Option.bind_eq_some_iff.mpr ⟨_, Token.meaning?_tree spanned.token, ?_⟩
  exact Option.bind_eq_some_iff.mpr ⟨_, Span.meaning?_tree fits, rfl⟩

/-- **The compact text of a list decodes as the list** if its items mean themselves. -/
theorem Json.decodes_render {α : Type} {meaning : Tree → Option α} {toJson : α → Json}
    {values : List α} (means : ∀ value ∈ values, meaning (toJson value).tree = some value) :
    Decodes (Tree.items? meaning) (Json.list (values.map toJson)).render values :=
  ⟨_, fun _ => document_render_iff, items?_tree means⟩

/-- A compact text has no control character in it. -/
theorem Json.printed_render (json : Json) : Printed json.render.toList := by
  rw [render, String.toList_ofList]
  exact printed_chars json

/-! ## Dumps tell lists apart -/

theorem Token.toJson_injective : Function.Injective toJson := by
  intro token token' same
  have means := meaning?_tree token
  rw [same, meaning?_tree] at means
  exact (Option.some.inj means).symm

theorem Position.toJson_injective : Function.Injective toJson := by
  rintro ⟨line, column, offset⟩ ⟨line', column', offset'⟩ same
  simpa [toJson, Int.ofNat_inj] using same

theorem Span.toJson_injective : Function.Injective toJson := by
  rintro ⟨start, stop⟩ ⟨start', stop'⟩ same
  obtain ⟨starts, stops⟩ : start.toJson = start'.toJson ∧ stop.toJson = stop'.toJson := by
    simpa [toJson] using same
  rw [Position.toJson_injective starts, Position.toJson_injective stops]

theorem SpannedToken.toJson_injective : Function.Injective toJson := by
  rintro ⟨token, span⟩ ⟨token', span'⟩ same
  obtain ⟨tokens, spans⟩ : token.toJson = token'.toJson ∧ span.toJson = span'.toJson := by
    simpa [toJson] using same
  rw [Token.toJson_injective tokens, Span.toJson_injective spans]

/-- **Lists of tokens are told apart by their dumps.** -/
theorem Token.dump_injective : Function.Injective dump := fun _ _ same =>
  List.map_injective_iff.mpr toJson_injective (Json.list.inj (Json.render_injective same))

/-- **Lists of spanned tokens are told apart by their dumps.** -/
theorem SpannedToken.dump_injective : Function.Injective dump := fun _ _ same =>
  List.map_injective_iff.mpr toJson_injective (Json.list.inj (Json.render_injective same))

/-- **A dump loses nothing.**  The dump of a list of tokens is a document without a raw control
character, of one tree and no other, and decodes as the list; so does that of a list of spanned
tokens whose positions fit 64 bits.  So two sources that scan have one dump exactly if they have
the same tokens with the same spans, and one dump of their tokens alone exactly if they have the
same tokens. -/
theorem SpannedToken.dump_decodes :
    (∀ tokens : List Token, Printed (Token.dump tokens).toList ∧
      Decodes (Tree.items? Token.meaning?) (Token.dump tokens) tokens) ∧
    (∀ spanned : List SpannedToken, (∀ token ∈ spanned, token.span.Fits) →
      Printed (dump spanned).toList ∧
        Decodes (Tree.items? SpannedToken.meaning?) (dump spanned) spanned) ∧
    (∀ source source' spanned spanned', (Lex.scanSource source).result = .ok spanned →
      (Lex.scanSource source').result = .ok spanned' →
        (dump spanned = dump spanned' ↔ spanned = spanned')) ∧
    (∀ source source' tokens tokens', Lex.scan source = .ok tokens →
      Lex.scan source' = .ok tokens' →
        (Token.dump tokens = Token.dump tokens' ↔ tokens = tokens')) := by
  refine ⟨fun tokens => ⟨Json.printed_render _, ?_⟩,
    fun spanned fits => ⟨Json.printed_render _, ?_⟩, ?_, ?_⟩
  · exact Json.decodes_render fun token _ => Token.meaning?_tree token
  · exact Json.decodes_render fun token member => meaning?_tree (fits token member)
  · exact fun _ _ _ _ _ _ => dump_injective.eq_iff
  · exact fun _ _ _ _ _ _ => Token.dump_injective.eq_iff

/-- A string with quotes, a backslash and controls, the least integer, and the largest position
come back.  A blank in front of a token moves its span, so that the dumps of the two sources differ
though those of their tokens do not. -/
theorem SpannedToken.dump_decodes_controls :
    let tokens : List Token :=
      [.string "\"\x7d, \\\"\n\x00\x7f\u2028", .integer Int64.minValue, .semicolon]
    let spanned : List SpannedToken := [⟨.operator .equal, ⟨⟨1, 1, 0⟩, ⟨1, 2, 2 ^ 64 - 1⟩⟩⟩]
    (Printed (Token.dump tokens).toList ∧
        Decodes (Tree.items? Token.meaning?) (Token.dump tokens) tokens) ∧
      (Printed (dump spanned).toList ∧
        Decodes (Tree.items? SpannedToken.meaning?) (dump spanned) spanned) ∧
      dump [⟨.semicolon, ⟨⟨1, 1, 0⟩, ⟨1, 2, 1⟩⟩⟩] ≠ dump [⟨.semicolon, ⟨⟨1, 2, 1⟩, ⟨1, 3, 2⟩⟩⟩] ∧
      Token.dump [.semicolon] = Token.dump [.semicolon] := by
  intro tokens spanned
  obtain ⟨alone, withSpans, sources, sourcesAlone⟩ := dump_decodes
  refine ⟨alone tokens, withSpans spanned ?_, ?_, ?_⟩
  · exact List.forall_mem_singleton.mpr
      ⟨⟨by decide, by decide, by decide⟩, ⟨by decide, by decide, by decide⟩⟩
  · exact mt (sources ";" " ;" _ _ rfl rfl).mp (by decide)
  · exact (sourcesAlone ";" " ;" _ _ rfl rfl).mpr rfl

end SourceScan
