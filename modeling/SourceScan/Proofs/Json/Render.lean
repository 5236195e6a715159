import SourceScan.Proofs.Json.Compact
import SourceScan.Proofs.Json.Unique

/-!
# Proofs/Json/Render — compact texts tell values apart

The compact text of a value is a document of its tree and of no other, so that nothing is lost in
it.  No control character stands in it as it is: what a string holds of them is escaped, and there
is none outside strings.

* `Printed`, `printed_chars` — a compact text has no control character.
* `document_render_iff` — it is a document of one tree.
* `eq_of_tree_eq`, `render_injective` — a tree is that of one value, and so is a compact text.
-/

namespace SourceScan.Json

/-! ## Control characters -/

/-- **A text without control characters** below the blank. -/
def Printed (text : List Char) : Prop := ∀ c ∈ text, 0x20 ≤ c.toNat

variable {text text' : List Char}

theorem printed_of_all (all : (text.all fun c => decide (0x20 ≤ c.toNat)) = true) : Printed text :=
  fun c member => of_decide_eq_true (List.all_eq_true.mp all c member)

theorem printed_cons {c : Char} : Printed (c :: text) ↔ 0x20 ≤ c.toNat ∧ Printed text :=
  List.forall_mem_cons

theorem printed_append : Printed (text ++ text') ↔ Printed text ∧ Printed text' :=
  List.forall_mem_append

/-- **A character as it is written** has no control character in it. -/
theorem printed_character (c : Char) : Printed (character c) := by
  rw [character]
  cases found : shortEscapes.lookup c with
  | some letter =>
    have letters : Printed (shortEscapes.map Prod.snd) := printed_of_all (by decide)
    obtain ⟨before, after, split, -⟩ := List.lookup_eq_some_iff.mp found
    have member : (c, letter) ∈ shortEscapes := by rw [split]; simp
    exact printed_cons.mpr ⟨by decide,
      List.forall_mem_singleton.mpr (letters letter (List.mem_map_of_mem member))⟩
  | none =>
    dsimp only
    split
    · have digits : ∀ value < 16, 0x20 ≤ (Nat.digitChar value).toNat := by decide
      have word : Printed ['\\', 'u', '0', '0'] := printed_of_all (by decide)
      refine printed_append.mpr ⟨word, printed_cons.mpr ⟨digits _ (by omega), ?_⟩⟩
      exact List.forall_mem_singleton.mpr (digits _ (by omega))
    · rename_i noControl
      exact List.forall_mem_singleton.mpr (Nat.le_of_not_lt noControl)

/-- **A string between quotes** has no control character in it. -/
theorem printed_quote (text : String) : Printed (quote text) := by
  refine printed_cons.mpr ⟨by decide, printed_append.mpr ⟨fun d member => ?_, ?_⟩⟩
  · obtain ⟨c, -, written⟩ := List.mem_flatMap.mp member
    exact printed_character c d written
  · exact printed_of_all (by decide)

theorem printed_repr (value : Int) : Printed value.repr.toList := by
  intro c member
  obtain rfl | digit := isDigit_or_of_mem_repr member
  · decide
  · exact Nat.le_trans (by decide) (Char.isDigit_iff_toNat.mp digit).1

mutual

/-- **No control character stands in a compact text.** -/
theorem printed_chars : ∀ json : Json, Printed json.chars
  | .null => printed_of_all (by decide)
  | .bool true => printed_of_all (by decide)
  | .bool false => printed_of_all (by decide)
  | .number value => printed_repr value
  | .string text => printed_quote text
  | .list items =>
    printed_cons.mpr ⟨by decide, printed_append.mpr
      ⟨printed_charsItems items, printed_of_all (by decide)⟩⟩
  | .object fields =>
    printed_cons.mpr ⟨by decide, printed_append.mpr
      ⟨printed_charsFields fields, printed_of_all (by decide)⟩⟩

theorem printed_charsItems : ∀ items : List Json, Printed (charsItems items)
  | [] => printed_of_all rfl
  | [item] => printed_chars item
  | item :: next :: items =>
    printed_append.mpr ⟨printed_chars item,
      printed_cons.mpr ⟨by decide, printed_charsItems (next :: items)⟩⟩

theorem printed_charsFields : ∀ fields : List (String × Json), Printed (charsFields fields)
  | [] => printed_of_all rfl
  | [(key, value)] =>
    printed_append.mpr ⟨printed_quote key, printed_cons.mpr ⟨by decide, printed_chars value⟩⟩
  | (key, value) :: next :: fields =>
    printed_append.mpr ⟨printed_append.mpr ⟨printed_quote key,
      printed_cons.mpr ⟨by decide, printed_chars value⟩⟩,
      printed_cons.mpr ⟨by decide, printed_charsFields (next :: fields)⟩⟩

end

/-! ## One value -/

/-- **A compact text is a document of the tree of its value**, and of no other. -/
theorem document_render_iff {json : Json} {tree : Tree} :
    Document tree json.render.toList ↔ tree = json.tree :=
  ⟨fun document => document.unique (document_render json), fun same => same ▸ document_render json⟩

/-- The elements of a text are those of one text. -/
theorem map_ofChar_injective : Function.Injective (List.map Element.ofChar) := by
  intro text text' same
  have said := decode?_map_ofChar text
  rw [same, decode?_map_ofChar] at said
  exact (Option.some.inj said).symm

/-- The elements of a string are those of one string. -/
theorem toList_map_ofChar_inj {text text' : String}
    (same : text.toList.map Element.ofChar = text'.toList.map .ofChar) : text = text' :=
  String.toList_inj.mp (map_ofChar_injective same)

/-- **The figures of an integer** are those of one integer. -/
theorem Figures.ofInt_injective : Function.Injective Figures.ofInt := by
  intro value value' same
  obtain ⟨minus, whole, -, -⟩ := Figures.mk.inj same
  have digits := congrArg decimal whole
  rw [decimal_toDigits, decimal_toDigits] at digits
  have sign : value < 0 ↔ value' < 0 := decide_eq_decide.mp minus
  omega

mutual

/-- **A tree is that of one value.** -/
theorem eq_of_tree_eq : ∀ {json json' : Json}, json.tree = json'.tree → json = json'
  | .null, json', same => by
    cases json' with
    | null => rfl
    | _ => simp [tree] at same
  | .bool value, json', same => by
    cases json' with
    | bool value' =>
      rw [tree, tree] at same
      rw [Tree.bool.inj same]
    | _ => simp [tree] at same
  | .number value, json', same => by
    cases json' with
    | number value' =>
      rw [tree, tree] at same
      rw [Figures.ofInt_injective (Tree.number.inj same)]
    | _ => simp [tree] at same
  | .string text, json', same => by
    cases json' with
    | string text' =>
      rw [tree, tree] at same
      rw [toList_map_ofChar_inj (Tree.string.inj same)]
    | _ => simp [tree] at same
  | .list items, json', same => by
    cases json' with
    | list items' =>
      rw [tree, tree] at same
      rw [eq_of_treeItems_eq (Tree.list.inj same)]
    | _ => simp [tree] at same
  | .object fields, json', same => by
    cases json' with
    | object fields' =>
      rw [tree, tree] at same
      rw [eq_of_treeFields_eq (Tree.object.inj same)]
    | _ => simp [tree] at same

theorem eq_of_treeItems_eq : ∀ {items items' : List Json}, treeItems items = treeItems items' →
    items = items'
  | [], items', same => by
    cases items' with
    | nil => rfl
    | cons _ _ => cases same
  | item :: items, items', same => by
    cases items' with
    | nil => cases same
    | cons item' items' =>
      obtain ⟨first, others⟩ := List.cons.inj same
      rw [eq_of_tree_eq first, eq_of_treeItems_eq others]

theorem eq_of_treeFields_eq : ∀ {fields fields' : List (String × Json)},
    treeFields fields = treeFields fields' → fields = fields'
  | [], fields', same => by
    cases fields' with
    | nil => rfl
    | cons _ _ => cases same
  | (key, value) :: fields, fields', same => by
    cases fields' with
    | nil => cases same
    | cons field' fields' =>
      obtain ⟨key', value'⟩ := field'
      obtain ⟨first, others⟩ := List.cons.inj same
      obtain ⟨keys, values⟩ := Prod.mk.inj first
      rw [toList_map_ofChar_inj keys, eq_of_tree_eq values, eq_of_treeFields_eq others]

end

/-- **Values are told apart by their compact texts.** -/
theorem render_injective : Function.Injective render := by
  intro json json' same
  have document := document_render json
  rw [same] at document
  exact eq_of_tree_eq (document_render_iff.mp document)

end SourceScan.Json
