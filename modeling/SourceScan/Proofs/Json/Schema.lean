import SourceScan.Proofs.Json.Grammar

/-!
# Proofs/Json/Schema — what trees mean to a schema

The meaning of a tree is a value, or nothing where the tree does not fit.  A record is written as an
object, with its keys in any order and unknown ones among them, or as a list of its fields in their
order.  Both are entries by their keys, and an entry that is missing has a default.

* `Tree.unsigned?`, `Tree.choice?`, `Tree.optional?` — the meaning of integers, names and nulls.
* `Tree.entries?` — the entries of a record, by their keys.
* `slot` — the meaning of the entry under a key, or its default.
-/

namespace SourceScan.Json

variable {α : Type}

/-- **The name that a string says**, one out of several. -/
def named? (names : List (String × α)) (elements : List Element) : Option α := do
  let said ← decode? elements
  names.lookup (String.ofList said)

namespace Tree

/-- **An unsigned integer** of 64 bits: digits alone. -/
def unsigned? : Tree → Option UInt64
  | .number ⟨false, digits, none, none⟩ =>
    if decimal digits < 2 ^ 64 then some (UInt64.ofNat (decimal digits)) else none
  | _ => none

theorem unsigned?_eq_some_iff {tree : Tree} {value : UInt64} :
    tree.unsigned? = some value ↔ ∃ digits, tree = .number ⟨false, digits, none, none⟩ ∧
      decimal digits < 2 ^ 64 ∧ UInt64.ofNat (decimal digits) = value := by
  constructor
  · intro means
    unfold unsigned? at means
    split at means
    · rename_i digits
      obtain ⟨small, means⟩ := Option.ite_none_right_eq_some.mp means
      exact ⟨digits, rfl, small, Option.some.inj means⟩
    · cases means
  · rintro ⟨digits, rfl, small, rfl⟩
    exact if_pos small

/-- **A choice** of names: a string, or an object with one key and a null. -/
def choice? (names : List (String × α)) : Tree → Option α
  | .string elements => named? names elements
  | .object [(key, .null)] => named? names key
  | _ => none

theorem choice?_eq_some_iff {names : List (String × α)} {tree : Tree} {value : α} :
    tree.choice? names = some value ↔
      (∃ elements, tree = .string elements ∧ named? names elements = some value) ∨
        ∃ key, tree = .object [(key, .null)] ∧ named? names key = some value := by
  constructor
  · intro means
    unfold choice? at means
    split at means
    · exact .inl ⟨_, rfl, means⟩
    · exact .inr ⟨_, rfl, means⟩
    · cases means
  · rintro (⟨elements, rfl, means⟩ | ⟨key, rfl, means⟩)
    · exact means
    · exact means

/-- **An optional value**: a null, or the value. -/
def optional? (meaning : Tree → Option α) : Tree → Option (Option α)
  | .null => some none
  | tree => (meaning tree).map some

/-- **A member by its key**, if the key says something. -/
def entry? (member : List Element × Tree) : Option (String × Tree) := do
  let said ← decode? member.1
  some (String.ofList said, member.2)

/-- **The entries of a record** by their keys.  Every key of an object says something, and no known
one comes twice; the items of a list come under the known keys in their order, and are no more than
these. -/
def entries? (known : List String) : Tree → Option (List (String × Tree))
  | .list items => if items.length ≤ known.length then some (known.zip items) else none
  | .object members => do
    let entries ← members.mapM entry?
    if ((entries.map Prod.fst).filter (· ∈ known)).Nodup then some entries else none
  | _ => none

theorem entries?_eq_some_iff {known : List String} {tree : Tree}
    {entries : List (String × Tree)} :
    tree.entries? known = some entries ↔
      (∃ items, tree = .list items ∧ items.length ≤ known.length ∧ known.zip items = entries) ∨
        ∃ members, tree = .object members ∧ members.mapM entry? = some entries ∧
          ((entries.map Prod.fst).filter (· ∈ known)).Nodup := by
  constructor
  · intro means
    unfold entries? at means
    split at means
    · obtain ⟨few, means⟩ := Option.ite_none_right_eq_some.mp means
      exact .inl ⟨_, rfl, few, Option.some.inj means⟩
    · obtain ⟨entries', named, means⟩ := Option.bind_eq_some_iff.mp means
      obtain ⟨once, same⟩ := Option.ite_none_right_eq_some.mp means
      obtain rfl := Option.some.inj same
      exact .inr ⟨_, rfl, named, once⟩
    · cases means
  · rintro (⟨items, rfl, few, rfl⟩ | ⟨members, rfl, named, once⟩)
    · exact if_pos few
    · exact Option.bind_eq_some_iff.mpr ⟨entries, named, if_pos once⟩

end Tree

/-- **The meaning of the entry under a key**, or the default where there is none. -/
def slot (entries : List (String × Tree)) (key : String) (meaning : Tree → Option α)
    (default : α) : Option α :=
  match entries.lookup key with
  | some tree => meaning tree
  | none => some default

end SourceScan.Json
