import Mathlib.Data.List.Nodup
import Mathlib.Data.List.Pairwise
import SourceScan.Proofs.Json.Recognition

/-!
# Proofs/Json/Entries — the entries of a record

The entries of a record are entered one after another as they come.  Since those under different
keys may change places, and no known key comes twice, the record may as well be filled key by key.

* `FieldSpec`, `RecordSpec` — what is known of a field, and of a record.
* `RecordSpec.enter`, `RecordSpec.fill` — entering what comes, and filling a record key by key.
* `RecordSpec.foldlM_enter_eq` — both make the same record.
-/

namespace SourceScan.Json

variable {ρ : Type}

/-- **What is known of a field** of a record: its key, how its value is read, what the value means
and where it is put. -/
structure FieldSpec (ρ : Type) where
  key : String
  Value : Type
  reading : Reading Value
  meaning : Tree → Option Value
  put : Value → ρ → ρ
  recognizes : Recognizes reading meaning

namespace FieldSpec

/-- The field of a record, as it is read. -/
def field (spec : FieldSpec ρ) : Field ρ := .of spec.key spec.reading spec.put

/-- What a value in a field does to a record. -/
def effect (spec : FieldSpec ρ) (tree : Tree) : Option (ρ → ρ) := (spec.meaning tree).map spec.put

/-- Values in two fields may be put in either order. -/
def Commutes (first second : FieldSpec ρ) : Prop :=
  ∀ value value' record, first.put value (second.put value' record) =
    second.put value' (first.put value record)

instance : Std.Symm (Commutes : FieldSpec ρ → FieldSpec ρ → Prop) where
  symm _ _ commutes value value' record := (commutes value' value record).symm

end FieldSpec

/-- **What is known of a record**: fields under different keys, whose values may be put in any
order. -/
structure RecordSpec (ρ : Type) where
  fields : List (FieldSpec ρ)
  distinct : (fields.map FieldSpec.key).Nodup
  commutes : fields.Pairwise FieldSpec.Commutes

namespace RecordSpec

variable (spec : RecordSpec ρ)

/-- The known keys, in the order of the fields. -/
def keys : List String := spec.fields.map FieldSpec.key

/-- **What a value under a key does** to a record; under an unknown key, it does nothing. -/
def effect (key : String) : Tree → Option (ρ → ρ) :=
  match spec.fields.find? fun field => field.key == key with
  | some field => field.effect
  | none => fun _ => some id

/-- **What an entry makes of a record**, if its value has a meaning under its key. -/
def enter (record : ρ) (entry : String × Tree) : Option ρ :=
  (spec.effect entry.1 entry.2).map fun put => put record

/-- **What the entry under a key makes of a record**; nothing is changed where there is none. -/
def fill (entries : List (String × Tree)) (record : ρ) (key : String) : Option ρ :=
  match entries.lookup key with
  | some tree => spec.enter record (key, tree)
  | none => some record

/-- **The record that a tree means**: its default, filled key by key. -/
def meaning? (default : ρ) (tree : Tree) : Option ρ := do
  let entries ← tree.entries? spec.keys
  spec.keys.foldlM (spec.fill entries) default

variable {spec} {record : ρ} {name : String} {tree : Tree} {entries : List (String × Tree)}

/-- A field is found by its key. -/
theorem effect_key {field : FieldSpec ρ} (member : field ∈ spec.fields) :
    spec.effect field.key = field.effect := by
  cases found : spec.fields.find? fun other => other.key == field.key with
  | some other =>
    have same := List.find?_some found
    obtain rfl := List.inj_on_of_nodup_map spec.distinct (List.mem_of_find?_eq_some found) member
      (beq_iff_eq.mp same)
    rw [effect, found]
  | none => exact absurd (beq_self_eq_true field.key) (List.find?_eq_none.mp found field member)

/-- What a value in a field does is recognized. -/
theorem recognizes_field {field : FieldSpec ρ} (member : field ∈ spec.fields) :
    Recognizes field.field.read (spec.effect field.key) :=
  effect_key member ▸ Json.recognizes_field field.recognizes field.key field.put

/-- Under an unknown key, nothing is done. -/
theorem effect_of_notMem (unknown : name ∉ spec.keys) : spec.effect name = fun _ => some id := by
  cases found : spec.fields.find? fun field => field.key == name with
  | some field =>
    have same := List.find?_some found
    exact absurd (List.mem_map.mpr ⟨field, List.mem_of_find?_eq_some found, beq_iff_eq.mp same⟩)
      unknown
  | none => rw [effect, found]

/-- What is done under a key is done by its field, unless it is nothing. -/
theorem exists_of_effect {put : ρ → ρ} (does : spec.effect name tree = some put) :
    put = id ∨ ∃ field ∈ spec.fields, field.key = name ∧ ∃ value, put = field.put value := by
  cases found : spec.fields.find? fun field => field.key == name with
  | some field =>
    rw [effect, found] at does
    obtain ⟨value, -, rfl⟩ := Option.map_eq_some_iff.mp does
    have same := List.find?_some found
    exact .inr ⟨field, List.mem_of_find?_eq_some found, beq_iff_eq.mp same, value, rfl⟩
  | none =>
    rw [effect, found] at does
    exact .inl (Option.some.inj does).symm

/-- **Under different keys**, values may be put in any order. -/
theorem effect_comm {name' : String} {tree' : Tree} {put put' : ρ → ρ} (apart : name ≠ name')
    (does : spec.effect name tree = some put) (does' : spec.effect name' tree' = some put')
    (record : ρ) : put (put' record) = put' (put record) := by
  obtain rfl | ⟨field, member, rfl, value, rfl⟩ := exists_of_effect does
  · rfl
  obtain rfl | ⟨field', member', rfl, value', rfl⟩ := exists_of_effect does'
  · rfl
  exact spec.commutes.forall member member' (fun same => apart (congrArg _ same))
    value value' record

/-- **Filling a slot** puts the meaning of its entry into the record, or the default that is there
already. -/
theorem fill_eq_slot {field : FieldSpec ρ} (member : field ∈ spec.fields) {default : field.Value}
    (unset : field.put default record = record) :
    spec.fill entries record field.key =
      (slot entries field.key field.meaning default).map fun value => field.put value record := by
  cases found : entries.lookup field.key with
  | some tree =>
    simp only [fill, slot, found, enter, effect_key member, FieldSpec.effect, Option.map_map]
    rfl
  | none => simp only [fill, slot, found, Option.map_some, unset]

/-- What is done with a record after a slot is filled is done with what is in the slot. -/
theorem fill_bind {α : Type} {next : ρ → Option α} {field : FieldSpec ρ}
    (member : field ∈ spec.fields) {default : field.Value}
    (unset : field.put default record = record) :
    (spec.fill entries record field.key).bind next =
      (slot entries field.key field.meaning default).bind fun value =>
        next (field.put value record) := by
  rw [fill_eq_slot member unset, Option.bind_map]
  rfl

/-! ## Entries in the order of the fields -/

/-- Entries under different keys are entered in either order. -/
theorem enter_fill {key : String} (apart : name ≠ key) :
    (spec.enter record (name, tree)).bind (spec.fill entries · key) =
      (spec.fill entries record key).bind (spec.enter · (name, tree)) := by
  unfold fill
  split
  · rename_i tree' _
    unfold enter
    cases first : spec.effect name tree with
    | none => cases spec.effect key tree' <;> rfl
    | some put =>
      cases second : spec.effect key tree' with
      | none => rfl
      | some put' =>
        exact congrArg some (effect_comm apart first second record).symm
  · simp only [Option.bind_fun_some, Option.bind_some]

/-- An entry in front makes no difference under other keys. -/
theorem fill_cons_of_ne {key : String} (apart : key ≠ name) :
    spec.fill ((name, tree) :: entries) record key = spec.fill entries record key := by
  rw [fill, fill, List.lookup_cons, beq_eq_false_iff_ne.mpr apart]

theorem foldlM_fill_cons_of_notMem {keys : List String} (apart : name ∉ keys) :
    keys.foldlM (spec.fill ((name, tree) :: entries)) record =
      keys.foldlM (spec.fill entries) record := by
  induction keys generalizing record with
  | nil => rfl
  | cons key keys ih =>
    obtain ⟨first, others⟩ := not_or.mp fun same => apart (List.mem_cons.mpr same)
    rw [List.foldlM_cons, List.foldlM_cons, fill_cons_of_ne (Ne.symm first)]
    exact bind_congr fun record => ih others

/-- **An entry under a key that no other has** is entered at once or at its turn. -/
theorem enter_foldlM_fill {keys : List String} (distinct : keys.Nodup) (isKnown : name ∈ keys)
    (missing : entries.lookup name = none) :
    (spec.enter record (name, tree)).bind (keys.foldlM (spec.fill entries)) =
      keys.foldlM (spec.fill ((name, tree) :: entries)) record := by
  induction keys generalizing record with
  | nil => cases isKnown
  | cons key keys ih =>
    obtain ⟨notAgain, distinct⟩ := List.nodup_cons.mp distinct
    by_cases same : name = key
    · subst same
      have enters : spec.fill ((name, tree) :: entries) record name =
          spec.enter record (name, tree) := by rw [fill, List.lookup_cons_self]
      rw [List.foldlM_cons, enters]
      refine Option.bind_congr fun record _ => ?_
      rw [List.foldlM_cons, fill, missing]
      exact (foldlM_fill_cons_of_notMem notAgain).symm
    · have others : name ∈ keys := (List.mem_cons.mp isKnown).resolve_left same
      calc (spec.enter record (name, tree)).bind ((key :: keys).foldlM (spec.fill entries))
        _ = ((spec.enter record (name, tree)).bind (spec.fill entries · key)).bind
              (keys.foldlM (spec.fill entries)) := by
            rw [Option.bind_assoc]
            rfl
        _ = (spec.fill entries record key).bind fun record =>
              (spec.enter record (name, tree)).bind (keys.foldlM (spec.fill entries)) := by
            rw [enter_fill same, Option.bind_assoc]
        _ = (key :: keys).foldlM (spec.fill ((name, tree) :: entries)) record := by
            rw [List.foldlM_cons, fill_cons_of_ne (Ne.symm same)]
            exact Option.bind_congr fun record _ => ih distinct others

/-- Without entries, a record stays as it is. -/
theorem foldlM_fill_nil (keys : List String) : keys.foldlM (spec.fill []) record = some record := by
  induction keys with
  | nil => rfl
  | cons key keys ih => exact ih

/-- **The order of the entries of a record makes no difference**: entering them as they come is
filling the record key by key. -/
theorem foldlM_enter_eq (once : ((entries.map Prod.fst).filter (· ∈ spec.keys)).Nodup) :
    entries.foldlM spec.enter record = spec.keys.foldlM (spec.fill entries) record := by
  induction entries generalizing record with
  | nil => exact (foldlM_fill_nil spec.keys).symm
  | cons entry entries ih =>
    obtain ⟨name, tree⟩ := entry
    rw [List.map_cons] at once
    rw [List.foldlM_cons]
    by_cases isKnown : name ∈ spec.keys
    · rw [List.filter_cons_of_pos (by simpa using isKnown), List.nodup_cons] at once
      have again : name ∉ entries.map Prod.fst := fun member =>
        once.1 (List.mem_filter.mpr ⟨member, by simpa using isKnown⟩)
      have missing : entries.lookup name = none := List.lookup_eq_none_iff.mpr fun entry member =>
        bne_iff_ne.mpr fun same => again (same ▸ List.mem_map_of_mem member)
      have distinct : spec.keys.Nodup := spec.distinct
      rw [← enter_foldlM_fill distinct isKnown missing]
      exact Option.bind_congr fun record _ => ih once.2
    · rw [List.filter_cons_of_neg (by simpa using isKnown)] at once
      have unchanged : spec.enter record (name, tree) = some record := by
        rw [enter, effect_of_notMem isKnown]
        rfl
      rw [unchanged, foldlM_fill_cons_of_notMem isKnown]
      exact ih once

end RecordSpec

/-- The keys of the items of a list are the first ones of the known keys. -/
theorem map_fst_zip_sublist (known : List String) (items : List Tree) :
    ((known.zip items).map Prod.fst).Sublist known := by
  induction known generalizing items with
  | nil => exact .slnil
  | cons key known ih =>
    cases items with
    | nil => exact List.nil_sublist _
    | cons item items => exact (ih items).cons_cons key

/-- **No known key comes twice** among the entries of a record. -/
theorem once_of_entries? {known : List String} {tree : Tree}
    {entries : List (String × Tree)} (distinct : known.Nodup)
    (found : tree.entries? known = some entries) :
    ((entries.map Prod.fst).filter (· ∈ known)).Nodup := by
  obtain ⟨items, -, -, rfl⟩ | ⟨_, -, -, once⟩ := Tree.entries?_eq_some_iff.mp found
  · exact distinct.sublist (List.filter_sublist.trans (map_fst_zip_sublist known items))
  · exact once

end SourceScan.Json
