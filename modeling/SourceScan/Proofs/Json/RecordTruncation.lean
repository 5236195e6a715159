import SourceScan.Proofs.Json.Record
import SourceScan.Proofs.Json.Truncation

/-!
# Proofs/Json/RecordTruncation — records that are cut off

A record is cut in front of an entry, in a key, in a value or behind it; and if a value is a number
that is cut between its digits, the record ends behind it.  So a front of a record that lacks its
bracket has ended, provided that no entry is passed over: of a value that nobody asks for even the
front is looked at for what is wrong with it.

* `cut_turn_closer`, `cut_turn_entry`, `cut_key` — what comes next in a bracket, and keys.
* `Items.cut_positional`, `Members.cut_keyed` — a record in a list and in an object.
* `Tree.NamesOnly` — a record without unknown keys.
* `RecordSpec.cut_record`, `RecordSpec.cutsAt_record` — a record in either form.
-/

namespace SourceScan.Json

variable {ρ α : Type} {front back rest : List Char}

/-! ## Turns and keys -/

/-- There is no turn in a text of blanks. -/
theorem ended_turn {bracket : Bracket} {opened : Bool} (nothing : skipBlanks front = []) :
    Ended (turn bracket opened front) := ended_behind nothing

/-- **The end of a bracket** is cut off, or is found. -/
theorem cut_turn_closer (bracket : Bracket) {opened : Bool}
    (blanks : Blanks (front ++ back) (bracket.closer :: rest)) :
    Ended (turn bracket opened front) ∨ ∃ closing : Read front Unit,
      turn bracket opened front = .ok (.closed closing) ∧ rest = closing.rest ++ back := by
  have noBlank : isSpace bracket.closer = false := by cases bracket <;> rfl
  obtain nothing | ⟨left, skipped, rfl⟩ := skipBlanks_cut (blanks.skipBlanks_cons noBlank)
  · exact .inl (ended_turn nothing)
  · obtain ⟨closing, found, rfl⟩ := turn_of_closer bracket opened (.of_skipBlanks skipped)
    exact .inr ⟨closing, found, rfl⟩

/-- **The start of an entry** is cut off, with its comma or without, or is found. -/
theorem cut_turn_entry (bracket : Bracket) {opened : Bool} {start next : List Char} {c : Char}
    (separated : Separated opened (front ++ back) start) (starts : skipBlanks start = c :: next)
    (noEnd : c ≠ bracket.closer) :
    Ended (turn bracket opened front) ∨ ∃ (lead : Part front Unit) (left : List Char),
      turn bracket opened front = .ok (.entry lead) ∧ lead.rest = c :: left ∧
        next = left ++ back := by
  cases separated with
  | first blanks =>
    obtain nothing | ⟨left, skipped, rfl⟩ := skipBlanks_cut (blanks.skipBlanks_eq.trans starts)
    · exact .inl (ended_turn nothing)
    · obtain ⟨lead, found, leads⟩ := turn_of_entry bracket
        (.first (.of_skipBlanks skipped)) (skipBlanks_of_skipBlanks skipped) noEnd
      exact .inr ⟨lead, left, found, leads, rfl⟩
  | comma before behind =>
    obtain nothing | ⟨middle, skipped, rfl⟩ := skipBlanks_cut (before.skipBlanks_cons rfl)
    · exact .inl (ended_turn nothing)
    obtain nothing | ⟨left, skips, rfl⟩ := skipBlanks_cut (behind.skipBlanks_eq.trans starts)
    · have noCloser : ',' ≠ bracket.closer := by cases bracket <;> decide
      refine .inl (ended_behind_cons skipped ?_)
      rw [if_neg noCloser, if_neg (by decide), if_pos rfl]
      exact ended_behind nothing
    · obtain ⟨lead, found, leads⟩ := turn_of_entry bracket
        (.comma (.of_skipBlanks skipped) (.refl middle)) skips noEnd
      exact .inr ⟨lead, left, found, leads, rfl⟩

/-- **A key** is cut in its string, if its quote is there. -/
theorem cut_key {name : String} (reads : Reads (key (front ++ back)) name rest)
    (nonempty : front ≠ []) : Cut (key front) back name rest := by
  obtain ⟨c, front, rfl⟩ := List.exists_cons_of_ne_nil nonempty
  rw [List.cons_append, key] at reads
  rw [key]
  split at reads
  · rename_i quote
    rw [if_pos quote]
    obtain ⟨read, found, reads⟩ := reads_bind.mp reads
    obtain ⟨rfl, rfl⟩ := reads_ok.mp reads
    exact (cut_text ⟨read, found, rfl, rfl⟩).bind_ok fun _ same => ⟨same, rfl⟩
  · exact absurd reads not_reads_error

/-- There is no end of a list in a text of blanks. -/
theorem ended_listEnd (nothing : skipBlanks front = []) : Ended (listEnd front) :=
  ended_behind nothing

/-- **The end of a list** that has all its fields is cut off, or is found. -/
theorem cut_listEnd (blanks : Blanks (front ++ back) (']' :: rest)) :
    Cut (listEnd front) back () rest := by
  obtain nothing | ⟨left, skipped, rfl⟩ := skipBlanks_cut (blanks.skipBlanks_cons rfl)
  · exact .inl (ended_listEnd nothing)
  · exact .inr ⟨left, rfl, reads_listEnd.mpr (.of_skipBlanks skipped)⟩

/-! ## Fields -/

/-- What a field does to a record is cut where its value is. -/
theorem cutsAt_field {reading : Reading α} {meaning : Tree → Option α} {within : Tree → Prop}
    (cuts : CutsAt reading meaning within) (key : String) (put : α → ρ → ρ) :
    CutsAt (Field.of key reading put).read (fun tree => (meaning tree).map put) within := by
  intro tree front back value rest written delimited means isWithin
  obtain ⟨meant, isMeant, rfl⟩ := Option.map_eq_some_iff.mp means
  obtain cut | ⟨other, read, found, same, left⟩ := cuts written delimited isMeant isWithin
  · exact .inl (cut.bind_ok fun _ same => ⟨congrArg put same, rfl⟩)
  · exact .inr ⟨put other, reads_bind.mpr ⟨read, found, reads_ok.mpr ⟨congrArg put same, left⟩⟩⟩

variable {spec : RecordSpec ρ} {within : String → Tree → Prop} {record value : ρ}

namespace RecordSpec

/-- What is done under a known key is cut where the value of its field is. -/
theorem cutsAt_effect (each : ∀ field ∈ spec.fields,
      CutsAt field.reading field.meaning (within field.key)) {field : FieldSpec ρ}
    (member : field ∈ spec.fields) :
    CutsAt field.field.read (spec.effect field.key) (within field.key) :=
  effect_key member ▸ cutsAt_field (each field member) field.key field.put

/-- **The value under a known key** is cut as that of its field. -/
theorem cutsAt_valueFor (each : ∀ field ∈ spec.fields,
      CutsAt field.reading field.meaning (within field.key)) {name : String}
    (isKnown : name ∈ spec.keys) :
    CutsAt (valueFor ((spec.fields.map FieldSpec.field).find? fun field => field.key == name))
      (spec.effect name) (within name) := by
  have found : ((spec.fields.map FieldSpec.field).find? fun field => field.key == name) =
      (spec.fields.find? fun field => field.key == name).map FieldSpec.field := List.find?_map
  cases which : spec.fields.find? fun field => field.key == name with
  | some field =>
    have same := List.find?_some which
    obtain rfl : field.key = name := beq_iff_eq.mp same
    rw [found, which]
    exact cutsAt_effect each (List.mem_of_find?_eq_some which)
  | none =>
    obtain ⟨field, member, rfl⟩ := List.mem_map.mp isKnown
    exact absurd (beq_self_eq_true field.key) (List.find?_eq_none.mp which field member)

end RecordSpec

/-! ## Records -/

/-- There are no more fields in a list at the end of the text. -/
theorem ended_positional (fields : List (Field ρ)) (record : ρ) :
    Ended (positional fields false record []) := by
  cases fields with
  | nil =>
    have ended : Ended (listEnd []) := ended_listEnd rfl
    exact ended.bind _
  | cons field fields =>
    have ended : Ended (turn .list false []) := ended_turn rfl
    exact ended.bind _

/-- There are no more fields in an object at the end of the text. -/
theorem ended_keyed (fields : List (Field ρ)) (seen : List String) (record : ρ) :
    Ended (keyed fields seen false record []) := by
  have ended : Ended (turn .object false []) := ended_turn rfl
  rw [keyed]
  exact ended.bind _

/-- **A record in a list** is cut in an item or between two. -/
theorem Items.cut_positional {fields : List (FieldSpec ρ)} {opened : Bool} {items : List Tree}
    (each : ∀ field ∈ spec.fields, CutsAt field.reading field.meaning (within field.key))
    (known : ∀ field ∈ fields, field ∈ spec.fields)
    (written : Items opened items (front ++ back) rest) (few : items.length ≤ fields.length)
    (folds : ((fields.map FieldSpec.key).zip items).foldlM spec.enter record = some value)
    (inside : ∀ entry ∈ (fields.map FieldSpec.key).zip items, within entry.1 entry.2) :
    Cut (Json.positional (fields.map FieldSpec.field) opened record front) back value rest := by
  induction fields generalizing opened items record front with
  | nil =>
    obtain rfl := List.eq_nil_of_length_eq_zero (Nat.le_zero.mp few)
    obtain rfl := Option.some.inj folds
    cases written with
    | closed blanks => exact (cut_listEnd blanks).bind_ok fun _ _ => ⟨rfl, rfl⟩
  | cons field fields ih =>
    obtain ⟨isKnown, knownOthers⟩ := List.forall_mem_cons.mp known
    rw [List.map_cons, Json.positional]
    cases written with
    | closed blanks =>
      obtain rfl := Option.some.inj folds
      obtain ended | ⟨closing, found, left⟩ := cut_turn_closer .list blanks
      · exact .inl (ended.bind _)
      · rw [found]
        exact cut_ok rfl left
    | item separated isValue isOthers =>
      obtain ⟨c, next, starts, noEnd, isValue⟩ := isValue.starts
      obtain ended | ⟨lead, left, found, leads, rfl⟩ :=
        cut_turn_entry .list separated starts noEnd
      · exact .inl (ended.bind _)
      rw [List.map_cons, List.zip_cons_cons] at folds inside
      rw [List.foldlM_cons] at folds
      obtain ⟨isInside, insideOthers⟩ := List.forall_mem_cons.mp inside
      obtain ⟨between, enters, folds⟩ := Option.bind_eq_some_iff.mp folds
      obtain ⟨put, means, rfl⟩ := Option.map_eq_some_iff.mp enters
      rw [← List.cons_append, ← leads] at isValue
      rw [found]
      change Cut (field.field.read lead.rest >>= _) back value rest
      obtain cut | ⟨other, read, readValue, -, atEnd⟩ :=
        RecordSpec.cutsAt_effect each isKnown isValue isOthers.delimited means isInside
      · refine cut.bind fun read same left => ?_
        rw [left] at isOthers
        rw [same]
        exact (ih knownOthers isOthers (Nat.le_of_succ_le_succ few) folds insideOthers).bind_ok
          fun _ same => ⟨same, rfl⟩
      · refine .inl (.of_ok readValue (Ended.bind ?_ _))
        rw [atEnd]
        exact ended_positional _ _

/-- **A record in an object** is cut in a member or between two, if no key is unknown. -/
theorem Members.cut_keyed {seen : List String} {opened : Bool}
    {members : List (List Element × Tree)} {entries : List (String × Tree)}
    (each : ∀ field ∈ spec.fields, CutsAt field.reading field.meaning (within field.key))
    (written : Members opened members (front ++ back) rest)
    (named : members.mapM Tree.entry? = some entries)
    (fresh : Fresh spec.keys seen (entries.map Prod.fst))
    (folds : entries.foldlM spec.enter record = some value)
    (inside : ∀ entry ∈ entries, entry.1 ∈ spec.keys ∧ within entry.1 entry.2) :
    Cut (Json.keyed (spec.fields.map FieldSpec.field) seen opened record front) back value rest := by
  induction members generalizing seen opened record front entries with
  | nil =>
    obtain rfl := Option.some.inj named
    obtain rfl := Option.some.inj folds
    rw [Json.keyed]
    cases written with
    | closed blanks =>
      obtain ended | ⟨closing, found, left⟩ := cut_turn_closer .object blanks
      · exact .inl (ended.bind _)
      · rw [found]
        exact cut_ok rfl left
  | cons member members ih =>
    obtain ⟨key, tree⟩ := member
    obtain ⟨name, others, spells, namedOthers, rfl⟩ := mapM_entry?_cons.mp named
    obtain ⟨unseen, fresh⟩ := fresh_cons.mp fresh
    obtain ⟨⟨isKnown, isInside⟩, insideOthers⟩ := List.forall_mem_cons.mp inside
    rw [List.foldlM_cons] at folds
    obtain ⟨between, enters, foldsOthers⟩ := Option.bind_eq_some_iff.mp folds
    obtain ⟨put, means, rfl⟩ := Option.map_eq_some_iff.mp enters
    rw [Json.keyed]
    cases written with
    | member separated isKey isValue isOthers =>
      obtain ⟨start, quoted, isColon⟩ := isKey
      obtain ended | ⟨lead, left, found, leads, rfl⟩ :=
        cut_turn_entry .object separated (start.skipBlanks_cons rfl) (by decide)
      · exact .inl (ended.bind _)
      rw [found]
      change Cut (Json.key lead.rest >>= _) back value rest
      have isKey : Reads (Json.key (lead.rest ++ back)) name _ :=
        reads_key.mpr ⟨_, key, by rw [leads]; rfl, quoted, spells⟩
      refine (cut_key isKey (by rw [leads]; exact List.cons_ne_nil _ _)).bind
        fun foundName sameName leftName => ?_
      obtain rfl := sameName
      rw [if_neg (by simpa using unseen)]
      refine (cut_colon (reads_colon.mpr (leftName ▸ isColon))).bind fun colon _ leftColon => ?_
      rw [leftColon] at isValue
      obtain cut | ⟨other, read, readValue, -, atEnd⟩ :=
        RecordSpec.cutsAt_valueFor each isKnown isValue isOthers.delimited means isInside
      · refine cut.bind fun read same left => ?_
        rw [left] at isOthers
        rw [same]
        have fresh' : Fresh spec.keys (if ((spec.fields.map FieldSpec.field).find? fun field =>
            field.key == foundName.value).isSome = true
              then foundName.value :: seen else seen) (others.map Prod.fst) := by
          simpa only [RecordSpec.isSome_find?_field] using fresh
        exact (ih isOthers namedOthers fresh' foldsOthers insideOthers).bind_ok
          fun _ same => ⟨same, rfl⟩
      · refine .inl (.of_ok readValue (Ended.bind ?_ _))
        rw [atEnd]
        exact ended_keyed _ _ _

/-- **A record without unknown keys**, whose values are as they should be under their keys. -/
def Tree.NamesOnly (known : List String) (within : String → Tree → Prop) (tree : Tree) : Prop :=
  ∀ entries, tree.entries? known = some entries →
    ∀ entry ∈ entries, entry.1 ∈ known ∧ within entry.1 entry.2

namespace RecordSpec

/-- **A record is cut** in either of its forms, if no key is unknown. -/
theorem cut_record {tree : Tree} {default : ρ} (expected : String)
    (each : ∀ field ∈ spec.fields, CutsAt field.reading field.meaning (within field.key))
    (written : tree.Written (front ++ back) rest) (means : spec.meaning? default tree = some value)
    (names : tree.NamesOnly spec.keys within) :
    Cut (Json.record expected (spec.fields.map FieldSpec.field) default front) back value rest := by
  obtain ⟨entries, isEntries, folds⟩ := Option.bind_eq_some_iff.mp means
  rw [← foldlM_enter_eq (once_of_entries? spec.distinct isEntries)] at folds
  have inside := names entries isEntries
  obtain ⟨items, rfl, few, rfl⟩ | ⟨members, rfl, named, once⟩ :=
    Tree.entries?_eq_some_iff.mp isEntries
  · cases written with
    | list blanks written =>
      obtain nothing | ⟨left, skipped, rfl⟩ := skipBlanks_cut (blanks.skipBlanks_cons rfl)
      · exact .inl (ended_behind nothing)
      refine cut_behind skipped ?_
      rw [keys, List.length_map] at few
      rw [if_pos rfl]
      exact (written.cut_positional each (fun _ member => member) few folds
        fun entry member => (inside entry member).2).bind_ok fun _ same => ⟨same, rfl⟩
  · cases written with
    | object blanks written =>
      obtain nothing | ⟨left, skipped, rfl⟩ := skipBlanks_cut (blanks.skipBlanks_cons rfl)
      · exact .inl (ended_behind nothing)
      refine cut_behind skipped ?_
      rw [if_neg (by decide), if_pos rfl]
      exact (written.cut_keyed each named (fresh_nil.mpr once) folds inside).bind_ok
        fun _ same => ⟨same, rfl⟩

/-- **A record in a field** is cut as any other. -/
theorem cutsAt_record (expected : String) (default : ρ)
    (each : ∀ field ∈ spec.fields, CutsAt field.reading field.meaning (within field.key)) :
    CutsAt (Json.record expected (spec.fields.map FieldSpec.field) default)
      (spec.meaning? default) (Tree.NamesOnly spec.keys within) :=
  fun _ _ _ _ _ written _ means names => .inl (cut_record expected each written means names)

end RecordSpec

end SourceScan.Json
