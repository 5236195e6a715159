import SourceScan.Proofs.Json.Entries

/-!
# Proofs/Json/Record — reading records

A record is read item by item from a list, and member by member from an object.  Either way its
entries are entered as they come, which is how they are read; that it is filled key by key follows
from `RecordSpec.foldlM_enter_eq`.

* `written_of_turn`, `turn_of_closer`, `turn_of_entry` — what comes next in a bracket.
* `items_of_positional`, `Items.positional` — a record in a list.
* `members_of_keyed`, `Members.keyed` — a record in an object.
* `RecordSpec.recognizes` — a record in either form.
-/

namespace SourceScan.Json

variable {ρ : Type} {text rest : List Char}

/-! ## Turns -/

/-- **What is written where a turn is found**: the end of the bracket, or what separates an entry
from the one before it. -/
def Turn.Written (bracket : Bracket) (opened : Bool) : Turn text → Prop
  | .closed closing => Blanks text (bracket.closer :: closing.rest)
  | .entry lead => Separated opened text lead.rest

/-- A turn is found only where it is written. -/
theorem written_of_turn {bracket : Bracket} {opened : Bool} {found : Turn text}
    (read : turn bracket opened text = .ok found) : found.Written bracket opened := by
  rw [turn.eq_def] at read
  split at read
  · cases read
  rename_i c after skipped
  dsimp only at read
  split at read
  · rename_i closes
    obtain rfl := Except.ok.inj read
    exact .of_skipBlanks (closes ▸ skipped)
  split at read
  · rename_i first
    obtain rfl := first
    obtain rfl := Except.ok.inj read
    exact .first (.of_skipBlanks skipped)
  rename_i notFirst
  obtain rfl := Bool.eq_false_iff.mpr notFirst
  split at read
  · rename_i comma
    split at read
    · cases read
    rename_i d others next
    split at read
    · cases read
    · obtain rfl := Except.ok.inj read
      exact .comma (.of_skipBlanks (comma ▸ skipped)) (.of_skipBlanks next)
  · cases read

/-- **The end of a bracket** is found. -/
theorem turn_of_closer (bracket : Bracket) (opened : Bool)
    (blanks : Blanks text (bracket.closer :: rest)) :
    ∃ closing : Read text Unit, turn bracket opened text = .ok (.closed closing) ∧
      closing.rest = rest := by
  have skips : skipBlanks text = bracket.closer :: rest :=
    blanks.skipBlanks_cons (by cases bracket <;> rfl)
  exact ⟨⟨(), rest, length_lt_of_skipBlanks skips⟩, (match_skipBlanks skips).trans (if_pos rfl),
    rfl⟩

/-- **The start of an entry** is found, behind all blanks. -/
theorem turn_of_entry (bracket : Bracket) {opened : Bool} {start next : List Char} {c : Char}
    (separated : Separated opened text start) (starts : skipBlanks start = c :: next)
    (noEnd : c ≠ bracket.closer) :
    ∃ lead : Part text Unit, turn bracket opened text = .ok (.entry lead) ∧
      lead.rest = c :: next := by
  cases separated with
  | first blanks =>
    have skips := blanks.skipBlanks_eq.trans starts
    refine ⟨⟨(), c :: next, length_lt_of_skipBlanks skips⟩, (match_skipBlanks skips).trans ?_, rfl⟩
    rw [if_neg noEnd, if_pos rfl]
  | comma before behind =>
    have skips := before.skipBlanks_cons rfl
    have skipsNext := behind.skipBlanks_eq.trans starts
    have shorter := length_lt_of_skipBlanks skips
    have noLonger : (c :: next).length ≤ text.length :=
      Nat.le_trans (length_lt_of_skipBlanks skipsNext) (Nat.le_of_lt shorter)
    refine ⟨⟨(), c :: next, noLonger⟩, (match_skipBlanks skips).trans ?_, rfl⟩
    rw [if_neg (by cases bracket <;> decide), if_neg (by decide), if_pos rfl]
    exact (match_skipBlanks skipsNext).trans (if_neg noEnd)

/-- **How a value starts**: with no end of a list, and whatever blanks are in front of it. -/
theorem Tree.Written.starts {tree : Tree} (written : tree.Written text rest) :
    ∃ c next, skipBlanks text = c :: next ∧ c ≠ ']' ∧ tree.Written (c :: next) rest := by
  cases written with
  | null blanks => exact ⟨_, _, blanks.skipBlanks_cons rfl, by decide, .null (.refl _)⟩
  | true blanks => exact ⟨_, _, blanks.skipBlanks_cons rfl, by decide, .true (.refl _)⟩
  | false blanks => exact ⟨_, _, blanks.skipBlanks_cons rfl, by decide, .false (.refl _)⟩
  | string blanks quoted =>
    exact ⟨_, _, blanks.skipBlanks_cons rfl, by decide, .string (.refl _) quoted⟩
  | list blanks items => exact ⟨_, _, blanks.skipBlanks_cons rfl, by decide, .list (.refl _) items⟩
  | object blanks members =>
    exact ⟨_, _, blanks.skipBlanks_cons rfl, by decide, .object (.refl _) members⟩
  | number blanks written =>
    cases written with
    | negative minus unsigned =>
      exact ⟨_, _, blanks.skipBlanks_cons rfl, by decide,
        .number (.refl _) (.negative minus unsigned)⟩
    | positive minus unsigned =>
      obtain ⟨c, after, rfl, digit⟩ := unsigned.starts
      exact ⟨c, after, blanks.skipBlanks_cons (isSpace_of_isDigit digit), ne_of_isDigit digit rfl,
        .number (.refl _) (.positive minus unsigned)⟩

/-! ## Keys -/

/-- **A key is read** for what it says. -/
theorem reads_key {name : String} : Reads (key text) name rest ↔ ∃ quoted elements,
    text = '"' :: quoted ∧ Quoted elements quoted rest ∧ decode? elements = some name.toList := by
  cases text with
  | nil => exact iff_of_false not_reads_error (by simp)
  | cons c text =>
    rw [key]
    split
    · rename_i quote
      subst quote
      refine Iff.trans reads_bind_ok (reads_text.trans ?_)
      constructor
      · rintro ⟨elements, quoted, spells⟩
        exact ⟨text, elements, rfl, quoted, spells⟩
      · rintro ⟨_, elements, same, quoted, spells⟩
        obtain rfl := List.tail_eq_of_cons_eq same
        exact ⟨elements, quoted, spells⟩
    · rename_i other
      refine iff_of_false not_reads_error ?_
      rintro ⟨_, _, same, -⟩
      exact other (List.head_eq_of_cons_eq same)

/-! ## Records -/

variable {spec : RecordSpec ρ} {record value : ρ}

/-- **The end of a list** is read. -/
theorem reads_listEnd : Reads (listEnd text) () rest ↔ Blanks text (']' :: rest) := by
  constructor
  · intro reads
    obtain ⟨c, after, skipped, reads⟩ := exists_of_reads_behind reads
    split at reads
    · rename_i closes
      obtain ⟨-, rfl⟩ := reads_ok.mp reads
      exact .of_skipBlanks (closes ▸ skipped)
    split at reads
    · split at reads <;> exact absurd reads not_reads_error
    · exact absurd reads not_reads_error
  · intro blanks
    refine (reads_behind (blanks.skipBlanks_cons rfl)).mpr ?_
    rw [if_pos rfl]
    exact reads_ok.mpr ⟨rfl, rfl⟩

/-- **A record in a list** is read item by item. -/
theorem items_of_positional {fields : List (FieldSpec ρ)} {opened : Bool}
    (known : ∀ field ∈ fields, field ∈ spec.fields)
    (reads : Reads (positional (fields.map FieldSpec.field) opened record text) value rest) :
    ∃ items, items.length ≤ fields.length ∧ Items opened items text rest ∧
      ((fields.map FieldSpec.key).zip items).foldlM spec.enter record = some value := by
  induction fields generalizing opened record text with
  | nil =>
    obtain ⟨ends, readEnd, reads⟩ := reads_bind.mp reads
    obtain ⟨rfl, rfl⟩ := reads_ok.mp reads
    exact ⟨[], Nat.le_refl _, .closed (reads_listEnd.mp ⟨ends, readEnd, rfl, rfl⟩), rfl⟩
  | cons field fields ih =>
    obtain ⟨found, readTurn, reads⟩ := reads_bind.mp reads
    have written := written_of_turn readTurn
    split at reads
    · obtain ⟨rfl, rfl⟩ := reads_ok.mp reads
      exact ⟨[], Nat.zero_le _, .closed written, rfl⟩
    · obtain ⟨read, readValue, reads⟩ := reads_bind.mp reads
      obtain ⟨others, readOthers, reads⟩ := reads_bind.mp reads
      obtain ⟨rfl, rfl⟩ := reads_ok.mp reads
      obtain ⟨isKnown, knownOthers⟩ := List.forall_mem_cons.mp known
      obtain ⟨tree, isValue, means⟩ :=
        (RecordSpec.recognizes_field isKnown).sound ⟨read, readValue, rfl, rfl⟩
      obtain ⟨items, few, isOthers, folds⟩ := ih knownOthers ⟨others, readOthers, rfl, rfl⟩
      refine ⟨tree :: items, Nat.succ_le_succ few, .item written isValue isOthers, ?_⟩
      rw [List.map_cons, List.zip_cons_cons, List.foldlM_cons, RecordSpec.enter, means]
      exact folds

/-- **A record is read from a list**, if it has no more items than fields. -/
theorem Items.positional {fields : List (FieldSpec ρ)} {opened : Bool} {items : List Tree}
    (known : ∀ field ∈ fields, field ∈ spec.fields)
    (written : Items opened items text rest) (few : items.length ≤ fields.length)
    (folds : ((fields.map FieldSpec.key).zip items).foldlM spec.enter record = some value) :
    Reads (positional (fields.map FieldSpec.field) opened record text) value rest := by
  induction fields generalizing opened items record text with
  | nil =>
    obtain rfl := List.eq_nil_of_length_eq_zero (Nat.le_zero.mp few)
    obtain rfl := Option.some.inj folds
    cases written with
    | closed blanks =>
      obtain ⟨ends, readEnd, -, rfl⟩ := reads_listEnd.mpr blanks
      exact reads_bind.mpr ⟨ends, readEnd, reads_ok.mpr ⟨rfl, rfl⟩⟩
  | cons field fields ih =>
    obtain ⟨isKnown, knownOthers⟩ := List.forall_mem_cons.mp known
    rw [List.map_cons, Json.positional]
    cases written with
    | closed blanks =>
      obtain rfl := Option.some.inj folds
      obtain ⟨closing, readTurn, rfl⟩ := turn_of_closer .list opened blanks
      exact reads_bind.mpr ⟨_, readTurn, reads_ok.mpr ⟨rfl, rfl⟩⟩
    | item separated isValue isOthers =>
      obtain ⟨c, next, starts, noEnd, isValue⟩ := isValue.starts
      obtain ⟨lead, readTurn, left⟩ := turn_of_entry .list separated starts noEnd
      rw [List.map_cons, List.zip_cons_cons, List.foldlM_cons] at folds
      obtain ⟨between, enters, folds⟩ := Option.bind_eq_some_iff.mp folds
      obtain ⟨put, means, rfl⟩ := Option.map_eq_some_iff.mp enters
      rw [← left] at isValue
      obtain ⟨read, readValue, rfl, rfl⟩ :=
        (RecordSpec.recognizes_field isKnown).complete isValue isOthers.delimited means
      obtain ⟨others, readOthers, rfl, rfl⟩ :=
        ih knownOthers isOthers (Nat.le_of_succ_le_succ few) folds
      refine reads_bind.mpr ⟨_, readTurn, reads_bind.mpr ⟨read, readValue, ?_⟩⟩
      exact reads_bind.mpr ⟨others, readOthers, reads_ok.mpr ⟨rfl, rfl⟩⟩

/-- The keys of the fields are those that are known. -/
theorem RecordSpec.isSome_find?_field {name : String} :
    ((spec.fields.map FieldSpec.field).find? fun field => field.key == name).isSome = true ↔
      name ∈ spec.keys := by
  simp [List.find?_isSome, keys, FieldSpec.field, Field.of]

/-- **The value under a key** is read for what it does to the record. -/
theorem RecordSpec.recognizes_valueFor (name : String) :
    Recognizes (valueFor ((spec.fields.map FieldSpec.field).find? fun field => field.key == name))
      (spec.effect name) := by
  have found : ((spec.fields.map FieldSpec.field).find? fun field => field.key == name) =
      (spec.fields.find? fun field => field.key == name).map FieldSpec.field := List.find?_map
  cases which : spec.fields.find? fun field => field.key == name with
  | some field =>
    rw [found, effect, which]
    exact Json.recognizes_field field.recognizes field.key field.put
  | none =>
    rw [found, effect, which]
    constructor
    · intro text put rest reads
      obtain ⟨skipped, read, reads⟩ := reads_bind.mp reads
      obtain ⟨rfl, rfl⟩ := reads_ok.mp reads
      obtain ⟨tree, written, -⟩ := recognizes_skipValue.sound ⟨skipped, read, rfl, rfl⟩
      exact ⟨tree, written, rfl⟩
    · intro tree text put rest written delimited means
      obtain rfl := Option.some.inj means
      obtain ⟨skipped, read, -, rfl⟩ := recognizes_skipValue.complete written delimited rfl
      exact reads_bind.mpr ⟨skipped, read, reads_ok.mpr ⟨rfl, rfl⟩⟩

/-- **Keys that may follow** those seen before: the known ones among them come once. -/
def Fresh (known seen names : List String) : Prop :=
  (names.filter (· ∈ known)).Nodup ∧ ∀ name ∈ names, name ∉ seen

theorem fresh_cons {known seen names : List String} {name : String} :
    Fresh known seen (name :: names) ↔
      name ∉ seen ∧ Fresh known (if name ∈ known then name :: seen else seen) names := by
  rw [Fresh, Fresh, List.forall_mem_cons]
  by_cases isKnown : name ∈ known
  · have apart : (∀ other ∈ names, other ∉ name :: seen) ↔
        name ∉ names ∧ ∀ other ∈ names, other ∉ seen := by
      simp only [List.mem_cons, not_or]
      exact ⟨fun apart => ⟨fun again => (apart name again).1 rfl, fun other member =>
        (apart other member).2⟩, fun apart other member =>
          ⟨fun same => apart.1 (same ▸ member), apart.2 other member⟩⟩
    have again : name ∈ names.filter (· ∈ known) ↔ name ∈ names := by simp [isKnown]
    rw [List.filter_cons_of_pos (by simpa using isKnown), List.nodup_cons, again, if_pos isKnown,
      apart]
    exact ⟨fun ⟨⟨once, others⟩, unseen, rest⟩ => ⟨unseen, others, once, rest⟩,
      fun ⟨unseen, others, once, rest⟩ => ⟨⟨once, others⟩, unseen, rest⟩⟩
  · rw [List.filter_cons_of_neg (by simpa using isKnown), if_neg isKnown]
    exact and_left_comm

theorem fresh_nil {known names : List String} :
    Fresh known [] names ↔ (names.filter (· ∈ known)).Nodup := by
  simp [Fresh]

/-- The entries of members are the first one's and those of the others. -/
theorem mapM_entry?_cons {key : List Element} {tree : Tree}
    {members : List (List Element × Tree)} {entries : List (String × Tree)} :
    ((key, tree) :: members).mapM Tree.entry? = some entries ↔ ∃ name others,
      decode? key = some name.toList ∧ members.mapM Tree.entry? = some others ∧
        entries = (name, tree) :: others := by
  rw [List.mapM_cons]
  simp only [Tree.entry?, Option.bind_eq_bind, Option.bind_eq_some_iff, Option.pure_def,
    Option.some.injEq]
  constructor
  · rintro ⟨_, ⟨said, spells, rfl⟩, others, isOthers, rfl⟩
    exact ⟨String.ofList said, others, by rw [spells, String.toList_ofList], isOthers, rfl⟩
  · rintro ⟨name, others, spells, isOthers, rfl⟩
    exact ⟨_, ⟨_, spells, rfl⟩, others, isOthers, by rw [String.ofList_toList]⟩

/-- **A record in an object** is read member by member. -/
theorem members_of_keyed {seen : List String} {opened : Bool}
    (reads : Reads (keyed (spec.fields.map FieldSpec.field) seen opened record text) value rest) :
    ∃ members entries, Members opened members text rest ∧
      members.mapM Tree.entry? = some entries ∧
      Fresh spec.keys seen (entries.map Prod.fst) ∧
      entries.foldlM spec.enter record = some value := by
  induction text using (measure List.length).wf.induction generalizing seen opened record with
  | _ text ih =>
    rw [keyed] at reads
    obtain ⟨found, readTurn, reads⟩ := reads_bind.mp reads
    have written := written_of_turn readTurn
    split at reads
    · obtain ⟨rfl, rfl⟩ := reads_ok.mp reads
      exact ⟨[], [], .closed written, rfl, ⟨.nil, by simp⟩, rfl⟩
    · rename_i lead
      obtain ⟨name, readName, reads⟩ := reads_bind.mp reads
      split at reads
      · exact absurd reads not_reads_error
      rename_i unseen
      dsimp only at reads
      obtain ⟨colon, readColon, reads⟩ := reads_bind.mp reads
      obtain ⟨read, readValue, reads⟩ := reads_bind.mp reads
      have shorter : read.rest.length < text.length :=
        (lead.read ((name.next colon).next read)).shorter
      obtain ⟨others, readOthers, reads⟩ := reads_bind.mp reads
      obtain ⟨rfl, rfl⟩ := reads_ok.mp reads
      obtain ⟨quoted, key, same, isKey, spells⟩ := reads_key.mp ⟨name, readName, rfl, rfl⟩
      have isColon := reads_colon.mp ⟨colon, readColon, rfl, rfl⟩
      obtain ⟨tree, isValue, means⟩ :=
        (RecordSpec.recognizes_valueFor name.value).sound ⟨read, readValue, rfl, rfl⟩
      obtain ⟨members, entries, isOthers, named, fresh, folds⟩ :=
        ih read.rest shorter ⟨others, readOthers, rfl, rfl⟩
      refine ⟨(key, tree) :: members, (name.value, tree) :: entries, ?_, ?_, ?_, ?_⟩
      · exact .member written (.mk (same ▸ .refl _) isKey isColon) isValue isOthers
      · exact mapM_entry?_cons.mpr ⟨_, _, spells, named, rfl⟩
      · refine fresh_cons.mpr ⟨?_, ?_⟩
        · simpa using unseen
        · simpa only [RecordSpec.isSome_find?_field] using fresh
      · rw [List.foldlM_cons, RecordSpec.enter, means]
        exact folds

/-- **A record is read from an object**, if its known keys come once. -/
theorem Members.keyed {seen : List String} {opened : Bool}
    {members : List (List Element × Tree)} {entries : List (String × Tree)}
    (written : Members opened members text rest)
    (named : members.mapM Tree.entry? = some entries)
    (fresh : Fresh spec.keys seen (entries.map Prod.fst))
    (folds : entries.foldlM spec.enter record = some value) :
    Reads (keyed (spec.fields.map FieldSpec.field) seen opened record text) value rest := by
  induction members generalizing seen opened record text entries with
  | nil =>
    obtain rfl := Option.some.inj named
    obtain rfl := Option.some.inj folds
    cases written with
    | closed blanks =>
      obtain ⟨closing, readTurn, rfl⟩ := turn_of_closer .object opened blanks
      rw [Json.keyed]
      exact reads_bind.mpr ⟨_, readTurn, reads_ok.mpr ⟨rfl, rfl⟩⟩
  | cons member members ih =>
    obtain ⟨key, tree⟩ := member
    obtain ⟨name, others, spells, namedOthers, rfl⟩ := mapM_entry?_cons.mp named
    obtain ⟨unseen, fresh⟩ := fresh_cons.mp fresh
    rw [List.foldlM_cons] at folds
    obtain ⟨between, enters, folds⟩ := Option.bind_eq_some_iff.mp folds
    obtain ⟨put, means, rfl⟩ := Option.map_eq_some_iff.mp enters
    cases written with
    | member separated isKey isValue isOthers =>
      obtain ⟨start, quoted, isColon⟩ := isKey
      obtain ⟨lead, readTurn, left⟩ :=
        turn_of_entry .object separated (start.skipBlanks_cons rfl) (by decide)
      obtain ⟨foundName, readName, rfl, rfl⟩ := reads_key.mpr ⟨_, key, left, quoted, spells⟩
      obtain ⟨colon, readColon, -, rfl⟩ := reads_colon.mpr isColon
      obtain ⟨read, readValue, rfl, rfl⟩ :=
        (RecordSpec.recognizes_valueFor _).complete isValue isOthers.delimited means
      have fresh' : Fresh spec.keys (if ((spec.fields.map FieldSpec.field).find? fun field =>
          field.key == foundName.value).isSome = true
            then foundName.value :: seen else seen) (others.map Prod.fst) := by
        simpa only [RecordSpec.isSome_find?_field] using fresh
      obtain ⟨foundOthers, readOthers, rfl, rfl⟩ := ih isOthers namedOthers fresh' folds
      rw [Json.keyed]
      refine reads_bind.mpr ⟨_, readTurn, reads_bind.mpr ⟨foundName, readName, ?_⟩⟩
      rw [if_neg (by simpa using unseen)]
      refine reads_bind.mpr ⟨colon, readColon, reads_bind.mpr ⟨read, readValue, ?_⟩⟩
      exact reads_bind.mpr ⟨foundOthers, readOthers, reads_ok.mpr ⟨rfl, rfl⟩⟩

namespace RecordSpec

/-- A record is recognized in both of its forms, its entries as they come. -/
theorem recognizes_enter (spec : RecordSpec ρ) (expected : String) (default : ρ) :
    Recognizes (Json.record expected (spec.fields.map FieldSpec.field) default) fun tree => do
      let entries ← tree.entries? spec.keys
      entries.foldlM spec.enter default where
  sound {text value rest} reads := by
    obtain ⟨c, after, skipped, reads⟩ := exists_of_reads_behind reads
    dsimp only at reads
    split at reads
    · rename_i opens
      obtain ⟨items, few, written, folds⟩ :=
        items_of_positional (fun _ member => member) (Iff.mp reads_bind_ok reads)
      have few : items.length ≤ spec.keys.length := by rwa [keys, List.length_map]
      have isEntries := Tree.entries?_eq_some_iff.mpr (.inl ⟨items, rfl, few, rfl⟩)
      exact ⟨.list items, .list (.of_skipBlanks (opens ▸ skipped)) written,
        Option.bind_eq_some_iff.mpr ⟨_, isEntries, folds⟩⟩
    split at reads
    · rename_i opens
      obtain ⟨members, entries, written, named, fresh, folds⟩ :=
        members_of_keyed (Iff.mp reads_bind_ok reads)
      have isEntries :=
        Tree.entries?_eq_some_iff.mpr (.inr ⟨members, rfl, named, fresh_nil.mp fresh⟩)
      exact ⟨.object members, .object (.of_skipBlanks (opens ▸ skipped)) written,
        Option.bind_eq_some_iff.mpr ⟨_, isEntries, folds⟩⟩
    · exact absurd reads not_reads_error
  complete {tree text value rest} written delimited means := by
    obtain ⟨entries, isEntries, folds⟩ := Option.bind_eq_some_iff.mp means
    obtain ⟨items, rfl, few, rfl⟩ | ⟨members, rfl, named, once⟩ :=
      Tree.entries?_eq_some_iff.mp isEntries
    · cases written with
      | list blanks written =>
        rw [keys, List.length_map] at few
        refine (reads_behind (blanks.skipBlanks_cons rfl)).mpr ?_
        rw [if_pos rfl]
        exact Iff.mpr reads_bind_ok (written.positional (fun _ member => member) few folds)
    · cases written with
      | object blanks written =>
        refine (reads_behind (blanks.skipBlanks_cons rfl)).mpr ?_
        rw [if_neg (by decide), if_pos rfl]
        exact Iff.mpr reads_bind_ok (written.keyed named (fresh_nil.mpr once) folds)

/-- **A record is recognized** in both of its forms, with its default where nothing is entered. -/
theorem recognizes (spec : RecordSpec ρ) (expected : String) (default : ρ) :
    Recognizes (Json.record expected (spec.fields.map FieldSpec.field) default)
      (spec.meaning? default) := by
  refine (spec.recognizes_enter expected default).congr fun tree => ?_
  rw [meaning?]
  cases found : tree.entries? spec.keys with
  | none => rfl
  | some entries => exact foldlM_enter_eq (once_of_entries? spec.distinct found)

end RecordSpec

end SourceScan.Json
