import SourceScan.Proofs.Json.Escape

/-!
# Proofs/Json/Text — reading strings

What is read of a string up to its closing quote is what its elements say; a string that says
nothing, since a surrogate has no partner in it, is not read unless nobody asks for it.

* `reads_untilClosed` — one part after another, up to the closing quote.
* `untilQuote_character_iff` — characters as they are written, and what elements say.
* `reads_text`, `reads_skipText` — a string, and one that nobody asks for.
-/

namespace SourceScan.Json

variable {α β : Type} {text rest : List Char}

/-! ## Up to the closing quote -/

section UntilClosed

variable {element : Reading (Option α)} {Part : α → List Char → List Char → Prop} {values : List α}

/-- Elements that are read up to the closing quote are written. -/
theorem untilQuote_of_untilClosed
    (one : ∀ {text value rest}, Reads (element text) (some value) rest → Part value text rest)
    (closed : ∀ {text rest}, Reads (element text) none rest → text = '"' :: rest)
    (reads : Reads (untilClosed element text) values rest) : UntilQuote Part values text rest := by
  induction text using (measure List.length).wf.induction generalizing values with
  | _ text ih =>
    rw [untilClosed] at reads
    obtain ⟨first, found, reads⟩ := reads_bind.mp reads
    split at reads
    · rename_i ended
      obtain ⟨empty, left⟩ := reads_ok.mp reads
      obtain rfl : [] = values := empty
      rw [closed ⟨first, found, ended, left⟩]
      exact .closed
    · rename_i value meant
      obtain ⟨others, more, reads⟩ := reads_bind.mp reads
      obtain ⟨rfl, rfl⟩ := reads_ok.mp reads
      exact .part (one ⟨first, found, meant, rfl⟩)
        (ih first.rest first.shorter ⟨others, more, rfl, rfl⟩)

/-- Elements that are written up to the closing quote are read. -/
theorem UntilQuote.untilClosed
    (one : ∀ {text value rest}, Part value text rest → Reads (element text) (some value) rest)
    (closed : ∀ {rest}, Reads (element ('"' :: rest)) none rest)
    (written : UntilQuote Part values text rest) :
    Reads (untilClosed element text) values rest := by
  induction written with
  | closed =>
    obtain ⟨first, found, value, left⟩ := closed
    rw [Json.untilClosed]
    refine reads_bind.mpr ⟨first, found, ?_⟩
    split
    · exact reads_ok.mpr ⟨rfl, left⟩
    · rename_i other
      exact absurd (other.symm.trans value) (Option.some_ne_none _)
  | part said _ ih =>
    obtain ⟨first, found, meant, rfl⟩ := one said
    obtain ⟨others, more, rfl, rfl⟩ := ih
    rw [Json.untilClosed]
    refine reads_bind.mpr ⟨first, found, ?_⟩
    split
    · rename_i other
      exact absurd (meant.symm.trans other) (Option.some_ne_none _)
    · rename_i value same
      obtain rfl := Option.some.inj (same.symm.trans meant)
      exact reads_bind.mpr ⟨others, more, reads_ok.mpr ⟨rfl, rfl⟩⟩

/-- **Elements up to the closing quote** are read one after another. -/
theorem reads_untilClosed
    (one : ∀ {text value rest}, Reads (element text) (some value) rest ↔ Part value text rest)
    (closed : ∀ {text rest}, Reads (element text) none rest ↔ text = '"' :: rest) :
    Reads (untilClosed element text) values rest ↔ UntilQuote Part values text rest :=
  ⟨untilQuote_of_untilClosed one.mp closed.mp, UntilQuote.untilClosed one.mpr (closed.mpr rfl)⟩

end UntilClosed

/-! ## What a string says -/

theorem decode?_code {code : Nat} (range : code < 0xD800 ∨ 0xDFFF < code)
    (elements : List Element) :
    decode? (.code code :: elements) = (decode? elements).map (Char.ofNat code :: ·) := by
  rw [decode?.eq_def]
  exact if_pos range

theorem decode?_pair {high low : Nat} (highRange : 0xD800 ≤ high ∧ high ≤ 0xDBFF)
    (lowRange : 0xDC00 ≤ low ∧ low ≤ 0xDFFF) (elements : List Element) :
    decode? (.code high :: .code low :: elements) =
      (decode? elements).map (paired high low :: ·) := by
  have surrogate : ¬ (high < 0xD800 ∨ 0xDFFF < high) := by omega
  rw [decode?.eq_def]
  exact (if_neg surrogate).trans (if_pos ⟨highRange.2, lowRange⟩)

/-- A character says itself, in front of what the other elements say. -/
theorem Character.decode?_append {c : Char} {front : List Element}
    (said : Character c front text rest) (elements : List Element) :
    decode? (front ++ elements) = (decode? elements).map (c :: ·) := by
  cases said with
  | char _ => rfl
  | code range _ => exact decode?_code range elements
  | pair high low _ _ => exact decode?_pair high low elements

theorem Character.quoted {c : Char} {front elements : List Element} {middle : List Char}
    (said : Character c front text middle) (quoted : Quoted elements middle rest) :
    Quoted (front ++ elements) text rest := by
  cases said with
  | char written => exact .part written quoted
  | code _ written => exact .part written quoted
  | pair _ _ high low => exact .part high (.part low quoted)

/-- **A string that says something** starts with a character, or is empty. -/
theorem Character.exists_of_quoted {elements : List Element} {said : List Char}
    (quoted : Quoted elements text rest) (spells : decode? elements = some said) :
    (said = [] ∧ text = '"' :: rest) ∨ ∃ c front middle others more, said = c :: more ∧
      Character c front text middle ∧ Quoted others middle rest ∧ decode? others = some more := by
  cases quoted with
  | closed => exact .inl ⟨(Option.some.inj spells).symm, rfl⟩
  | @part first elements _ middle _ written quoted =>
    right
    cases first with
    | char c =>
      obtain ⟨more, others, rfl⟩ := Option.map_eq_some_iff.mp spells
      exact ⟨c, _, middle, elements, more, rfl, .char written, quoted, others⟩
    | code code =>
      by_cases range : code < 0xD800 ∨ 0xDFFF < code
      · rw [decode?_code range] at spells
        obtain ⟨more, others, rfl⟩ := Option.map_eq_some_iff.mp spells
        exact ⟨_, _, middle, elements, more, rfl, .code range written, quoted, others⟩
      · rw [decode?.eq_def] at spells
        replace spells := (if_neg range).symm.trans spells
        cases quoted with
        | closed => cases spells
        | @part second others _ after _ low quoted =>
          cases second with
          | char c => cases spells
          | code lowCode =>
            by_cases pair : code ≤ 0xDBFF ∧ 0xDC00 ≤ lowCode ∧ lowCode ≤ 0xDFFF
            · replace spells := (if_pos pair).symm.trans spells
              obtain ⟨more, others, rfl⟩ := Option.map_eq_some_iff.mp spells
              exact ⟨_, _, after, _, more, rfl, .pair (by omega) pair.2 written low, quoted, others⟩
            · exact nomatch (if_neg pair).symm.trans spells

/-- **The characters of a string**, up to the closing quote, are what its elements say. -/
theorem untilQuote_character_iff {said : List Char} :
    UntilQuote (fun c text rest => ∃ elements, Character c elements text rest) said text rest ↔
      ∃ elements, Quoted elements text rest ∧ decode? elements = some said := by
  constructor
  · intro characters
    induction characters with
    | closed => exact ⟨[], .closed, rfl⟩
    | part first _ ih =>
      obtain ⟨front, first⟩ := first
      obtain ⟨elements, quoted, spells⟩ := ih
      exact ⟨front ++ elements, first.quoted quoted, by
        rw [first.decode?_append, spells, Option.map_some]⟩
  · rintro ⟨elements, quoted, spells⟩
    induction said generalizing elements text with
    | nil =>
      obtain ⟨-, rfl⟩ | ⟨c, _, _, _, more, impossible, -⟩ :=
        Character.exists_of_quoted quoted spells
      · exact .closed
      · cases impossible
    | cons c said ih =>
      obtain ⟨impossible, -⟩ | ⟨c', front, middle, others, more, same, first, quoted, spells⟩ :=
        Character.exists_of_quoted quoted spells
      · cases impossible
      · obtain ⟨rfl, rfl⟩ := List.cons.inj same
        exact .part ⟨front, first⟩ (ih others quoted spells)

/-! ## Strings -/

/-- **A string is read** for what it says. -/
theorem reads_text {said : String} : Reads (Json.text text) said rest ↔
    ∃ elements, Quoted elements text rest ∧ decode? elements = some said.toList := by
  rw [← untilQuote_character_iff,
    ← reads_untilClosed reads_element_some reads_element_none, Json.text, reads_bind]
  constructor
  · rintro ⟨read, found, reads⟩
    obtain ⟨rfl, rfl⟩ := reads_ok.mp reads
    exact ⟨read, found, String.toList_ofList.symm, rfl⟩
  · rintro ⟨read, found, value, rfl⟩
    refine ⟨read, found, reads_ok.mpr ⟨?_, rfl⟩⟩
    rw [Read.value_map, value, String.ofList_toList]

/-- What is written as parts is written as other parts, if each of them is one of those. -/
theorem UntilQuote.exists_of_forall {Part : α → List Char → List Char → Prop}
    {Part' : β → List Char → List Char → Prop}
    (each : ∀ value text rest, Part value text rest → ∃ value', Part' value' text rest)
    {values : List α} (written : UntilQuote Part values text rest) :
    ∃ values', UntilQuote Part' values' text rest := by
  induction written with
  | closed => exact ⟨[], .closed⟩
  | part first _ ih =>
    obtain ⟨value', first⟩ := each _ _ _ first
    obtain ⟨values', others⟩ := ih
    exact ⟨value' :: values', .part first others⟩

/-- **A string that nobody asks for is read** if it is written as one. -/
theorem reads_skipText : Reads (skipText text) () rest ↔ ∃ elements, Quoted elements text rest := by
  have parts {values : List Unit} : Reads (untilClosed skipElement text) values rest ↔
      UntilQuote (fun _ text rest => ∃ first : Element, first.Written text rest) values text rest :=
    reads_untilClosed reads_skipElement_some reads_skipElement_none
  rw [skipText, reads_bind]
  constructor
  · rintro ⟨read, found, reads⟩
    obtain ⟨-, rfl⟩ := reads_ok.mp reads
    exact (parts.mp ⟨read, found, rfl, rfl⟩).exists_of_forall fun _ _ _ written => written
  · rintro ⟨elements, quoted⟩
    obtain ⟨values, written⟩ : ∃ values : List Unit, UntilQuote
        (fun _ text rest => ∃ first : Element, first.Written text rest) values text rest :=
      quoted.exists_of_forall fun first _ _ written => ⟨(), first, written⟩
    obtain ⟨read, found, -, rfl⟩ := parts.mpr written
    exact ⟨read, found, reads_ok.mpr ⟨rfl, rfl⟩⟩

end SourceScan.Json
