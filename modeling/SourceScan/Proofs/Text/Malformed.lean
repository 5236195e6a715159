import SourceScan.Proofs.Text.Encoding

/-!
# Proofs/Text/Malformed — bytes that are no character

A character is a **sequence**: a lead byte, which announces how many bytes continue it, and those;
six bits of its number stand in each of them and the rest in the lead.  Not every sequence is a
character: its number must need so many bytes, and be one a character can have.

* `Leads`, `Sequence` — lead bytes; sequences and their numbers.
* `sequence_utf8EncodeChar`, `utf8EncodeChar_of_sequence` — the characters among the sequences.
* `Malformed` — the ways in which bytes start with no character.
* `malformed_iff` — there are no others.
-/

namespace SourceScan.Utf8

/-- **A byte that continues a character.** -/
def Continues (byte : UInt8) : Prop := 0x80 ≤ byte.toNat ∧ byte.toNat < 0xC0

instance (byte : UInt8) : Decidable (Continues byte) := inferInstanceAs (Decidable (_ ∧ _))

/-- The mark of the lead bytes that announce so many bytes. -/
def mark : Nat → Nat
  | 0 => 0
  | 1 => 0xC0
  | 2 => 0xE0
  | _ => 0xF0

/-- How many lead bytes have the mark. -/
def room : Nat → Nat
  | 0 => 0x80
  | 1 => 0x20
  | 2 => 0x10
  | _ => 0x08

/-- **A lead byte**: it announces at most three bytes, and holds the first bits of a number. -/
def Leads (byte : UInt8) (count bits : Nat) : Prop :=
  count ≤ 3 ∧ byte.toNat = mark count + bits ∧ bits < room count

instance (byte : UInt8) (count bits : Nat) : Decidable (Leads byte count bits) :=
  inferInstanceAs (Decidable (_ ∧ _))

/-- The number of first bits and the bytes that continue them, with six bits each. -/
def number : Nat → List UInt8 → Nat
  | bits, [] => bits
  | bits, byte :: more => number (64 * bits + byte.toNat % 64) more

/-- **A sequence**: a lead byte with as many bytes as it announces, and their number. -/
inductive Sequence : List UInt8 → Nat → Prop
  | intro {lead : UInt8} {more : List UInt8} {bits value : Nat}
      (leads : Leads lead more.length bits) (continues : ∀ byte ∈ more, Continues byte)
      (same : number bits more = value) : Sequence (lead :: more) value

/-- The least number that needs a sequence of so many bytes. -/
def least : Nat → Nat
  | 0 | 1 => 0
  | 2 => 0x80
  | 3 => 0x800
  | 4 => 0x10000
  | _ => 0x200000

/-- **Bytes that start with no character**, by what is wrong with their start. -/
inductive Malformed : List UInt8 → Prop
  /-- A byte that continues nothing. -/
  | stray {byte : UInt8} (continues : Continues byte) (rest : List UInt8) :
      Malformed (byte :: rest)
  /-- A byte that neither leads nor continues. -/
  | unused {byte : UInt8} (beyond : 0xF8 ≤ byte.toNat) (rest : List UInt8) :
      Malformed (byte :: rest)
  /-- A sequence that is cut short. -/
  | truncated {lead : UInt8} {count bits : Nat} {more rest : List UInt8}
      (leads : Leads lead count bits) (continues : ∀ byte ∈ more, Continues byte)
      (short : more.length < count) (stop : ∀ byte ∈ rest.head?, ¬ Continues byte) :
      Malformed (lead :: (more ++ rest))
  /-- A sequence of more bytes than its number needs. -/
  | overlong {bytes : List UInt8} {value : Nat} (sequence : Sequence bytes value)
      (short : value < least bytes.length) (rest : List UInt8) : Malformed (bytes ++ rest)
  /-- A sequence for half of a surrogate pair. -/
  | surrogate {bytes : List UInt8} {value : Nat} (sequence : Sequence bytes value)
      (inside : 0xD800 ≤ value ∧ value ≤ 0xDFFF) (rest : List UInt8) : Malformed (bytes ++ rest)
  /-- A sequence for a number beyond the last code point. -/
  | beyond {bytes : List UInt8} {value : Nat} (sequence : Sequence bytes value)
      (large : 0x10FFFF < value) (rest : List UInt8) : Malformed (bytes ++ rest)

/-! ## Lead bytes -/

/-- **A byte announces one thing** at most. -/
theorem Leads.unique {byte : UInt8} {count bits count' bits' : Nat} (leads : Leads byte count bits)
    (leads' : Leads byte count' bits') : count = count' ∧ bits = bits' := by
  obtain ⟨few, value, fits⟩ := leads
  obtain ⟨few', value', fits'⟩ := leads'
  match count, count', few, few' with
  | 0, 0, _, _ | 0, 1, _, _ | 0, 2, _, _ | 0, 3, _, _
  | 1, 0, _, _ | 1, 1, _, _ | 1, 2, _, _ | 1, 3, _, _
  | 2, 0, _, _ | 2, 1, _, _ | 2, 2, _, _ | 2, 3, _, _
  | 3, 0, _, _ | 3, 1, _, _ | 3, 2, _, _ | 3, 3, _, _ =>
    simp only [mark, room] at value fits value' fits'
    omega

/-- A lead byte continues nothing and is used. -/
theorem Leads.not_continues {byte : UInt8} {count bits : Nat} (leads : Leads byte count bits) :
    ¬ Continues byte ∧ byte.toNat < 0xF8 := by
  obtain ⟨few, value, fits⟩ := leads
  match count, few with
  | 0, _ | 1, _ | 2, _ | 3, _ =>
    simp only [mark, room, Continues] at value fits ⊢
    omega

/-- **A byte leads, continues or is unused.** -/
theorem leads_or (byte : UInt8) :
    (∃ count bits, Leads byte count bits) ∨ Continues byte ∨ 0xF8 ≤ byte.toNat := by
  have small := byte.toNat_lt
  by_cases one : byte.toNat < 0x80
  · exact Or.inl ⟨0, byte.toNat, by decide, (Nat.zero_add _).symm, one⟩
  by_cases continues : byte.toNat < 0xC0
  · exact Or.inr (Or.inl ⟨Nat.le_of_not_lt one, continues⟩)
  by_cases two : byte.toNat < 0xE0
  · exact Or.inl ⟨1, byte.toNat - 0xC0, by decide, by simp only [mark]; omega,
      by simp only [room]; omega⟩
  by_cases three : byte.toNat < 0xF0
  · exact Or.inl ⟨2, byte.toNat - 0xE0, by decide, by simp only [mark]; omega,
      by simp only [room]; omega⟩
  by_cases four : byte.toNat < 0xF8
  · exact Or.inl ⟨3, byte.toNat - 0xF0, by decide, by simp only [mark]; omega,
      by simp only [room]; omega⟩
  · exact Or.inr (Or.inr (Nat.le_of_not_lt four))

/-! ## Sequences -/

theorem least_le_succ : ∀ size, least size ≤ least (size + 1)
  | 0 | 1 | 2 | 3 | 4 => by decide
  | _ + 5 => Nat.le_refl _

/-- Longer sequences are for larger numbers. -/
theorem least_le {size size' : Nat} (le : size ≤ size') : least size ≤ least size' := by
  induction le with
  | refl => exact Nat.le_refl _
  | step _ ih => exact Nat.le_trans ih (least_le_succ _)

/-- **A number and a length pin the bytes of a sequence.** -/
theorem number_inj {bits bits' : Nat} {more more' : List UInt8}
    (continues : ∀ byte ∈ more, Continues byte) (continues' : ∀ byte ∈ more', Continues byte)
    (size : more.length = more'.length) (same : number bits more = number bits' more') :
    bits = bits' ∧ more = more' := by
  induction more generalizing bits bits' more' with
  | nil =>
    obtain rfl := List.length_eq_zero_iff.mp size.symm
    exact ⟨same, rfl⟩
  | cons byte more ih =>
    obtain ⟨byte', more', rfl⟩ := List.exists_cons_of_length_eq_add_one size.symm
    obtain ⟨first, continues⟩ := List.forall_mem_cons.mp continues
    obtain ⟨first', continues'⟩ := List.forall_mem_cons.mp continues'
    rw [number, number] at same
    obtain ⟨joined, rfl⟩ := ih continues continues' (Nat.succ.inj size) same
    -- The six bits of a byte are the remainder by 64.
    rw [Continues] at first first'
    have head : byte = byte' := UInt8.toNat_inj.mp (by omega)
    exact ⟨by omega, by rw [head]⟩

namespace Sequence

variable {bytes bytes' : List UInt8} {value value' : Nat}

/-- **Bytes start with one sequence** at most. -/
theorem append_inj {rest rest' : List UInt8} (sequence : Sequence bytes value)
    (sequence' : Sequence bytes' value') (same : bytes ++ rest = bytes' ++ rest') :
    bytes = bytes' ∧ value = value' := by
  obtain ⟨leads, -, rfl⟩ := sequence
  obtain ⟨leads', -, rfl⟩ := sequence'
  obtain ⟨rfl, more⟩ := List.cons.inj same
  obtain ⟨size, rfl⟩ := leads.unique leads'
  obtain ⟨rfl, -⟩ := List.append_inj more size
  exact ⟨rfl, rfl⟩

/-- Sequences of one length for one number are the same. -/
theorem eq_of_length_eq (sequence : Sequence bytes value) (sequence' : Sequence bytes' value)
    (size : bytes.length = bytes'.length) : bytes = bytes' := by
  obtain ⟨leads, continues, same⟩ := sequence
  obtain ⟨leads', continues', same'⟩ := sequence'
  obtain ⟨rfl, rfl⟩ :=
    number_inj continues continues' (Nat.succ.inj size) (same.trans same'.symm)
  rw [UInt8.toNat_inj.mp (leads.2.1.trans leads'.2.1.symm)]

/-- A number is less than the least one for which its sequence is too short. -/
theorem lt_least (sequence : Sequence bytes value) : value < least (bytes.length + 1) := by
  obtain ⟨⟨few, -, fits⟩, continues, rfl⟩ := sequence
  rename_i lead more bits
  match more, few with
  | [], _ => exact fits
  | [a], _ =>
    simp only [room, List.length_cons, List.length_nil, number, least] at fits ⊢
    omega
  | [a, b], _ =>
    simp only [room, List.length_cons, List.length_nil, number, least] at fits ⊢
    omega
  | [a, b, c], _ =>
    simp only [room, List.length_cons, List.length_nil, number, least] at fits ⊢
    omega

/-- **No number needs more bytes** than a sequence of it has. -/
theorem le_length_of_least_le (sequence : Sequence bytes value) {size : Nat}
    (needed : least size ≤ value) : size ≤ bytes.length :=
  Nat.le_of_not_lt fun longer =>
    Nat.lt_irrefl value
      (Nat.lt_of_lt_of_le sequence.lt_least (Nat.le_trans (least_le longer) needed))

end Sequence

/-! ## Characters among the sequences -/

theorem continues_ofNat (value : Nat) : Continues (UInt8.ofNat (value % 64 + 0x80)) := by
  rw [Continues, UInt8.toNat_ofNat']
  omega

/-- The numbers of characters. -/
theorem toNat_valid (c : Char) : c.toNat < 0xD800 ∨ 0xDFFF < c.toNat ∧ c.toNat < 0x110000 := c.valid

/-- **A character is a sequence** of its number, and the number needs it. -/
theorem sequence_utf8EncodeChar (c : Char) :
    Sequence (String.utf8EncodeChar c) c.toNat ∧
      least (String.utf8EncodeChar c).length ≤ c.toNat := by
  have last : c.toNat < 0x110000 := by
    have := toNat_valid c
    omega
  fun_cases String.utf8EncodeChar c with
  | case1 value one =>
    have leads : Leads (UInt8.ofNat value) 0 value := by
      simp only [Leads, mark, room, UInt8.toNat_ofNat']
      omega
    exact ⟨.intro leads nofun rfl, Nat.zero_le _⟩
  | case2 value one two =>
    have leads : Leads (UInt8.ofNat (value / 64 % 32 + 0xC0)) 1 (value / 64) := by
      simp only [Leads, mark, room, UInt8.toNat_ofNat']
      omega
    have continues := List.forall_mem_singleton.mpr (continues_ofNat value)
    refine ⟨.intro leads continues ?_, Nat.lt_of_not_le one⟩
    simp only [number, UInt8.toNat_ofNat', Char.toNat]
    omega
  | case3 value one two three =>
    have leads : Leads (UInt8.ofNat (value / 4096 % 16 + 0xE0)) 2 (value / 4096) := by
      simp only [Leads, mark, room, UInt8.toNat_ofNat']
      omega
    have continues := List.forall_mem_cons.mpr
      ⟨continues_ofNat (value / 64), List.forall_mem_singleton.mpr (continues_ofNat value)⟩
    refine ⟨.intro leads continues ?_, Nat.lt_of_not_le two⟩
    simp only [number, UInt8.toNat_ofNat', Char.toNat]
    omega
  | case4 value one two three =>
    have leads : Leads (UInt8.ofNat (value / 262144 % 8 + 0xF0)) 3 (value / 262144) := by
      have bounded : value < 0x110000 := last
      simp only [Leads, mark, room, UInt8.toNat_ofNat']
      omega
    have continues := List.forall_mem_cons.mpr ⟨continues_ofNat (value / 4096),
      List.forall_mem_cons.mpr
        ⟨continues_ofNat (value / 64), List.forall_mem_singleton.mpr (continues_ofNat value)⟩⟩
    refine ⟨.intro leads continues ?_, Nat.lt_of_not_le three⟩
    simp only [number, UInt8.toNat_ofNat', Char.toNat]
    omega

/-- **A sequence of a character's number that the number needs** is the character. -/
theorem utf8EncodeChar_of_sequence {bytes : List UInt8} {value : Nat}
    (sequence : Sequence bytes value) (needed : least bytes.length ≤ value)
    (valid : value.isValidChar) : ∃ c : Char, String.utf8EncodeChar c = bytes := by
  obtain ⟨sequence', needed'⟩ := sequence_utf8EncodeChar (Char.ofNatAux value valid)
  have place : (Char.ofNatAux value valid).toNat = value := rfl
  rw [place] at sequence' needed'
  have size := Nat.le_antisymm (sequence.le_length_of_least_le needed')
    (sequence'.le_length_of_least_le needed)
  exact ⟨_, sequence'.eq_of_length_eq sequence size⟩

/-! ## Bytes that start with no character -/

/-- Bytes are divided behind those that continue, or behind so many of them. -/
theorem exists_continues (count : Nat) (after : List UInt8) :
    ∃ more rest, after = more ++ rest ∧ (∀ byte ∈ more, Continues byte) ∧
      (more.length = count ∨
        more.length < count ∧ ∀ byte ∈ rest.head?, ¬ Continues byte) := by
  induction count generalizing after with
  | zero => exact ⟨[], after, rfl, List.forall_mem_nil _, Or.inl rfl⟩
  | succ count ih =>
    match after with
    | [] =>
      exact ⟨[], [], rfl, List.forall_mem_nil _,
        Or.inr ⟨Nat.succ_pos count, fun byte member => by cases member⟩⟩
    | byte :: after =>
      by_cases continues : Continues byte
      · obtain ⟨more, rest, rfl, all, stop⟩ := ih after
        refine ⟨byte :: more, rest, rfl, List.forall_mem_cons.mpr ⟨continues, all⟩, ?_⟩
        exact stop.imp (congrArg (· + 1)) (And.imp_left Nat.succ_lt_succ)
      · refine ⟨[], byte :: after, rfl, List.forall_mem_nil _, Or.inr ⟨Nat.succ_pos count, ?_⟩⟩
        rintro _ ⟨⟩
        exact continues

/-- **Malformed bytes start with no character.** -/
theorem Malformed.foreign {bytes : List UInt8} (malformed : Malformed bytes) : Foreign bytes := by
  intro c after same
  obtain ⟨sequence, needed⟩ := sequence_utf8EncodeChar c
  have valid := toNat_valid c
  generalize String.utf8EncodeChar c = character at sequence needed same
  cases malformed with
  | stray continues rest =>
    obtain ⟨leads, -, -⟩ := sequence
    obtain ⟨rfl, -⟩ := List.cons.inj same
    exact leads.not_continues.1 continues
  | unused beyond rest =>
    obtain ⟨leads, -, -⟩ := sequence
    obtain ⟨rfl, -⟩ := List.cons.inj same
    exact Nat.not_lt_of_le beyond leads.not_continues.2
  | @truncated lead count bits more rest leads continues short stop =>
    obtain ⟨leads', continues', -⟩ := sequence
    obtain ⟨rfl, behind⟩ := List.cons.inj same
    obtain ⟨rfl, -⟩ := leads.unique leads'
    -- The character goes on where the sequence is cut short.
    rcases List.append_eq_append_iff.mp behind with ⟨missing, rfl, rfl⟩ | ⟨excess, rfl, -⟩
    · cases missing with
      | nil =>
        rw [List.append_nil] at short
        exact Nat.lt_irrefl _ short
      | cons byte missing =>
        exact stop byte rfl (continues' byte (List.mem_append_right _ List.mem_cons_self))
    · rw [List.length_append] at short
      omega
  | overlong sequence' short rest =>
    obtain ⟨rfl, rfl⟩ := sequence.append_inj sequence' same.symm
    exact Nat.not_lt_of_le needed short
  | surrogate sequence' inside rest =>
    obtain ⟨rfl, rfl⟩ := sequence.append_inj sequence' same.symm
    omega
  | beyond sequence' large rest =>
    obtain ⟨rfl, rfl⟩ := sequence.append_inj sequence' same.symm
    omega

/-- **Bytes that start with no character are malformed**, in one of the ways. -/
theorem Foreign.malformed {bytes : List UInt8} (foreign : Foreign bytes) (nonempty : bytes ≠ []) :
    Malformed bytes := by
  obtain ⟨byte, after, rfl⟩ := List.exists_cons_of_ne_nil nonempty
  rcases leads_or byte with ⟨count, bits, leads⟩ | continues | beyond
  · obtain ⟨more, rest, rfl, continues, size | ⟨short, stop⟩⟩ := exists_continues count after
    · subst size
      have sequence : Sequence (byte :: more) (number bits more) := .intro leads continues rfl
      by_cases short : number bits more < least (byte :: more).length
      · exact .overlong sequence short rest
      by_cases inside : 0xD800 ≤ number bits more ∧ number bits more ≤ 0xDFFF
      · exact .surrogate sequence inside rest
      by_cases large : 0x10FFFF < number bits more
      · exact .beyond sequence large rest
      -- A whole sequence of a number that needs it and is none of these is a character.
      have valid : (number bits more).isValidChar := by
        rw [Nat.isValidChar]
        omega
      obtain ⟨c, same⟩ := utf8EncodeChar_of_sequence sequence (Nat.le_of_not_lt short) valid
      exact absurd (congrArg (· ++ rest) same.symm) (foreign c rest)
    · exact .truncated leads continues short stop
  · exact .stray continues after
  · exact .unused beyond after

/-- **Malformed bytes** are those, if any, that start with no character. -/
theorem malformed_iff {bytes : List UInt8} : Malformed bytes ↔ bytes ≠ [] ∧ Foreign bytes := by
  refine ⟨fun malformed => ⟨?_, malformed.foreign⟩, fun h => h.2.malformed h.1⟩
  cases malformed with
  | stray | unused | truncated => exact List.cons_ne_nil _ _
  | overlong sequence | surrogate sequence | beyond sequence =>
    cases sequence
    exact List.cons_ne_nil _ _

end SourceScan.Utf8
