import Mathlib.Data.List.Nodup
import SourceScan.Text.Quoted

/-!
# Proofs/Text/Quoted — what a quoted text gives away

A quoted text says where each of its characters ends: a backslash starts every escape and stands
nowhere else, an escape with a code goes up to its brace, and the closing quote is the first one
without a backslash.  So the text can be read back, and it stays on one line.

* `toDigits_sixteen_inj`, `exists_of_mem_toDigits` — hexadecimal digits.
* `Form`, `form_character` — the three forms of a character between the quotes.
* `Form.append_inj`, `quote_injective` — a quoted text is that of one text.
* `Form.ne_of_mem`, `ne_of_mem_quote` — no line feed and no carriage return is in it.
-/

namespace SourceScan.Quoted

/-! ## Hexadecimal digits -/

/-- A hexadecimal digit has one value. -/
theorem digitChar_inj :
    ∀ {m n : Nat}, m < 16 → n < 16 → Nat.digitChar m = Nat.digitChar n → m = n := by
  intro m n small small' same
  have places : ∀ m < 16, ∀ n < 16, Nat.digitChar m = Nat.digitChar n → m = n := by decide
  exact places m small n small' same

/-- **A number is written by its hexadecimal digits** alone. -/
theorem exists_of_mem_toDigits {c : Char} {n : Nat} (member : c ∈ Nat.toDigits 16 n) :
    ∃ place < 16, c = Nat.digitChar place := by
  induction n using Nat.strongRecOn with
  | ind n ih =>
    rw [Nat.toDigits_eq_if (by decide)] at member
    split at member
    · rename_i small
      exact ⟨n, small, List.mem_singleton.mp member⟩
    · obtain front | last := List.mem_append.mp member
      · exact ih (n / 16) (by omega) front
      · exact ⟨n % 16, Nat.mod_lt _ (by decide), List.mem_singleton.mp last⟩

/-- **Numbers with the same hexadecimal digits are the same.** -/
theorem toDigits_sixteen_inj {m n : Nat} (same : Nat.toDigits 16 m = Nat.toDigits 16 n) :
    m = n := by
  induction m using Nat.strongRecOn generalizing n with
  | ind m ih =>
    rw [Nat.toDigits_eq_if (by decide), Nat.toDigits_eq_if (n := n) (by decide)] at same
    split at same
    · rename_i small
      split at same
      · rename_i small'
        exact digitChar_inj small small' (List.singleton_inj.mp same)
      · have front : [] = Nat.toDigits 16 (n / 16) := List.append_inj_left' same rfl
        exact absurd front.symm Nat.toDigits_ne_nil
    · rename_i large
      split at same
      · have front : Nat.toDigits 16 (m / 16) = [] := List.append_inj_left' same rfl
        exact absurd front Nat.toDigits_ne_nil
      · obtain ⟨front, last⟩ := List.append_inj' same rfl
        have quotient : m / 16 = n / 16 := ih (m / 16) (by omega) front
        have remainder : m % 16 = n % 16 := digitChar_inj (Nat.mod_lt _ (by decide))
          (Nat.mod_lt _ (by decide)) (List.singleton_inj.mp last)
        omega

/-! ## Characters -/

/-- **The forms of a character** between the quotes: an escape of its own, itself, or its code. -/
inductive Form (c : Char) : List Char → Prop
  | named {letter : Char} : named.lookup c = some letter → Form c ['\\', letter]
  | graphic : named.lookup c = none → Form c [c]
  | code : Form c ('\\' :: 'u' :: '\x7b' :: (Nat.toDigits 16 c.toNat ++ ['\x7d']))

/-- **Every character has one of the forms.** -/
theorem form_character (c : Char) : Form c (character c) := by
  rw [character]
  cases found : Quoted.named.lookup c with
  | some letter => exact .named found
  | none =>
    dsimp only
    split
    · exact .graphic found
    · exact .code

variable {c d letter : Char} {front other rest rest' : List Char}

theorem mem_named_of_lookup (found : named.lookup c = some letter) : (c, letter) ∈ named := by
  obtain ⟨before, after, split, -⟩ := List.lookup_eq_some_iff.mp found
  rw [split]
  exact List.mem_append_right _ List.mem_cons_self

/-- No letter of an escape is that of a code. -/
theorem ne_of_lookup (found : named.lookup c = some letter) : letter ≠ 'u' := by
  rintro rfl
  have code : 'u' ∉ named.map Prod.snd := by decide
  exact code (List.mem_map_of_mem (mem_named_of_lookup found))

/-- The letter of an escape is that of one character. -/
theorem eq_of_lookup (found : named.lookup c = some letter)
    (found' : named.lookup d = some letter) : c = d := by
  have distinct : (named.map Prod.snd).Nodup := by decide
  have same : (c, letter) = (d, letter) := List.inj_on_of_nodup_map distinct
    (mem_named_of_lookup found) (mem_named_of_lookup found') rfl
  exact congrArg Prod.fst same

/-- **What stands in front of the first stop** is one text. -/
theorem append_cons_inj {stop : Char} (absent : stop ∉ front) (absent' : stop ∉ other)
    (same : front ++ stop :: rest = other ++ stop :: rest') : front = other ∧ rest = rest' := by
  induction front generalizing other with
  | nil =>
    cases other with
    | nil => exact ⟨rfl, List.tail_eq_of_cons_eq same⟩
    | cons d other => exact absurd (List.head_eq_of_cons_eq same ▸ List.mem_cons_self) absent'
  | cons c front ih =>
    cases other with
    | nil => exact absurd (List.head_eq_of_cons_eq same ▸ List.mem_cons_self) absent
    | cons d other =>
      obtain ⟨rfl, others⟩ := List.cons.inj same
      obtain ⟨rfl, rfl⟩ := ih (List.not_mem_of_not_mem_cons absent)
        (List.not_mem_of_not_mem_cons absent') others
      exact ⟨rfl, rfl⟩

/-- No brace is among hexadecimal digits. -/
theorem brace_notMem_toDigits (n : Nat) : '\x7d' ∉ Nat.toDigits 16 n := by
  intro member
  obtain ⟨place, small, same⟩ := exists_of_mem_toDigits member
  have others : ∀ place < 16, '\x7d' ≠ Nat.digitChar place := by decide
  exact others place small same

namespace Form

/-- **A form is that of one character**, and ends where it ends whatever follows. -/
theorem append_inj (form : Form c front) (form' : Form d other)
    (same : front ++ rest = other ++ rest') : c = d ∧ rest = rest' := by
  cases form with
  | named found =>
    cases form' with
    | named found' =>
      simp only [List.cons_append, List.nil_append, List.cons.injEq, true_and] at same
      obtain ⟨rfl, rfl⟩ := same
      exact ⟨eq_of_lookup found found', rfl⟩
    | graphic missing =>
      obtain rfl := List.head_eq_of_cons_eq same
      cases missing
    | code => exact absurd (List.cons.inj (List.cons.inj same).2).1 (ne_of_lookup found)
  | graphic missing =>
    cases form' with
    | named _ =>
      obtain rfl := List.head_eq_of_cons_eq same
      cases missing
    | graphic _ => exact List.cons.inj same
    | code =>
      obtain rfl := List.head_eq_of_cons_eq same
      cases missing
  | code =>
    cases form' with
    | named found => exact absurd (List.cons.inj (List.cons.inj same).2).1.symm (ne_of_lookup found)
    | graphic missing =>
      obtain rfl := List.head_eq_of_cons_eq same
      cases missing
    | code =>
      simp only [List.cons_append, List.append_assoc, List.nil_append, List.cons.injEq,
        true_and] at same
      obtain ⟨digits, rfl⟩ :=
        append_cons_inj (brace_notMem_toDigits _) (brace_notMem_toDigits _) same
      exact ⟨Char.toNat_inj.mp (toDigits_sixteen_inj digits), rfl⟩

/-- **No form starts with a quote**: one that is quoted has a backslash in front. -/
theorem exists_cons (form : Form c front) :
    ∃ first others, front = first :: others ∧ first ≠ '"' := by
  cases form with
  | named _ => exact ⟨_, _, rfl, by decide⟩
  | code => exact ⟨_, _, rfl, by decide⟩
  | graphic missing =>
    refine ⟨_, _, rfl, ?_⟩
    rintro rfl
    cases missing

/-- **A form has no line break** in it. -/
theorem ne_of_mem (form : Form c front) (member : d ∈ front) : d ≠ '\n' ∧ d ≠ '\r' := by
  cases form with
  | named found =>
    have letters : ∀ other ∈ Quoted.named.map Prod.snd, other ≠ '\n' ∧ other ≠ '\r' := by
      simp [Quoted.named]
    simp only [List.mem_cons, List.not_mem_nil, or_false] at member
    obtain rfl | rfl := member
    · decide
    · exact letters d (List.mem_map_of_mem (mem_named_of_lookup found))
  | graphic missing =>
    obtain rfl := List.mem_singleton.mp member
    constructor
    · rintro rfl
      cases missing
    · rintro rfl
      cases missing
  | code =>
    simp only [List.mem_cons, List.mem_append, List.not_mem_nil, or_false] at member
    obtain rfl | rfl | rfl | digit | rfl := member
    · decide
    · decide
    · decide
    · have digits : ∀ place < 16, Nat.digitChar place ≠ '\n' ∧ Nat.digitChar place ≠ '\r' := by
        decide
      obtain ⟨place, small, rfl⟩ := exists_of_mem_toDigits digit
      exact digits place small
    · decide

end Form

/-! ## Texts -/

/-- **A text is read back** from what stands between the quotes. -/
theorem flatMap_character_inj {text text' : List Char}
    (same : text.flatMap character ++ '"' :: rest = text'.flatMap character ++ '"' :: rest') :
    text = text' := by
  induction text generalizing text' with
  | nil =>
    cases text' with
    | nil => rfl
    | cons d text' =>
      obtain ⟨first, others, form, noQuote⟩ := (form_character d).exists_cons
      rw [List.flatMap_cons, form] at same
      exact absurd (List.head_eq_of_cons_eq same).symm noQuote
  | cons c text ih =>
    cases text' with
    | nil =>
      obtain ⟨first, others, form, noQuote⟩ := (form_character c).exists_cons
      rw [List.flatMap_cons, form] at same
      exact absurd (List.head_eq_of_cons_eq same) noQuote
    | cons d text' =>
      rw [List.flatMap_cons, List.flatMap_cons, List.append_assoc, List.append_assoc] at same
      obtain ⟨rfl, others⟩ := (form_character c).append_inj (form_character d) same
      rw [ih others]

theorem toList_quote (text : String) :
    (quote text).toList = '"' :: (text.toList.flatMap character ++ ['"']) := String.toList_ofList

/-- **A quoted text is that of one text.** -/
theorem quote_injective : Function.Injective quote := by
  intro text text' same
  have chars := congrArg String.toList same
  rw [toList_quote, toList_quote] at chars
  exact String.toList_inj.mp (flatMap_character_inj (List.tail_eq_of_cons_eq chars))

/-- **A quoted text is one line.** -/
theorem ne_of_mem_quote {text : String} (member : d ∈ (quote text).toList) :
    d ≠ '\n' ∧ d ≠ '\r' := by
  rw [toList_quote, List.mem_cons, List.mem_append, List.mem_singleton] at member
  obtain rfl | between | rfl := member
  · decide
  · obtain ⟨c, -, form⟩ := List.mem_flatMap.mp between
    exact (form_character c).ne_of_mem form
  · decide

end SourceScan.Quoted
