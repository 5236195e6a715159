/-!
# Codepoint/Range — tables of code points

A character property of the standard is a **table**: closed ranges of code points, in ascending
order and with nothing shared between two of them.  Looking a code point up walks the table and
stops at the first range that starts beyond it.

* `Range.Ascending` — what makes a list of ranges a table.
* `Range.covers_iff` — in a table, looking up is lying in one of the ranges.
-/

namespace SourceScan.Codepoint

/-- **A closed range** of code points. -/
structure Range where
  first : Nat
  last : Nat
deriving DecidableEq, Repr

namespace Range

/-- The code point lies in the range. -/
def Contains (range : Range) (code : Nat) : Prop :=
  range.first ≤ code ∧ code ≤ range.last

/-- **A table**: every range ends before the next one starts. -/
def Ascending (table : List Range) : Prop :=
  table.Pairwise fun earlier later => earlier.last < later.first

/-- **Looking a code point up**: no range is tried that starts beyond it. -/
def covers : List Range → Nat → Bool
  | [], _ => false
  | range :: table, code =>
    decide (range.first ≤ code) && (decide (code ≤ range.last) || covers table code)

/-- Only a code point of one of the ranges is found. -/
theorem exists_of_covers {code : Nat} :
    ∀ {table : List Range}, covers table code = true → ∃ range ∈ table, range.Contains code
  | range :: table, found => by
    simp only [covers, Bool.and_eq_true, Bool.or_eq_true, decide_eq_true_eq] at found
    rcases found with ⟨above, below | later⟩
    · exact ⟨range, List.mem_cons_self, above, below⟩
    · obtain ⟨other, member, inside⟩ := exists_of_covers later
      exact ⟨other, List.mem_cons_of_mem _ member, inside⟩

/-- In a table of non-empty ranges, every code point of every range is found. -/
theorem covers_of_mem {code : Nat} {range : Range} (inside : range.Contains code) :
    ∀ {table : List Range}, Ascending table → (∀ r ∈ table, r.first ≤ r.last) →
      range ∈ table → covers table code = true
  | head :: table, ascending, proper, member => by
    obtain ⟨before, rest⟩ := List.pairwise_cons.mp ascending
    simp only [covers, Bool.and_eq_true, Bool.or_eq_true, decide_eq_true_eq]
    rcases List.mem_cons.mp member with rfl | later
    · exact ⟨inside.1, Or.inl inside.2⟩
    · have gap := before range later
      have nonempty := proper head List.mem_cons_self
      exact ⟨by have := inside.1; omega, Or.inr (covers_of_mem inside rest
        (fun r mem => proper r (List.mem_cons_of_mem _ mem)) later)⟩

/-- **Looking up is membership** in one of the ranges of the table. -/
theorem covers_iff {table : List Range} (ascending : Ascending table)
    (proper : ∀ r ∈ table, r.first ≤ r.last) (code : Nat) :
    covers table code = true ↔ ∃ range ∈ table, range.Contains code :=
  ⟨exists_of_covers, fun ⟨_, member, inside⟩ => covers_of_mem inside ascending proper member⟩

end Range

end SourceScan.Codepoint
