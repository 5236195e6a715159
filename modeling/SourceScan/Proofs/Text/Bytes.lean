import SourceScan.Text.Position

/-!
# Proofs/Text/Bytes — cutting a text at byte offsets

A byte offset is a place of a text only at the boundary of a character.  Where it is one, there is
one way to cut.

* `byteLength_toList` — the byte length is the size of the string.
* `eq_ofList_append` — a string whose characters are cut in two is two strings in a row.
* `append_cancel` — two cuts of a text at the same offset are the same cut.
* `splitBytes`, `slice` — cutting a text at an offset, and between two offsets; no answer inside a
  character or beyond the end.
* `slice_eq_some_iff` — what a slice is.
-/

namespace SourceScan

/-- **The byte length of a string's characters is its size.** -/
theorem byteLength_toList (source : String) : byteLength source.toList = source.utf8ByteSize := by
  obtain ⟨text, rfl⟩ : ∃ text, source = String.ofList text := ⟨source.toList, by simp⟩
  rw [String.toList_ofList]
  induction text with
  | nil => rfl
  | cons c text ih =>
    have split : String.ofList (c :: text) = String.singleton c ++ String.ofList text := by
      rw [String.singleton_eq_ofList, ← String.ofList_append, List.singleton_append]
    rw [split, String.utf8ByteSize_append, String.utf8ByteSize_singleton, ← ih, byteLength_cons]

theorem byteLength_eq_zero_iff {text : List Char} : byteLength text = 0 ↔ text = [] := by
  cases text with
  | nil => exact ⟨fun _ => rfl, fun _ => rfl⟩
  | cons c text =>
    have := c.utf8Size_pos
    refine ⟨fun none => ?_, fun none => by cases none⟩
    rw [byteLength_cons] at none
    omega

/-- A text has no more characters than bytes. -/
theorem length_le_byteLength (text : List Char) : text.length ≤ byteLength text := by
  induction text with
  | nil => exact Nat.le_refl 0
  | cons c text ih =>
    have := c.utf8Size_pos
    rw [List.length_cons, byteLength_cons]
    omega

/-- **A text is cut in one way** at a byte offset. -/
theorem append_cancel {left right left' right' : List Char}
    (same : left ++ right = left' ++ right') (size : byteLength left = byteLength left') :
    left = left' ∧ right = right' := by
  obtain ⟨between, rfl, rfl⟩ | ⟨between, rfl, rfl⟩ := List.append_eq_append_iff.mp same
  · have none : byteLength between = 0 := by rw [byteLength_append] at size; omega
    rw [byteLength_eq_zero_iff.mp none]
    exact ⟨(List.append_nil _).symm, rfl⟩
  · have none : byteLength between = 0 := by rw [byteLength_append] at size; omega
    rw [byteLength_eq_zero_iff.mp none]
    exact ⟨List.append_nil _, rfl⟩

/-- …and so is a string. -/
theorem string_append_cancel {left right left' right' : String}
    (same : left ++ right = left' ++ right') (size : left.utf8ByteSize = left'.utf8ByteSize) :
    left = left' ∧ right = right' := by
  rw [← byteLength_toList, ← byteLength_toList] at size
  have texts := congrArg String.toList same
  rw [String.toList_append, String.toList_append] at texts
  obtain ⟨lefts, rights⟩ := append_cancel texts size
  exact ⟨String.toList_inj.mp lefts, String.toList_inj.mp rights⟩

/-- **A string is cut where its characters are.** -/
theorem eq_ofList_append {source : String} {before after : List Char}
    (split : source.toList = before ++ after) :
    source = String.ofList before ++ String.ofList after := by
  rw [← String.ofList_append, ← split, String.ofList_toList]

/-- **The bytes in front of a character** end at a boundary. -/
theorem isValid_byteLength {source : String} {before after : List Char}
    (split : source.toList = before ++ after) :
    (String.Pos.Raw.mk (byteLength before)).IsValid source := by
  refine String.Pos.Raw.isValid_iff_exists_append.mpr
    ⟨String.ofList before, String.ofList after, eq_ofList_append split, ?_⟩
  rw [← String.toList_ofList (l := before), byteLength_toList, String.toList_ofList]
  rfl

/-- **A text cut at a byte offset**, if a character ends there. -/
def splitBytes : Nat → List Char → Option (List Char × List Char)
  | 0, text => some ([], text)
  | _ + 1, [] => none
  | offset + 1, c :: text =>
    if c.utf8Size ≤ offset + 1 then
      (splitBytes (offset + 1 - c.utf8Size) text).map fun (left, right) => (c :: left, right)
    else none

theorem splitBytes_append (left right : List Char) :
    splitBytes (byteLength left) (left ++ right) = some (left, right) := by
  induction left with
  | nil => rw [byteLength_nil, List.nil_append, splitBytes]
  | cons c left ih =>
    obtain ⟨offset, size⟩ : ∃ offset, byteLength (c :: left) = offset + 1 :=
      Nat.exists_eq_add_one.mpr (by have := c.utf8Size_pos; rw [byteLength_cons]; omega)
    have remaining : offset + 1 - c.utf8Size = byteLength left := by
      rw [← size, byteLength_cons, Nat.add_sub_cancel_left]
    rw [size, List.cons_append, splitBytes, if_pos (by rw [← size, byteLength_cons]; omega),
      remaining, ih, Option.map_some]

theorem append_of_splitBytes {offset : Nat} {text left right : List Char}
    (cut : splitBytes offset text = some (left, right)) :
    text = left ++ right ∧ byteLength left = offset := by
  fun_induction splitBytes offset text generalizing left right with
  | case1 text =>
    cases cut
    exact ⟨rfl, rfl⟩
  | case2 => cases cut
  | case3 offset c text fits ih =>
    obtain ⟨⟨rest, right'⟩, cut', pair⟩ := Option.map_eq_some_iff.mp cut
    cases pair
    obtain ⟨rfl, size⟩ := ih cut'
    refine ⟨rfl, ?_⟩
    rw [byteLength_cons, size]
    omega
  | case4 => cases cut

/-- **Cutting a text** gives its two parts. -/
theorem splitBytes_eq_some_iff {offset : Nat} {text left right : List Char} :
    splitBytes offset text = some (left, right) ↔
      text = left ++ right ∧ byteLength left = offset := by
  refine ⟨append_of_splitBytes, ?_⟩
  rintro ⟨rfl, rfl⟩
  exact splitBytes_append left right

/-- **The slice of a text** between two byte offsets, if characters end at both. -/
def slice (text : List Char) (start stop : Nat) : Option (List Char) :=
  if start ≤ stop then do
    let (_, rest) ← splitBytes start text
    let (piece, _) ← splitBytes (stop - start) rest
    return piece
  else none

/-- **A slice is the part of the text** that lies between the two offsets. -/
theorem slice_eq_some_iff {text piece : List Char} {start stop : Nat} :
    slice text start stop = some piece ↔
      ∃ before after, text = before ++ piece ++ after ∧ byteLength before = start ∧
        start + byteLength piece = stop := by
  rw [slice]
  split
  · simp only [Option.bind_eq_bind, Option.bind_eq_some_iff, Option.pure_def,
      Option.some.injEq, Prod.exists, splitBytes_eq_some_iff]
    constructor
    · rintro ⟨before, _, ⟨rfl, rfl⟩, _, after, ⟨rfl, size⟩, rfl⟩
      exact ⟨before, after, (List.append_assoc ..).symm, rfl, by omega⟩
    · rintro ⟨before, after, rfl, rfl, size⟩
      exact ⟨before, piece ++ after, ⟨List.append_assoc .., rfl⟩, piece, after,
        ⟨rfl, by omega⟩, rfl⟩
  · refine ⟨nofun, ?_⟩
    rintro ⟨-, -, -, -, size⟩
    omega

/-- What stands behind a text and in front of another is a slice of the whole. -/
theorem slice_append {text : List Char} {start stop : Nat} (before piece after : List Char)
    (whole : text = before ++ (piece ++ after)) (front : byteLength before = start)
    (size : start + byteLength piece = stop) : slice text start stop = some piece :=
  slice_eq_some_iff.mpr ⟨before, after, whole.trans (List.append_assoc ..).symm, front, size⟩

end SourceScan
