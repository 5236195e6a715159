import Mathlib.Order.Bounds.Defs
import SourceScan.Proofs.Text.Bytes
import SourceScan.Source.Reader

/-!
# Proofs/Text/Encoding — decoding undoes encoding

The bytes of a text are those of its characters in a row.  No encoding of a character is the start
of another one's, so bytes are read as characters in one way, up to their end or to bytes that start
with no character; decoding reads them so.

* `encode` — the bytes of a text; `Foreign` — bytes that start with no character.
* `exists_encode` — all bytes are a text, and then bytes that start with no character.
* `prefix_of_encode_prefix` — no longer front of them is a text.
* `decode_eq_ok_iff`, `decode_eq_error_iff` — what decoding answers.
-/

namespace SourceScan.Utf8

/-- **The encoding of a text**: the bytes of its characters. -/
def encode (text : List Char) : List UInt8 := text.flatMap String.utf8EncodeChar

@[simp] theorem encode_nil : encode [] = [] := rfl

@[simp] theorem encode_cons (c : Char) (text : List Char) :
    encode (c :: text) = String.utf8EncodeChar c ++ encode text := List.flatMap_cons ..

@[simp] theorem length_encode (text : List Char) : (encode text).length = byteLength text := by
  induction text with
  | nil => rfl
  | cons c text ih =>
    rw [encode_cons, List.length_append, String.length_utf8EncodeChar, ih, byteLength_cons]

/-! ## Reading characters -/

/-- **Bytes that start with no character.** -/
def Foreign (bytes : List UInt8) : Prop :=
  ∀ (c : Char) (rest : List UInt8), bytes ≠ String.utf8EncodeChar c ++ rest

theorem foreign_nil : Foreign [] := fun _ _ same =>
  String.utf8EncodeChar_ne_nil (List.append_eq_nil_iff.mp same.symm).1

/-- What stands in front does not matter to reading a character. -/
theorem utf8DecodeChar?_append (front bytes : List UInt8) :
    (front ++ bytes).toByteArray.utf8DecodeChar? front.length =
      bytes.toByteArray.utf8DecodeChar? 0 := by
  have behind : (front ++ bytes).toByteArray.extract front.length (front ++ bytes).toByteArray.size
      = bytes.toByteArray := by
    rw [List.toByteArray_append]
    refine ByteArray.extract_append_eq_right List.size_toByteArray.symm ?_
    rw [ByteArray.size_append]
  rw [ByteArray.utf8DecodeChar?_eq_utf8DecodeChar?_extract, behind]

/-- **A character is read where the bytes start with it.** -/
theorem utf8DecodeChar?_eq_some_iff {bytes : List UInt8} {c : Char} :
    bytes.toByteArray.utf8DecodeChar? 0 = some c ↔
      ∃ rest, bytes = String.utf8EncodeChar c ++ rest := by
  constructor
  · intro found
    obtain ⟨rest, split⟩ := ByteArray.exists_of_utf8DecodeChar?_eq_some found
    refine ⟨rest.data.toList, ?_⟩
    have lists := congrArg (·.data.toList) split
    simpa using lists
  · rintro ⟨rest, rfl⟩
    rw [List.toByteArray_append]
    exact ByteArray.utf8DecodeChar?_utf8EncodeChar_append

/-- **Bytes start with one character** at most. -/
theorem utf8EncodeChar_append_inj {c d : Char} {rest rest' : List UInt8}
    (same : String.utf8EncodeChar c ++ rest = String.utf8EncodeChar d ++ rest') :
    c = d ∧ rest = rest' := by
  have first := utf8DecodeChar?_eq_some_iff.mpr ⟨rest, same.symm⟩
  have second := utf8DecodeChar?_eq_some_iff.mpr ⟨rest', Eq.refl (String.utf8EncodeChar d ++ rest')⟩
  obtain rfl := Option.some.inj (first.symm.trans second)
  exact ⟨rfl, List.append_cancel_left same⟩

/-- **All bytes are a text**, and then bytes that start with no character. -/
theorem exists_encode (bytes : List UInt8) :
    ∃ text rest, bytes = encode text ++ rest ∧ Foreign rest := by
  induction size : bytes.length using Nat.strongRecOn generalizing bytes with
  | ind n ih =>
    by_cases starts : ∃ c after, bytes = String.utf8EncodeChar c ++ after
    · obtain ⟨c, after, rfl⟩ := starts
      have shorter : after.length < n := by
        have := c.utf8Size_pos
        rw [← size, List.length_append, String.length_utf8EncodeChar]
        omega
      obtain ⟨text, rest, rfl, foreign⟩ := ih _ shorter after rfl
      exact ⟨c :: text, rest, by rw [encode_cons, List.append_assoc], foreign⟩
    · exact ⟨[], bytes, rfl, fun c rest same => starts ⟨c, rest, same⟩⟩

/-- **No longer front is a text**: what bytes start with, up to those that start with no character,
starts with every text they start with. -/
theorem prefix_of_encode_prefix {text shorter : List Char} {rest : List UInt8}
    (foreign : Foreign rest) (front : encode shorter <+: encode text ++ rest) :
    shorter <+: text := by
  induction shorter generalizing text with
  | nil => exact List.nil_prefix
  | cons c shorter ih =>
    obtain ⟨after, same⟩ := front
    rw [encode_cons, List.append_assoc] at same
    cases text with
    | nil => exact absurd same.symm (foreign c _)
    | cons d text =>
      rw [encode_cons, List.append_assoc] at same
      obtain ⟨rfl, -⟩ := utf8EncodeChar_append_inj same
      exact (List.prefix_cons_inj c).mpr (ih ⟨after, List.append_cancel_left same⟩)

/-- **Texts with the same bytes are the same.** -/
theorem encode_injective : Function.Injective encode := by
  intro text text' same
  have one : text <+: text' := prefix_of_encode_prefix foreign_nil ⟨[], by rw [same]⟩
  have other : text' <+: text := prefix_of_encode_prefix foreign_nil ⟨[], by rw [same]⟩
  exact one.eq_of_length_le other.length_le

/-- The text in front of bytes that start with no character is the longest one. -/
theorem isGreatest_byteLength {text : List Char} {rest : List UInt8} (foreign : Foreign rest) :
    IsGreatest {n | ∃ front, encode front <+: encode text ++ rest ∧ (encode front).length = n}
      (byteLength text) := by
  refine ⟨⟨text, List.prefix_append _ _, length_encode text⟩, ?_⟩
  rintro n ⟨front, starts, rfl⟩
  obtain ⟨after, rfl⟩ := prefix_of_encode_prefix foreign starts
  rw [length_encode, byteLength_append]
  exact Nat.le_add_right _ _

/-! ## Decoding -/

/-- **Decoding passes over a text**, character by character. -/
theorem decodeFrom_encode (text : List Char) (front rest : List UInt8) (read : String) :
    decodeFrom (front ++ (encode text ++ rest)).toByteArray front.length read =
      decodeFrom (front ++ (encode text ++ rest)).toByteArray (front ++ encode text).length
        (read ++ String.ofList text) := by
  induction text generalizing front read with
  | nil =>
    rw [encode_nil, List.append_nil, String.ofList_nil, String.append_empty]
  | cons c text ih =>
    rw [encode_cons, List.append_assoc]
    have found : ByteArray.utf8DecodeChar?
        (front ++ (String.utf8EncodeChar c ++ (encode text ++ rest))).toByteArray front.length =
          some c := by
      rw [utf8DecodeChar?_append]
      exact utf8DecodeChar?_eq_some_iff.mpr ⟨_, rfl⟩
    have within : front.length <
        (front ++ (String.utf8EncodeChar c ++ (encode text ++ rest))).toByteArray.size := by
      have := c.utf8Size_pos
      rw [List.size_toByteArray, List.length_append, List.length_append,
        String.length_utf8EncodeChar]
      omega
    have next := ih (front ++ String.utf8EncodeChar c) (read.push c)
    rw [List.append_assoc, List.append_assoc, List.length_append, String.length_utf8EncodeChar]
      at next
    rw [decodeFrom, if_pos within, found]
    refine next.trans ?_
    congr 1
    rw [← String.toList_inj]
    simp

/-- **Decoding undoes encoding.** -/
theorem decode_encode (text : List Char) :
    decode (encode text).toByteArray = .ok (String.ofList text) := by
  have passed := decodeFrom_encode text [] [] ""
  rw [List.nil_append, List.append_nil, List.nil_append, String.empty_append] at passed
  refine passed.trans ?_
  rw [decodeFrom, if_neg]
  rw [List.size_toByteArray]
  exact Nat.lt_irrefl _

/-- **Decoding fails where no character starts.** -/
theorem decode_encode_append (text : List Char) {rest : List UInt8} (nonempty : rest ≠ [])
    (foreign : Foreign rest) :
    decode (encode text ++ rest).toByteArray = .error (byteLength text) := by
  have passed := decodeFrom_encode text [] rest ""
  rw [List.nil_append, List.nil_append] at passed
  have within : (encode text).length < (encode text ++ rest).toByteArray.size := by
    have := List.length_pos_iff.mpr nonempty
    rw [List.size_toByteArray, List.length_append]
    omega
  have none : (encode text ++ rest).toByteArray.utf8DecodeChar? (encode text).length = none := by
    refine Option.eq_none_iff_forall_ne_some.mpr fun c found => ?_
    rw [utf8DecodeChar?_append] at found
    obtain ⟨after, same⟩ := utf8DecodeChar?_eq_some_iff.mp found
    exact foreign c after same
  refine passed.trans ?_
  rw [decodeFrom, if_pos within, none, length_encode]

/-- **Decoding answers a source** exactly for its encoding. -/
theorem decode_eq_ok_iff {bytes : List UInt8} {source : String} :
    decode bytes.toByteArray = .ok source ↔ bytes = encode source.toList := by
  constructor
  · intro decoded
    obtain ⟨text, rest, rfl, foreign⟩ := exists_encode bytes
    by_cases empty : rest = []
    · subst empty
      rw [List.append_nil, decode_encode] at decoded
      obtain rfl := Except.ok.inj decoded
      rw [List.append_nil, String.toList_ofList]
    · rw [decode_encode_append text empty foreign] at decoded
      cases decoded
  · rintro rfl
    rw [decode_encode, String.ofList_toList]

/-- **Decoding answers an offset** where a text ends and something starts that is no character. -/
theorem decode_eq_error_iff {bytes : List UInt8} {offset : Nat} :
    decode bytes.toByteArray = .error offset ↔
      ∃ text rest, bytes = encode text ++ rest ∧ rest ≠ [] ∧ Foreign rest ∧
        byteLength text = offset := by
  constructor
  · intro failed
    obtain ⟨text, rest, rfl, foreign⟩ := exists_encode bytes
    by_cases empty : rest = []
    · subst empty
      rw [List.append_nil, decode_encode] at failed
      cases failed
    · rw [decode_encode_append text empty foreign] at failed
      exact ⟨text, rest, rfl, empty, foreign, Except.error.inj failed⟩
  · rintro ⟨text, rest, rfl, nonempty, foreign, rfl⟩
    exact decode_encode_append text nonempty foreign

end SourceScan.Utf8
