/-
# Proofs.ByteOrder -- texts are ordered as their bytes are

Sorting compares texts character by character, while answers and notices promise the order of the
bytes. UTF-8 makes the two one: a greater code point never has a shorter encoding, and among
encodings of one length the bytes are its digits, highest first (`encoded_lt_of_lt`). So
`utf8_le_iff` lets every later statement speak of bytes and every later proof of texts.
-/
import KeyWatch.Text.Utf8
import Mathlib.Data.String.Basic

namespace KeyWatch.Text

set_option autoImplicit false

theorem utf8_eq_flatMap (text : String) :
    utf8 text = text.toList.flatMap String.utf8EncodeChar := by
  have same : text.toList.utf8Encode = text.toByteArray := String.utf8Encode_toList
  rw [utf8, ← same, List.utf8Encode]
  simp

theorem toNat_ofNat_of_lt {n : Nat} (small : n < 256) : (UInt8.ofNat n).toNat = n :=
  UInt8.toNat_ofNat_of_lt' small

/-- **A smaller character has smaller bytes,** whatever follows either. -/
theorem encoded_lt_of_lt {c d : Char} (less : c < d) (after next : Bytes) :
    String.utf8EncodeChar c ++ after < String.utf8EncodeChar d ++ next := by
  have below : c.val.toNat < d.val.toNat := less
  have bound : d.val.toNat < 0x110000 := by
    have := d.valid
    simp only [UInt32.isValidChar, Nat.isValidChar] at this
    omega
  have digits (k : Nat) : k / 4096 = k / 64 / 64 ∧ k / 262144 = k / 64 / 64 / 64 := by omega
  simp only [String.utf8EncodeChar]
  generalize c.val.toNat = m at *
  generalize d.val.toNat = n at *
  clear less
  simp only [(digits m).1, (digits m).2, (digits n).1, (digits n).2]
  repeat' split
  -- the first number is below the second, so six of the sixteen pairs of lengths cannot be
  all_goals try omega
  all_goals
    simp (disch := omega) only [List.cons_append, List.nil_append, List.cons_lt_cons_iff,
      UInt8.lt_iff_toNat_lt, ← UInt8.toNat_inj, toNat_ofNat_of_lt]
    omega

theorem flatMap_encoded_lt {first second : List Char} (less : first < second) :
    first.flatMap String.utf8EncodeChar < second.flatMap String.utf8EncodeChar := by
  induction first generalizing second with
  | nil =>
    cases second with
    | nil => exact absurd less (lt_irrefl _)
    | cons d second =>
      rw [List.flatMap_nil, List.flatMap_cons]
      obtain ⟨byte, bytes, encoded⟩ :=
        List.exists_cons_of_ne_nil (String.utf8EncodeChar_ne_nil (c := d))
      rw [encoded]
      exact List.nil_lt_cons _ _
  | cons c first ih =>
    cases second with
    | nil => exact absurd less (List.not_lt_nil _)
    | cons d second =>
      rw [List.flatMap_cons, List.flatMap_cons]
      rcases List.cons_lt_cons_iff.1 less with head | ⟨rfl, tail⟩
      · exact encoded_lt_of_lt head _ _
      · exact List.append_left_lt (ih tail)

theorem utf8_lt_of_lt {first second : String} (less : first < second) :
    utf8 first < utf8 second := by
  rw [utf8_eq_flatMap, utf8_eq_flatMap]
  exact flatMap_encoded_lt less

/-- **Texts are ordered as their bytes are.** -/
theorem utf8_le_iff (first second : String) : utf8 first ≤ utf8 second ↔ first ≤ second := by
  constructor
  · intro bytes
    by_contra greater
    exact bytes (utf8_lt_of_lt (not_le.1 greater))
  · intro texts
    rcases texts.lt_or_eq with less | rfl
    · exact List.le_of_lt (utf8_lt_of_lt less)
    · exact List.le_refl _

end KeyWatch.Text
