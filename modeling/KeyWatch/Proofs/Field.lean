/-
# Proofs.Field -- what a field says of the text that was put into it

A text is filled up with zeros to the width of its field, and a field ends at its first zero. UTF-8
writes no zero but for NUL (`ne_zero_of_mem_encoded`), so the zeros that fill up are never taken for
text, also where there are none since the text is as wide as its field, and no character is cut in
its middle: what is read back is the text up to its first NUL (`fieldText_padded`).
-/
import KeyWatch.Proofs.ByteOrder
import KeyWatch.Wire.Reading
import Mathlib.Data.List.TakeWhile

namespace KeyWatch

set_option autoImplicit false

/-! ## Text and bytes -/

namespace Text

/-- Bytes of a text are read back as this text. -/
theorem decode_utf8 (text : String) : decode (utf8 text) = .ok text := by
  have same : (utf8 text).toByteArray = text.toByteArray := by
    ext1
    simp [utf8]
  unfold decode
  rw [same, String.fromUTF8?, dif_pos text.isValidUTF8]
  rfl

/-- **An ASCII byte stands for itself:** it belongs to no longer character. -/
theorem encoded_of_ascii {c : Char} {byte : UInt8} (member : byte ∈ String.utf8EncodeChar c)
    (ascii : byte.toNat < 128) : String.utf8EncodeChar c = [byte] ∧ c.toNat = byte.toNat := by
  have bound : c.val.toNat < 0x110000 := by
    have := c.valid
    simp only [UInt32.isValidChar, Nat.isValidChar] at this
    omega
  show _ ∧ c.val.toNat = _
  simp only [String.utf8EncodeChar] at member ⊢
  generalize c.val.toNat = n at *
  -- one case for each length; a leading byte is at least the mark of its length, the others 128
  split at member
  · next short =>
    obtain rfl := List.mem_singleton.1 member
    exact ⟨if_pos short, (toNat_ofNat_of_lt (by omega)).symm⟩
  all_goals
    exfalso
    repeat' split at member
    all_goals
      simp (disch := omega) only [List.mem_cons, List.not_mem_nil, or_false, ← UInt8.toNat_inj,
        toNat_ofNat_of_lt] at member
      omega

theorem ne_zero_of_mem_encoded {c : Char} (apart : c ≠ '\x00') :
    ∀ byte ∈ String.utf8EncodeChar c, byte ≠ 0 := by
  rintro byte member rfl
  exact apart (Char.ext (UInt32.toNat_inj.1 (encoded_of_ascii member (by decide)).2))

/-! ## Up to the first NUL -/

/-- A text up to its first NUL. -/
def cut (text : String) : String := String.ofList (text.toList.takeWhile (· != '\x00'))

/-- Only a text with a NUL is cut. -/
theorem cut_eq_self_iff (text : String) : cut text = text ↔ '\x00' ∉ text.toList := by
  have whole : cut text = text ↔ text.toList.takeWhile (· != '\x00') = text.toList := by
    rw [cut, ← String.toList_inj, String.toList_ofList]
  rw [whole, List.takeWhile_eq_self_iff]
  constructor
  · intro clean member
    exact absurd rfl (bne_iff_ne.1 (clean '\x00' member))
  · intro clean c member
    rw [bne_iff_ne]
    rintro rfl
    exact clean member

/-- A text that is empty or begins with NUL. -/
def isMute (text : String) : Bool := text.toList.head?.all (· == '\x00')

/-- Nothing is left of a mute text, and something of any other. -/
theorem cut_eq_empty_iff (text : String) : cut text = "" ↔ isMute text = true := by
  have empty : cut text = "" ↔ text.toList.takeWhile (· != '\x00') = [] := by
    rw [cut, ← String.toList_inj, String.toList_ofList]
    rfl
  rw [empty, isMute]
  cases text.toList with
  | nil => simp
  | cons first rest => by_cases nul : first = '\x00' <;> simp [nul]

/-- **The bytes before the first zero are the text before the first NUL,** whatever the number of
zeros that follow the text. -/
theorem takeWhile_utf8 (text : String) (count : Nat) :
    (utf8 text ++ List.replicate count 0).takeWhile (· != 0) = utf8 (cut text) := by
  rw [utf8_eq_flatMap, utf8_eq_flatMap, cut, String.toList_ofList]
  induction text.toList with
  | nil => cases count <;> simp [List.replicate_succ]
  | cons c rest ih =>
    rw [List.flatMap_cons, List.append_assoc]
    by_cases nul : c = '\x00'
    · have encoded : String.utf8EncodeChar '\x00' = [0] := by decide
      subst nul
      rw [encoded]
      rfl
    · have nonzero : ∀ byte ∈ String.utf8EncodeChar c, (byte != 0) = true := fun byte member =>
        bne_iff_ne.2 (ne_zero_of_mem_encoded nul byte member)
      have kept : (c :: rest).takeWhile (· != '\x00') = c :: rest.takeWhile (· != '\x00') :=
        List.takeWhile_cons_of_pos (bne_iff_ne.2 nul)
      rw [List.takeWhile_append_of_pos nonzero, ih, kept, List.flatMap_cons]

end Text

/-! ## Fields -/

/-- The bytes of a text, filled up with zeros. -/
def padded (width : Nat) (text : String) : Bytes :=
  Text.utf8 text ++ List.replicate (width - (Text.utf8 text).length) 0

theorem fieldBytes_eq_ok {width : Nat} {text : String} (fits : text.utf8ByteSize ≤ width) :
    fieldBytes width text = .ok (padded width text) := by
  have short : ¬ width < (Text.utf8 text).length := by
    rw [Text.length_utf8]
    omega
  unfold fieldBytes
  dsimp only
  rw [if_neg short]
  rfl

theorem length_padded {width : Nat} {text : String} (fits : text.utf8ByteSize ≤ width) :
    (padded width text).length = width :=
  length_fieldBytes (fieldBytes_eq_ok fits)

/-- **A field says its text up to the first NUL.** -/
theorem fieldText_padded (width : Nat) (text : String) :
    fieldText (padded width text) = .ok (Text.cut text) := by
  rw [fieldText, padded, Text.takeWhile_utf8, Text.decode_utf8]
  rfl

end KeyWatch
