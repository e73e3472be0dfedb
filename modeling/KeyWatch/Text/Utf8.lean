/-
# Text.Utf8 -- text as bytes, and why bytes are not text

`utf8` writes a text as bytes and `decode` reads it back. Bytes that are no text are refused with
the place and the kind of the first bad sequence: `invalid start length` where the sequence cannot
go on, `length` counting its bytes that could still begin a character (at least one), and
`incomplete start` where the bytes end inside a sequence that is sound so far.
-/

namespace KeyWatch

set_option autoImplicit false

abbrev Bytes := List UInt8

namespace Text

def utf8 (text : String) : Bytes := text.toByteArray.data.toList

/-- The first place where bytes stop being text. -/
inductive Utf8Fault where
  /-- `length` bytes from `start` begin a character, and the next byte cannot continue it. -/
  | invalid (start length : Nat)
  /-- The bytes end inside the character that begins at `start`. -/
  | incomplete (start : Nat)
  deriving Repr, DecidableEq

def Utf8Fault.message : Utf8Fault → String
  | .invalid start length =>
      "invalid utf-8 sequence of " ++ toString length ++ " bytes from index " ++ toString start
  | .incomplete start => "incomplete utf-8 byte sequence from index " ++ toString start

/-- The least and greatest byte allowed at each place after a leading byte; `none` for a byte that
begins no character. -/
def followers? (lead : UInt8) : Option (List (UInt8 × UInt8)) :=
  let any := (0x80, 0xBF)
  if lead < 0x80 then some []
  else if 0xC2 ≤ lead && lead ≤ 0xDF then some [any]
  else if lead == 0xE0 then some [(0xA0, 0xBF), any]
  else if lead == 0xED then some [(0x80, 0x9F), any]
  else if 0xE1 ≤ lead && lead ≤ 0xEF then some [any, any]
  else if lead == 0xF0 then some [(0x90, 0xBF), any, any]
  else if 0xF1 ≤ lead && lead ≤ 0xF3 then some [any, any, any]
  else if lead == 0xF4 then some [(0x80, 0x8F), any, any]
  else none

/-- Bytes left after the followers of the character at `start`, of which `seen` bytes are read. -/
def skipFollowers (start seen : Nat) : List (UInt8 × UInt8) → Bytes → Except Utf8Fault Bytes
  | [], rest => .ok rest
  | _ :: _, [] => .error (.incomplete start)
  | bounds :: more, byte :: rest =>
      if bounds.1 ≤ byte && byte ≤ bounds.2 then skipFollowers start (seen + 1) more rest
      else .error (.invalid start seen)

theorem skipFollowers_length (start seen : Nat) (bounds : List (UInt8 × UInt8)) (bytes rest : Bytes)
    (skipped : skipFollowers start seen bounds bytes = .ok rest) : rest.length ≤ bytes.length := by
  induction bounds generalizing seen bytes with
  | nil => simp only [skipFollowers, Except.ok.injEq] at skipped; simp [skipped]
  | cons first more ih =>
    cases bytes with
    | nil => simp [skipFollowers] at skipped
    | cons byte tail =>
      rw [skipFollowers] at skipped
      split at skipped
      · exact Nat.le_succ_of_le (ih _ _ skipped)
      · simp at skipped

/-- The first fault in bytes of which the first stands at index `start`. -/
def firstFault? (start : Nat) : Bytes → Option Utf8Fault
  | [] => none
  | lead :: rest =>
    match followers? lead with
    | none => some (.invalid start 1)
    | some bounds =>
      match skipped : skipFollowers start 1 bounds rest with
      | .error fault => some fault
      | .ok tail => firstFault? (start + 1 + bounds.length) tail
  termination_by bytes => bytes.length
  decreasing_by
    have := skipFollowers_length _ _ _ _ _ skipped
    simp only [List.length_cons]
    omega

/-- The text that bytes stand for, or where they stop being text. -/
def decode (bytes : Bytes) : Except Utf8Fault String :=
  match String.fromUTF8? bytes.toByteArray with
  | some text => .ok text
  | none => .error ((firstFault? 0 bytes).getD (.incomplete 0))

/-! ## Laws -/

theorem length_utf8 (text : String) : (utf8 text).length = text.utf8ByteSize := rfl

theorem utf8_append (first second : String) :
    utf8 (first ++ second) = utf8 first ++ utf8 second := by
  simp [utf8]

end Text

end KeyWatch
