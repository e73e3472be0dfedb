/-
# Wire.Reading -- reading one message from the front of a stream

A reading of bytes has three outcomes: a message and the bytes after it, a refusal and the bytes
after what was read before refusing, or bytes that end inside the message. A connect message and a
notification are taken whole before anything in them is checked; of a request or response with a
bad opcode only that byte is taken. A field ends at its first zero byte, and what follows the zero
in it has no meaning.
-/
import KeyWatch.Wire.Message

namespace KeyWatch

set_option autoImplicit false

inductive Reading (α : Type) where
  /-- A message, and the bytes after it. -/
  | message (value : α) (rest : Bytes)
  /-- No message of the protocol, and the bytes after what was taken. -/
  | refused (fault : WireFault) (rest : Bytes)
  /-- The bytes end before the message does. -/
  | cutShort
  deriving Repr

namespace Reading

variable {α β : Type}

def map (f : α → β) : Reading α → Reading β
  | .message value rest => .message (f value) rest
  | .refused fault rest => .refused fault rest
  | .cutShort => .cutShort

/-- Take `size` bytes, then check them. -/
def frame (size : Nat) (check : Bytes → Except WireFault α) (bytes : Bytes) : Reading α :=
  if bytes.length < size then .cutShort
  else
    match check (bytes.take size) with
    | .ok value => .message value (bytes.drop size)
    | .error fault => .refused fault (bytes.drop size)

def rest : Reading α → Bytes
  | .message _ rest => rest
  | .refused _ rest => rest
  | .cutShort => []

def message? : Reading α → Option α
  | .message value _ => some value
  | _ => none

/-- At most so many readings, one after another. The last one is the one that uses the bytes up,
that finds them cut short, or that is refused, unless reading `goesOn` after a refusal. -/
def seriesWithin (read : Bytes → Reading α) (goesOn : Bool) : Nat → Bytes → List (Reading α)
  | 0, _ => []
  | count + 1, bytes =>
    match read bytes with
    | .message value [] => [.message value []]
    | .message value rest => .message value rest :: seriesWithin read goesOn count rest
    | .refused fault rest =>
      if rest = [] ∨ goesOn = false then [.refused fault rest]
      else .refused fault rest :: seriesWithin read goesOn count rest
    | .cutShort => [.cutShort]

/-- Read message after message. -/
def series (read : Bytes → Reading α) (goesOn : Bool) (bytes : Bytes) : List (Reading α) :=
  seriesWithin read goesOn (bytes.length + 1) bytes

end Reading

/-- The text of a field, up to its first zero byte. -/
def fieldText (field : Bytes) : Except WireFault String :=
  (Text.decode (field.takeWhile (· != 0))).mapError .fieldNotText

/-- Check a whole connect message: its opcode, its fields in order, and that no path is empty. -/
def ConnectRequest.decode (frame : Bytes) : Except WireFault ConnectRequest := do
  let opcode := frame.headD 0
  if opcode ≠ Opcode.connect.toByte then
    throw (.connectExpected opcode)
  let paths := frame.drop 1
  let requests ← fieldText (paths.take pathWidth)
  let responses ← fieldText ((paths.drop pathWidth).take pathWidth)
  let notifications ← fieldText (paths.drop (2 * pathWidth))
  if requests = "" ∨ responses = "" ∨ notifications = "" then
    throw .emptyPath
  return ⟨requests, responses, notifications⟩

def Notification.decode (frame : Bytes) : Except WireFault Notification := do
  let key ← fieldText (frame.take keyWidth)
  let value ← fieldText (frame.drop keyWidth)
  return ⟨key, value⟩

def ConnectRequest.read (bytes : Bytes) : Reading ConnectRequest :=
  Reading.frame connectSize ConnectRequest.decode bytes

def Notification.read (bytes : Bytes) : Reading Notification :=
  Reading.frame notificationSize Notification.decode bytes

def Request.read : Bytes → Reading Request
  | [] => .cutShort
  | byte :: rest =>
    match Opcode.ofByte? byte with
    | none => .refused (.unknownOpcode byte) rest
    | some .connect => .refused .connectOutOfPlace rest
    | some .disconnect => .message .disconnect rest
    | some .subscribe => (Reading.frame keyWidth fieldText rest).map .subscribe
    | some .unsubscribe => (Reading.frame keyWidth fieldText rest).map .unsubscribe

def Response.read : Bytes → Reading Response
  | [] => .cutShort
  | byte :: rest =>
    match Opcode.ofByte? byte, rest with
    | none, _ => .refused (.unknownOpcode byte) rest
    | some _, [] => .cutShort
    | some opcode, result :: rest => .message ⟨opcode, result⟩ rest

/-! ## A reading makes progress -/

theorem Reading.rest_map {α β : Type} (f : α → β) (reading : Reading α) :
    (reading.map f).rest = reading.rest := by
  cases reading <;> rfl

theorem Reading.length_rest_frame {α : Type} (size : Nat) (check : Bytes → Except WireFault α)
    (bytes : Bytes) (some : 0 < size) (ready : bytes ≠ []) :
    (Reading.frame size check bytes).rest.length < bytes.length := by
  have : 0 < bytes.length := List.length_pos_iff.2 ready
  unfold Reading.frame
  split
  · simpa [Reading.rest] using this
  · split <;> simp [Reading.rest] <;> omega

theorem Request.length_rest_read (bytes : Bytes) (ready : bytes ≠ []) :
    (Request.read bytes).rest.length < bytes.length := by
  cases bytes with
  | nil => exact absurd rfl ready
  | cons byte rest =>
    have field : (Reading.frame keyWidth fieldText rest).rest.length ≤ rest.length := by
      by_cases empty : rest = []
      · subst empty; simp [Reading.frame, keyWidth, Reading.rest]
      · exact Nat.le_of_lt (Reading.length_rest_frame _ _ _ (by decide) empty)
    rw [Request.read, List.length_cons]
    split
    · exact Nat.lt_succ_self _
    · exact Nat.lt_succ_self _
    · exact Nat.lt_succ_self _
    · rw [Reading.rest_map]; omega
    · rw [Reading.rest_map]; omega

end KeyWatch
