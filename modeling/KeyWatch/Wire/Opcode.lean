/-
# Wire.Opcode -- the kinds of message

The first byte of a connect message, a request or a response is one of four opcodes. `ofByte?`
refuses any other byte, and reads back what `toByte` gives (`ofByte?_eq_some_iff`).
-/

namespace KeyWatch

set_option autoImplicit false

/-- What a message is about. -/
inductive Opcode where
  | connect
  | disconnect
  | subscribe
  | unsubscribe
  deriving Repr, DecidableEq

namespace Opcode

def toByte : Opcode → UInt8
  | .connect => 1
  | .disconnect => 2
  | .subscribe => 3
  | .unsubscribe => 4

def ofByte? (byte : UInt8) : Option Opcode :=
  if byte = 1 then some .connect
  else if byte = 2 then some .disconnect
  else if byte = 3 then some .subscribe
  else if byte = 4 then some .unsubscribe
  else none

def name : Opcode → String
  | .connect => "Connect"
  | .disconnect => "Disconnect"
  | .subscribe => "Subscribe"
  | .unsubscribe => "Unsubscribe"

theorem ofByte?_eq_some_iff (byte : UInt8) (opcode : Opcode) :
    ofByte? byte = some opcode ↔ byte = opcode.toByte := by
  constructor
  · intro read
    unfold ofByte? at read
    split at read
    · cases read; assumption
    split at read
    · cases read; assumption
    split at read
    · cases read; assumption
    split at read
    · cases read; assumption
    · cases read
  · rintro rfl
    cases opcode <;> rfl

end Opcode

end KeyWatch
