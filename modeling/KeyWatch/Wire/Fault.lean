/-
# Wire.Fault -- why a message is not one of the protocol

Each constructor is one way in which a message cannot be written, cannot be read, or does not
belong where it was read; `WireFault.message` puts it into words.
-/
import KeyWatch.Text.Numeral
import KeyWatch.Text.Utf8
import KeyWatch.Wire.Opcode

namespace KeyWatch

set_option autoImplicit false

inductive WireFault where
  | fieldTooLong (length width : Nat)
  | fieldNotText (fault : Text.Utf8Fault)
  | connectExpected (byte : UInt8)
  /-- A connect message names no channel for one of the three. -/
  | emptyPath
  | connectOutOfPlace
  | unknownOpcode (byte : UInt8)
  | unexpectedResponse (expected got : Opcode)
  deriving Repr, DecidableEq

def WireFault.message : WireFault → String
  | .fieldTooLong length width =>
      "Field too long: " ++ toString length ++ " bytes (max " ++ toString width ++ ")"
  | .fieldNotText fault => "Field is not valid UTF-8: " ++ fault.message
  | .connectExpected byte =>
      "Expected CONNECT on registration channel, got 0x" ++ Text.hexByte byte
  | .emptyPath => "Connect message with empty channel path"
  | .connectOutOfPlace => "CONNECT is only valid on the registration channel"
  | .unknownOpcode byte => "Unknown opcode: 0x" ++ Text.hexByte byte
  | .unexpectedResponse expected got =>
      "Expected " ++ expected.name ++ " response, got " ++ got.name

end KeyWatch
