/-
# Session.Fault -- why a session cannot do what is asked

A session that is not active serves nothing, a channel that is closed carries nothing, a server
that stops takes nobody in, and a client may be refused.
-/
import KeyWatch.Wire.Opcode

namespace KeyWatch

set_option autoImplicit false

inductive SessionFault where
  | shutDown
  | notificationsClosed (client : Nat)
  | responsesClosed (client : Nat)
  | notActive (client : Nat)
  /-- The server answered a connect message with something else than a welcome. -/
  | refused (opcode : Opcode) (result : UInt8)
  deriving Repr, DecidableEq

def SessionFault.message : SessionFault → String
  | .shutDown => "session manager is shut down"
  | .notificationsClosed client =>
      "notification channel of client " ++ toString client ++ " is closed"
  | .responsesClosed client => "response channel of client " ++ toString client ++ " is closed"
  | .notActive client => "client " ++ toString client ++ " is not active"
  | .refused opcode result =>
      "Server refused connection: Response \x7b opcode: " ++ opcode.name ++ ", result: "
        ++ toString result.toNat ++ " \x7d"

end KeyWatch
