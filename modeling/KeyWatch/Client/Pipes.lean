/-
# Client.Pipes -- the pipes that a client makes for itself

A client is told apart by an id, and its three pipes are named after it.
-/
import KeyWatch.Wire.Message

namespace KeyWatch.Client

set_option autoImplicit false

/-- Paths of the request, response and notification pipe, named by an id behind a common start. -/
def pipesAt (start id : String) : ConnectRequest :=
  { requests := start ++ "req" ++ id
    responses := start ++ "resp" ++ id
    notifications := start ++ "notif" ++ id }

/-- The pipes of a client, which stand in the directory for temporary files. -/
def pipes (id : String) : ConnectRequest := pipesAt "/tmp/" id

end KeyWatch.Client
