/-
# Wire.Message -- the messages of the protocol and their bytes

Every client has three one-way channels and names them once, in a connect message on the
registration channel. All texts travel in fields of a fixed width, filled up with zero bytes:

    connect       opcode, request path (40), response path (40), notification path (40)
    request       opcode, and the key (41) unless it is a disconnect
    response      opcode, result
    notification  key (41), value (41)

A text that does not fit its field is refused; `length_fieldBytes` says that nothing else
decides the size of a message.
-/
import KeyWatch.Wire.Fault

namespace KeyWatch

set_option autoImplicit false

def pathWidth : Nat := 40

/-- Width of a key or a value in requests and notifications. -/
def keyWidth : Nat := 41

def connectSize : Nat := 1 + 3 * pathWidth

def notificationSize : Nat := 2 * keyWidth

/-! ## Messages -/

/-- The three channels a client announces. -/
structure ConnectRequest where
  requests : String
  responses : String
  notifications : String
  deriving Repr, DecidableEq

/-- The paths of the three channels, in the order in which a client makes and removes them. -/
def ConnectRequest.paths (request : ConnectRequest) : List String :=
  [request.requests, request.responses, request.notifications]

/-- What a client asks of its session. -/
inductive Request where
  | disconnect
  | subscribe (key : String)
  | unsubscribe (key : String)
  deriving Repr, DecidableEq

/-- The answer to a connect message or a request. -/
structure Response where
  opcode : Opcode
  result : UInt8
  deriving Repr, DecidableEq

/-- A change of a watched key, told to a client. -/
structure Notification where
  key : String
  value : String
  deriving Repr, DecidableEq

def Request.opcode : Request → Opcode
  | .disconnect => .disconnect
  | .subscribe _ => .subscribe
  | .unsubscribe _ => .unsubscribe

namespace Response

/-- Connecting and disconnecting succeed with this result. -/
def okResult : UInt8 := 0

def welcome : Response := ⟨.connect, okResult⟩

def farewell : Response := ⟨.disconnect, okResult⟩

/-- The answer to a subscribe: one if the key exists and is watched now, else zero. -/
def subscribed (existed : Bool) : Response := ⟨.subscribe, if existed then 1 else 0⟩

/-- The answer to an unsubscribe: zero if the key was watched, else one. -/
def unsubscribed (removed : Bool) : Response := ⟨.unsubscribe, if removed then 0 else 1⟩

end Response

/-! ## Bytes -/

def fieldBytes (width : Nat) (text : String) : Except WireFault Bytes :=
  let bytes := Text.utf8 text
  if width < bytes.length then .error (.fieldTooLong bytes.length width)
  else .ok (bytes ++ List.replicate (width - bytes.length) 0)

def ConnectRequest.encode (request : ConnectRequest) : Except WireFault Bytes := do
  let requests ← fieldBytes pathWidth request.requests
  let responses ← fieldBytes pathWidth request.responses
  let notifications ← fieldBytes pathWidth request.notifications
  return Opcode.connect.toByte :: (requests ++ responses ++ notifications)

def Request.encode : Request → Except WireFault Bytes
  | .disconnect => .ok [Opcode.disconnect.toByte]
  | .subscribe key => (fieldBytes keyWidth key).map (Opcode.subscribe.toByte :: ·)
  | .unsubscribe key => (fieldBytes keyWidth key).map (Opcode.unsubscribe.toByte :: ·)

def Response.encode (response : Response) : Bytes := [response.opcode.toByte, response.result]

def Notification.encode (notification : Notification) : Except WireFault Bytes := do
  let key ← fieldBytes keyWidth notification.key
  let value ← fieldBytes keyWidth notification.value
  return key ++ value

/-! ## Laws -/

/-- A field fails exactly on a text that is too long for it. -/
theorem fieldBytes_eq_error_iff (width : Nat) (text : String) (fault : WireFault) :
    fieldBytes width text = .error fault
      ↔ width < text.utf8ByteSize ∧ fault = .fieldTooLong text.utf8ByteSize width := by
  have size := Text.length_utf8 text
  by_cases long : width < text.utf8ByteSize
  · simp [fieldBytes, size, long, eq_comm]
  · simp [fieldBytes, size, long]

theorem length_fieldBytes {width : Nat} {text : String} {bytes : Bytes}
    (written : fieldBytes width text = .ok bytes) : bytes.length = width := by
  unfold fieldBytes at written
  dsimp only at written
  split at written
  · cases written
  · next fits =>
    cases written
    simp only [List.length_append, List.length_replicate]
    omega

end KeyWatch
