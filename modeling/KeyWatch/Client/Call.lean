/-
# Client.Call -- asking and being answered

A client writes a request and reads one response for it. A request that does not fit the protocol
is refused before a byte of it is written; a response that answers another kind of request is a
breach of the protocol, and is used up all the same. The two answers read differently: one means
yes for a subscribe, zero means yes for an unsubscribe.
-/
import KeyWatch.Error
import KeyWatch.Stream.Sink
import KeyWatch.Wire.Reading

namespace KeyWatch.Client

set_option autoImplicit false

structure Line where
  requests : Sink := {}
  /-- The bytes of the response channel that are not read yet. -/
  responses : Bytes := []
  deriving Repr

namespace Line

def ask (line : Line) (request : Request) : Except Error Unit × Line :=
  match request.encode with
  | .error fault => (.error (.protocol fault), line)
  | .ok bytes =>
    let (result, requests) := line.requests.send bytes
    (result.mapError .io, { line with requests })

def hear (line : Line) (expected : Opcode) : Except Error Response × Line :=
  match Response.read line.responses with
  | .cutShort => (.error (.io .endOfStream), { line with responses := [] })
  | .refused fault rest => (.error (.protocol fault), { line with responses := rest })
  | .message response rest =>
    let line := { line with responses := rest }
    if response.opcode = expected then (.ok response, line)
    else (.error (.protocol (.unexpectedResponse expected response.opcode)), line)

/-- Write a request, let the server act on what was written, and read its response. `talk` says
what a server does with bytes: it answers some, and goes on in another state. -/
def call {σ : Type} (talk : σ → Bytes → Bytes × σ) (server : σ) (line : Line)
    (request : Request) : Except Error Response × Line × σ :=
  let (result, asked) := line.ask request
  let (answer, server) := talk server (asked.requests.taken.drop line.requests.taken.length)
  let asked := { asked with responses := asked.responses ++ answer }
  match result with
  | .error error => (.error error, asked, server)
  | .ok () =>
    let (result, heard) := asked.hear request.opcode
    (result, heard, server)

end Line

/-- What a response says to a request: whether a subscribed key exists, whether an unsubscribed
one was watched. A disconnect is never denied. -/
def granted (request : Request) (response : Response) : Bool :=
  match request with
  | .subscribe _ => response.result == 1
  | .unsubscribe _ => response.result == Response.okResult
  | .disconnect => true

def Line.request {σ : Type} (talk : σ → Bytes → Bytes × σ) (server : σ) (line : Line)
    (request : Request) : Except Error Bool × Line × σ :=
  let (result, line, server) := line.call talk server request
  (result.map (granted request), line, server)

/-! ## Laws -/

theorem granted_subscribed (key : String) (existed : Bool) :
    granted (.subscribe key) (.subscribed existed) = existed := by
  cases existed <;> rfl

theorem granted_unsubscribed (key : String) (removed : Bool) :
    granted (.unsubscribe key) (.unsubscribed removed) = removed := by
  cases removed <;> rfl

end KeyWatch.Client
