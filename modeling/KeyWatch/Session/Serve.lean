/-
# Session.Serve -- answering a client's requests

A session answers one request after another, each with one response, until the client says
goodbye, sends something that is no request, or cannot be answered. A request that the store
refuses is answered with no. `Session.serve` takes what has arrived on the request channel and
stops before a request that has not arrived whole; it never looks behind the place where the
session ended.
-/
import KeyWatch.Session.Basic
import KeyWatch.Wire.Reading

namespace KeyWatch.Session

set_option autoImplicit false

structure Progress where
  session : Session
  service : Service
  unread : Bytes
  goesOn : Bool
  /-- Whether something came that is no request. -/
  isSpoiled : Bool := false
  deriving Repr

/-- Send a response; a session that cannot answer ends. -/
def answer (session : Session) (service : Service) (response : Response) :
    Bool × Session × Service :=
  let (result, session) := session.respond response
  (result.isOk, session, service)

/-- Serve one request. Says whether the session goes on. -/
def handle (session : Session) (service : Service) (request : Request) :
    Bool × Session × Service :=
  if session.stage ≠ .active then (false, session, service)
  else
    match request with
    | .disconnect =>
      let (_, session) := session.startLeaving
      let (_, session, service) := session.close service
      let (_, session) := session.respond .farewell
      (false, session, service)
    | .subscribe key =>
      let (result, session, service) := session.subscribe service key
      session.answer service (.subscribed (result.toOption.getD false))
    | .unsubscribe key =>
      let (result, session, service) := session.unsubscribe service key
      session.answer service (.unsubscribed (result.toOption.getD false))

set_option linter.unusedVariables false in
def serve (session : Session) (service : Service) (bytes : Bytes) : Progress :=
  match reading : Request.read bytes with
  | .cutShort => { session, service, unread := bytes, goesOn := true }
  | .refused _ rest => { session, service, unread := rest, goesOn := false, isSpoiled := true }
  | .message request rest =>
    match session.handle service request with
    | (true, session, service) => session.serve service rest
    | (false, session, service) => { session, service, unread := rest, goesOn := false }
  termination_by bytes.length
  decreasing_by
    have arrived : bytes ≠ [] := by rintro rfl; simp [Request.read] at reading
    have shorter := Request.length_rest_read bytes arrived
    rwa [reading] at shorter

end KeyWatch.Session
