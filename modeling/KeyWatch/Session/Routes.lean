/-
# Session.Routes -- reaching a client

A connect message names three channels, and the server opens them in a fixed order: the
notifications, the requests, the responses. Routes tell whether and how a channel opens, which may
depend on what the same attempt has opened before; the first one that does not open ends the
attempt, and those before it were opened in vain (`Routes.opened`). An attempt that succeeds has
opened all three (`Routes.opened_of_openAll_eq_ok`).
-/
import KeyWatch.Stream.Sink
import KeyWatch.Wire.Reading

namespace KeyWatch

set_option autoImplicit false

structure Inbox where
  bytes : Bytes := []
  /-- Whether nothing more will arrive. -/
  isEnded : Bool := false
  /-- Whether the server has closed its end, so that nothing can be written any more. -/
  isClosed : Bool := false
  deriving Repr

/-- What becomes of the channel of a session that is over: it is closed once a whole request, or
something that is none, has arrived on it. -/
def Inbox.letGo (inbox : Inbox) : Inbox :=
  match Request.read inbox.bytes with
  | .cutShort => inbox
  | _ => { inbox with isClosed := true }

/-- How channels open, by the paths that the attempt has opened already and the path. -/
structure Routes where
  notifications : List String → String → Except IoFault Sink
  requests : List String → String → Except IoFault Inbox
  responses : List String → String → Except IoFault Sink

structure Channels where
  notifications : Sink
  requests : Inbox
  responses : Sink
  deriving Repr

def Routes.openAll (routes : Routes) (request : ConnectRequest) :
    Except IoFault Channels := do
  let notifications ← routes.notifications [] request.notifications
  let requests ← routes.requests [request.notifications] request.requests
  let responses ← routes.responses [request.notifications, request.requests] request.responses
  return { notifications, requests, responses }

/-- The channels of a connect message that open, up to the first one that does not. -/
def Routes.opened (routes : Routes) (request : ConnectRequest) : List String :=
  let first := [request.notifications]
  let two := [request.notifications, request.requests]
  if (routes.notifications [] request.notifications).isOk = false then []
  else if (routes.requests first request.requests).isOk = false then first
  else if (routes.responses two request.responses).isOk = false then two
  else two ++ [request.responses]

/-! ## Laws -/

/-- An attempt that succeeds has opened all three channels, in their order. -/
theorem Routes.opened_of_openAll_eq_ok (routes : Routes) (request : ConnectRequest)
    (channels : Channels) (done : routes.openAll request = .ok channels) :
    routes.opened request = [request.notifications, request.requests, request.responses] := by
  unfold openAll at done
  unfold opened
  cases first : routes.notifications [] request.notifications with
  | error fault => rw [first] at done; cases done
  | ok notifications =>
    cases second : routes.requests [request.notifications] request.requests with
    | error fault => rw [first] at done; simp [second, bind, Except.bind] at done
    | ok requests =>
      cases third : routes.responses [request.notifications, request.requests]
          request.responses with
      | error fault => rw [first] at done; simp [second, third, bind, Except.bind] at done
      | ok responses => simp [Except.isOk, Except.toBool, second, third]

end KeyWatch
