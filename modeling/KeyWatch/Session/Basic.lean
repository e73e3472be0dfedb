/-
# Session.Basic -- one connected client, as its server sees it

    connecting -> active -> disconnecting -> closed
                     |                         ^
                     +---------- reset --------+

A session keeps the keys that its client watches, in the order in which they were asked for, and
at most so many as its limit allows. The entries keep the client among their watchers; a deleted
entry forgets it, so before a new key is taken up, the session drops the keys that are watched no
more. Only an active session changes what is watched. Closing gives up every key, closes the
notification channel, and happens once.
-/
import KeyWatch.Store.Service

namespace KeyWatch

set_option autoImplicit false

inductive Stage where
  | connecting
  | active
  /-- The client said goodbye, or the session is giving up its keys. -/
  | disconnecting
  | closed
  deriving Repr, DecidableEq

def Stage.name : Stage → String
  | .connecting => "Connecting"
  | .active => "Active"
  | .disconnecting => "Disconnecting"
  | .closed => "Closed"

/-- A connected client. -/
structure Session where
  id : ClientId
  slot : Nat
  channel : ChannelId
  responses : Sink
  maxKeys : Nat
  stage : Stage := .connecting
  /-- The watched keys, in the order in which they were asked for. -/
  keys : List String := []
  isAnswering : Bool := true
  /-- Whether the close signal was given, which wakes whoever serves the session. -/
  isClosed : Bool := false
  deriving Repr

namespace Session

/-- A session that is not active yet, on a notification channel of its own. -/
def connect (service : Service) (id : ClientId) (slot maxKeys : Nat)
    (notifications responses : Sink) : Session × Service :=
  let (channel, exchange) := service.exchange.openChannel id notifications
  ({ id, slot, channel, responses, maxKeys }, { service with exchange })

def watcher (session : Session) : Watcher := ⟨session.id, session.channel⟩

def describe (session : Session) : String :=
  "ClientSession \x7b id: " ++ toString session.id ++ ", slot: " ++ toString session.slot
    ++ ", state: " ++ session.stage.name ++ " \x7d"

def activate (session : Session) : Session :=
  if session.stage = .connecting then { session with stage := .active } else session

/-- An active session begins to disconnect. Answers whether it was active. -/
def startLeaving (session : Session) : Bool × Session :=
  if session.stage = .active then (true, { session with stage := .disconnecting })
  else (false, session)

def respond (session : Session) (response : Response) : Except Error Unit × Session :=
  if session.isAnswering then
    let (result, responses) := session.responses.send response.encode
    (result.mapError .io, { session with responses })
  else (.error (.session (.responsesClosed session.id)), session)

def silence (session : Session) : Session := { session with isAnswering := false }

/-- The keys whose present entry is watched, and warnings for those that cannot be checked. -/
def prune (session : Session) (store : Store) : List String → List String × List Warning
  | [] => ([], [])
  | key :: rest =>
    let (keys, warnings) := session.prune store rest
    match store.isWatched key session.id with
    | .ok true => (key :: keys, warnings)
    | .ok false => (keys, warnings)
    | .error error => (keys, .subscriptionDropped session.id key error :: warnings)

/-- Watch a key. Answers whether it is stored, and no for a session at its limit. -/
def subscribe (session : Session) (service : Service) (key : String) :
    Except Error Bool × Session × Service :=
  if session.stage ≠ .active then (.error (.session (.notActive session.id)), session, service)
  else
    let (keys, warnings) := session.prune service.store session.keys
    let session := { session with keys }
    let service := { service with warnings := service.warnings ++ warnings }
    if key ∉ keys ∧ session.maxKeys ≤ keys.length then
      (.ok false, session, service.warn (.subscriptionLimit session.id session.maxKeys))
    else
      match service.apply (service.store.watch key session.watcher) with
      | (.error error, service) => (.error error, session, service)
      | (.ok existed, service) =>
        let keys := if existed ∧ key ∉ keys then keys ++ [key] else keys
        (.ok existed, { session with keys }, service)

/-- Watch a key no more. Answers whether it was watched. -/
def unsubscribe (session : Session) (service : Service) (key : String) :
    Except Error Bool × Session × Service :=
  if session.stage ≠ .active then (.error (.session (.notActive session.id)), session, service)
  else
    match service.apply (service.store.unwatch key session.id) with
    | (.error error, service) => (.error error, session, service)
    | (.ok removed, service) =>
      (.ok removed, { session with keys := session.keys.filter (· != key) }, service)

/-- Give up keys one after another; a key that cannot be given up is warned about. -/
def giveUp (session : Session) (service : Service) : List String → Service
  | [] => service
  | key :: rest =>
    match service.apply (service.store.unwatch key session.id) with
    | (.ok _, service) => session.giveUp service rest
    | (.error error, service) =>
      session.giveUp (service.warn (.notUnsubscribed session.id key error)) rest

/-- Give up every key and close the notification channel. Answers whether the session was open. -/
def close (session : Session) (service : Service) : Bool × Session × Service :=
  if session.stage = .closed then (false, session, service)
  else
    let service := session.giveUp service session.keys
    (true, { session with stage := .closed, keys := [], isClosed := true },
      { service with exchange := service.exchange.close session.channel })

/-! ## Laws -/

theorem closed_close (session : Session) (service : Service) :
    (session.close service).2.1.stage = .closed := by
  unfold close
  split
  · assumption
  · rfl

/-- **A session closes once.** -/
theorem close_close (session : Session) (service other : Service) :
    ((session.close service).2.1.close other).1 = false := by
  have closed := closed_close session service
  rw [close, if_pos closed]

end Session

end KeyWatch
