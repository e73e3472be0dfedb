/-
# Session.Host -- many clients, served by a fixed number of workers

Connect requests wait in a queue. Each worker takes the first one, opens the client's channels,
gives it the next number, welcomes it, and serves it until it leaves; only then it takes another
one. A client that cannot be reached or welcomed costs nothing but the attempt. A reset closes
every session that is being served; its worker then lets it go.

Workers act in small steps (`Host.step`), in any order and each with routes of its own moment.
They keep their warnings to themselves (`Host.quietly`).
-/
import KeyWatch.Session.Serve
import KeyWatch.Session.Routes

namespace KeyWatch

set_option autoImplicit false

/-- A client with a session. -/
structure Visit where
  request : ConnectRequest
  session : Session
  requests : Inbox
  deriving Repr

inductive Worker where
  | idle
  /-- It has taken a request and has not opened its channels yet. -/
  | admitting (request : ConnectRequest)
  | serving (visit : Visit)
  deriving Repr

/-- What came of a connect request: which of its channels could be opened, in that order. -/
structure Attempt where
  request : ConnectRequest
  opened : List String
  deriving Repr, DecidableEq

/-- The sessions of a store, and who waits for one. -/
structure Host where
  service : Service
  maxKeys : Nat
  workers : List Worker
  queue : List ConnectRequest := []
  isAccepting : Bool := true
  attempts : List Attempt := []
  nextId : ClientId := 1
  departed : List Visit := []
  deriving Repr

namespace Host

/-- A host with one worker for each session that may be served at a time, and at least one. -/
def ofService (service : Service) : Host :=
  { service
    maxKeys := service.store.settings.maxSubscriptions
    workers := List.replicate (max 1 service.store.settings.maxSessions) .idle }

def capacity (host : Host) : Nat := host.workers.length

def visit? : Worker → Option Visit
  | .serving visit => some visit
  | _ => none

def visits (host : Host) : List Visit := host.workers.filterMap visit?

/-- Run something whose warnings are nobody else's concern. -/
def quietly (host : Host) (act : Host → Host) : Host :=
  let after := act host
  { after with service := { after.service with warnings := host.service.warnings } }

/-! ## Taking clients in -/

def submit (host : Host) (request : ConnectRequest) : Except Error Host :=
  if host.isAccepting then .ok { host with queue := host.queue ++ [request] }
  else .error (.session .shutDown)

def shutdown (host : Host) : Host := { host with isAccepting := false }

def depart (host : Host) (visit : Visit) : Host :=
  let (_, session, service) := visit.session.close host.service
  let visit := { visit with session := session.silence, requests := visit.requests.letGo }
  { host with service, departed := host.departed ++ [visit] }

/-- Open a client's channels, give it a number and welcome it. -/
def welcome (host : Host) (routes : Routes) (slot : Nat) (request : ConnectRequest) :
    Option Visit × Host :=
  let attempt : Attempt := { request, opened := routes.opened request }
  let host := { host with attempts := host.attempts ++ [attempt] }
  match routes.openAll request with
  | .error _ => (none, host)
  | .ok channels =>
    let (session, service) := Session.connect host.service host.nextId slot host.maxKeys
      channels.notifications channels.responses
    let (result, session) := session.activate.respond .welcome
    let host := { host with service, nextId := host.nextId + 1 }
    let visit : Visit := { request, session, requests := channels.requests }
    match result with
    | .ok () => (some visit, host)
    | .error _ =>
      (none, host.depart { visit with requests := { visit.requests with isClosed := true } })

/-- Serve what has arrived from a client, and let it go if its session ended. -/
def attend (host : Host) (visit : Visit) : Option Visit × Host :=
  if visit.session.isClosed then (none, host.depart visit)
  else
    let progress := visit.session.serve host.service visit.requests.bytes
    let host := { host with service := progress.service }
    let visit := { visit with
      session := progress.session
      requests := { visit.requests with
        bytes := progress.unread, isClosed := progress.isSpoiled } }
    if progress.goesOn ∧ visit.requests.isEnded = false then (some visit, host)
    else (none, host.depart visit)

/-- Take a client in and serve it to its end; `slot` is the worker's place. The client's request
channel has to come to an end. -/
def serveToEnd (host : Host) (routes : Routes) (slot : Nat)
    (request : ConnectRequest) : Host :=
  match host.welcome routes slot request with
  | (none, host) => host
  | (some visit, host) =>
    let visit := { visit with requests := { visit.requests with isEnded := true } }
    (host.attend visit).2

/-! ## Workers -/

def afterwards : Option Visit → Worker
  | some visit => .serving visit
  | none => .idle

def step (host : Host) (routes : Routes) (slot : Nat) : Host :=
  match host.workers[slot]? with
  | none => host
  | some .idle =>
    match host.queue with
    | [] => host
    | request :: queue =>
      { host with queue, workers := host.workers.set slot (.admitting request) }
  | some (.admitting request) =>
    let (visit, host) := host.welcome routes slot request
    { host with workers := host.workers.set slot (afterwards visit) }
  | some (.serving visit) =>
    let (visit, host) := host.attend visit
    { host with workers := host.workers.set slot (afterwards visit) }

/-! ## The registration channel -/

/-- Queue the connect requests of a registration channel that ends with `ending`. What is no
connect message is dropped with a warning. -/
def takeRegistrations (host : Host) (ending : IoFault) (bytes : Bytes) :
    Except Error Unit × Host :=
  if h : bytes.length < connectSize then
    if ending = .endOfStream then (.ok (), host) else (.error (.io ending), host)
  else
    match ConnectRequest.decode (bytes.take connectSize) with
    | .error fault =>
      let host := { host with service := host.service.warn (.malformedConnect fault) }
      host.takeRegistrations ending (bytes.drop connectSize)
    | .ok request =>
      match host.submit request with
      | .error error => (.error error, host)
      | .ok host => host.takeRegistrations ending (bytes.drop connectSize)
  termination_by bytes.length
  decreasing_by
    all_goals
      simp only [connectSize, pathWidth, List.length_drop] at *
      omega

/-! ## Reset -/

/-- Close the sessions of workers; answers how many were open. -/
def resetWorkers (service : Service) : List Worker → Nat × List Worker × Service
  | [] => (0, [], service)
  | .serving visit :: rest =>
    let (wasOpen, session, service) := visit.session.close service
    let (count, rest, service) := resetWorkers service rest
    (count + wasOpen.toNat, .serving { visit with session := session.silence } :: rest,
      service)
  | worker :: rest =>
    let (count, rest, service) := resetWorkers service rest
    (count, worker :: rest, service)

/-- Close every session that is being served, without a word to its client. Answers how many were
open. -/
def reset (host : Host) : Nat × Host :=
  let (count, workers, service) := resetWorkers host.service host.workers
  (count, { host with workers, service })

/-! ## What clients do meanwhile -/

/-- Change a visit by the number of its session. One that is over stays so. -/
def modifyVisit (host : Host) (id : ClientId) (change : Visit → Visit) : Host :=
  let changed (visit : Visit) : Visit := if visit.session.id = id then change visit else visit
  { host with
    workers := host.workers.map fun
      | .serving visit => .serving (changed visit)
      | worker => worker
    departed := host.departed.map fun visit =>
      let visit := changed visit
      { visit with requests := visit.requests.letGo } }

/-- The first visit, served or over, that has a property. -/
def findVisit? (host : Host) (property : Visit → Bool) : Option Visit :=
  (host.departed ++ host.visits).find? property

end Host

end KeyWatch
