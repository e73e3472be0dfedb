/-
# Proofs.ServerSteps -- the workers of a server, step by step

A `Host` moves its workers in steps that nobody interrupts, and takes a slot to be occupied while
its worker serves. In a `Server` a worker goes through its work piece by piece: it takes a request, opens the
channels, makes a session, activates it, puts it into the slot, welcomes the client, serves it,
closes the session, silences it, and empties the slot. Between any two pieces other workers act,
requests come in, and resets close one session after another of those that they found in the slots.
The sessions and the slots are stored apart from the workers, who refer to them by number.

The pieces are made of the operations of a session, and every one of them leaves a session the same
or a later one (`Session.Later`). `Server.Moves` says all that a step can do to requests, sessions and
slots; whatever is kept by each of these is kept by every run (`Server.keeps_of_run`).
-/
import KeyWatch.Proofs.SessionStages
import KeyWatch.Session.Host

namespace KeyWatch

set_option autoImplicit false

/-! ## The same session, later -/

namespace Session

/-- The same session, later: it keeps its number and its slot, and once closed it stays so. -/
structure Later (before after : Session) : Prop where
  id : after.id = before.id
  slot : after.slot = before.slot
  closed : before.stage = .closed → after.stage = .closed

theorem Later.refl (session : Session) : session.Later session := ⟨rfl, rfl, fun closed => closed⟩

theorem Later.trans {first second third : Session} (former : first.Later second)
    (latter : second.Later third) : first.Later third where
  id := latter.id.trans former.id
  slot := latter.slot.trans former.slot
  closed := latter.closed ∘ former.closed

variable (session : Session) (service : Service)

theorem later_activate : session.Later session.activate := by
  unfold activate
  split
  · next connecting => exact ⟨rfl, rfl, fun closed => nomatch connecting.symm.trans closed⟩
  · exact .refl session

theorem later_startLeaving : session.Later session.startLeaving.2 := by
  unfold startLeaving
  split
  · next active => exact ⟨rfl, rfl, fun closed => nomatch active.symm.trans closed⟩
  · exact .refl session

theorem later_respond (response : Response) : session.Later (session.respond response).2 := by
  obtain ⟨responses, same⟩ := session.respond_frame response
  rw [same]
  exact ⟨rfl, rfl, fun closed => closed⟩

theorem later_silence : session.Later session.silence := ⟨rfl, rfl, fun closed => closed⟩

theorem later_close : session.Later (session.close service).2.1 := by
  refine ⟨?_, ?_, fun _ => session.closed_close service⟩
  all_goals
    unfold close
    split <;> rfl

theorem later_subscribe (key : String) : session.Later (session.subscribe service key).2.1 := by
  obtain ⟨⟨keys, same⟩, -⟩ := session.subscribe_frame service key
  rw [same]
  exact ⟨rfl, rfl, fun closed => closed⟩

theorem later_unsubscribe (key : String) : session.Later (session.unsubscribe service key).2.1 := by
  obtain ⟨⟨keys, same⟩, -⟩ := session.unsubscribe_frame service key
  rw [same]
  exact ⟨rfl, rfl, fun closed => closed⟩

theorem later_handle (request : Request) : session.Later (session.handle service request).2.1 := by
  unfold handle
  split
  · exact .refl session
  · cases request with
    | disconnect =>
      exact (session.later_startLeaving.trans (later_close _ service)).trans (later_respond _ _)
    | subscribe key => exact (session.later_subscribe service key).trans (later_respond _ _)
    | unsubscribe key => exact (session.later_unsubscribe service key).trans (later_respond _ _)

theorem later_serve (bytes : Bytes) : session.Later (session.serve service bytes).session := by
  fun_induction serve session service bytes with
  | case1 => exact .refl _
  | case2 => exact .refl _
  | case3 session service bytes request rest reading next after handled ih =>
    have once := session.later_handle service request
    rw [handled] at once
    exact once.trans ih
  | case4 session service bytes request rest reading next after handled =>
    have once := session.later_handle service request
    rw [handled] at once
    exact once

end Session

/-! ## The server -/

/-- A submitted request and its number among all that were submitted. -/
structure Ticket where
  number : Nat
  request : ConnectRequest
  deriving Repr, DecidableEq

/-- A client that was given a number. -/
structure Guest where
  ticket : Ticket
  session : Session
  requests : Inbox
  deriving Repr

/-- How far a worker is with a guest. -/
inductive GuestPhase
  | named
  /-- The session is active and not in the slot yet. -/
  | active
  /-- The session is in the slot, and the client was not welcomed yet. -/
  | seated
  | serving
  | leaving
  /-- The session is closed, and its response channel is not. -/
  | closed
  | silent
  deriving Repr, DecidableEq

namespace GuestPhase

def isSeated : GuestPhase → Bool
  | .named | .active => false
  | _ => true

def isPast : GuestPhase → Bool
  | .closed | .silent => true
  | _ => false

end GuestPhase

/-- What the worker of a slot has in its hands. -/
inductive WorkerState
  | idle
  /-- A request whose channels were not opened yet. -/
  | taken (ticket : Ticket)
  | opened (ticket : Ticket) (channels : Channels)
  | hosting (ticket : Ticket) (guest : Nat) (phase : GuestPhase)
  deriving Repr

namespace WorkerState

def ticket? : WorkerState → Option Ticket
  | .idle => none
  | .taken ticket | .opened ticket _ | .hosting ticket _ _ => some ticket

def hosted? : WorkerState → Option Ticket
  | .hosting ticket _ _ => some ticket
  | _ => none

def guest? : WorkerState → Option Nat
  | .hosting _ guest _ => some guest
  | _ => none

def seat? : WorkerState → Option Nat
  | .hosting _ guest phase => if phase.isSeated then some guest else none
  | _ => none

end WorkerState

/-- A reset that is under way: the guests that it has found and not finished with. -/
structure Reset where
  rest : List Nat
  isClosing : Bool := false
  count : Nat := 0
  deriving Repr

/-- Workers and what they work with. -/
structure Server where
  service : Service
  maxKeys : Nat
  /-- What workers do, by slot. -/
  states : List WorkerState
  slots : List (Option Nat)
  queue : List Ticket := []
  /-- How many requests were submitted. -/
  issued : Nat := 0
  attempts : List Attempt := []
  nextId : ClientId := 1
  /-- Everybody who was given a number, in that order. -/
  guests : List Guest := []
  refused : List Ticket := []
  served : List Ticket := []
  /-- Guests that are gone, in that order. -/
  departed : List Nat := []
  resets : List Reset := []

namespace Server

/-- A server with one worker for each session that may be served at a time, and at least one. -/
def ofService (service : Service) : Server :=
  let capacity := max 1 service.store.settings.maxSessions
  { service
    maxKeys := service.store.settings.maxSubscriptions
    states := List.replicate capacity .idle
    slots := List.replicate capacity none }

inductive Step
  | submit (request : ConnectRequest)
  | work (slot : Nat) (routes : Routes)
  /-- The worker of a slot cannot listen to its client. -/
  | giveUp (slot : Nat)
  | reset
  | sweep (place : Nat)
  /-- Something arrives from a client, or its channel ends. -/
  | receive (guest : Nat) (requests : Inbox)
  | elsewhere (service : Service)

def Step.request? : Step → Option ConnectRequest
  | .submit request => some request
  | _ => none

variable (server : Server)

/-- The tickets in the hands of workers. -/
def hands : List Ticket := server.states.filterMap WorkerState.ticket?

/-- Requests that need nothing more. -/
def done : List Ticket := server.refused ++ server.served

/-! ## Pieces of work -/

def put (slot : Nat) (state : WorkerState) : Server := { server with states := server.states.set slot state }

def alter (place : Nat) (guest : Guest) : Server :=
  { server with guests := server.guests.set place guest }

/-- There is no more to do for a request. -/
def dismiss (slot : Nat) (ticket : Ticket) : Server :=
  { server.put slot .idle with refused := server.refused ++ [ticket] }

def attempt (routes : Routes) (ticket : Ticket) : Server :=
  let attempt : Attempt := { request := ticket.request, opened := routes.opened ticket.request }
  { server with attempts := server.attempts ++ [attempt] }

/-- Make a session for a client whose channels are open. -/
def register (slot : Nat) (ticket : Ticket) (channels : Channels) : Server :=
  let (session, service) := Session.connect server.service server.nextId slot server.maxKeys
    channels.notifications channels.responses
  { server.put slot (.hosting ticket server.guests.length .named) with
    service
    nextId := server.nextId + 1
    guests := server.guests ++ [{ ticket, session, requests := channels.requests }] }

def carry (slot place : Nat) (ticket : Ticket) (guest : Guest) (phase : GuestPhase) : Server :=
  (server.alter place guest).put slot (.hosting ticket place phase)

def seat (slot place : Nat) (ticket : Ticket) : Server :=
  { server.put slot (.hosting ticket place .seated) with slots := server.slots.set slot (some place) }

def vacate (slot place : Nat) (ticket : Ticket) : Server :=
  { server.put slot .idle with
    slots := server.slots.set slot none
    served := server.served ++ [ticket]
    departed := server.departed ++ [place] }

end Server

/-! ## What a worker does for a guest -/

namespace Guest

/-- Nobody will ever listen. -/
def shutRequests (guest : Guest) : Guest :=
  { guest with requests := { guest.requests with isClosed := true } }

/-- Send the welcome. A client that cannot be welcomed is not listened to. -/
def welcome (guest : Guest) : Guest × GuestPhase :=
  match guest.session.respond .welcome with
  | (.ok (), session) => ({ guest with session }, .serving)
  | (.error _, session) => (shutRequests { guest with session }, .leaving)

def dropRequests (guest : Guest) : Guest := { guest with requests := guest.requests.letGo }

def attend (guest : Guest) (service : Service) : Guest × GuestPhase × Service :=
  if guest.session.isClosed then (guest.dropRequests, .leaving, service)
  else
    let progress := guest.session.serve service guest.requests.bytes
    let guest := { guest with
      session := progress.session
      requests := { guest.requests with
        bytes := progress.unread, isClosed := progress.isSpoiled } }
    if progress.goesOn ∧ guest.requests.isEnded = false then (guest, .serving, progress.service)
    else (guest.dropRequests, .leaving, progress.service)

end Guest

namespace Server

/-- The worker of a slot goes on with its guest. -/
def tend (server : Server) (slot place : Nat) (ticket : Ticket) (guest : Guest) : GuestPhase → Server
  | .named =>
    server.carry slot place ticket { guest with session := guest.session.activate } .active
  | .active => server.seat slot place ticket
  | .seated => server.carry slot place ticket guest.welcome.1 guest.welcome.2
  | .serving =>
    let (guest, phase, service) := guest.attend server.service
    { server.carry slot place ticket guest phase with service }
  | .leaving =>
    let (_, session, service) := guest.session.close server.service
    { server.carry slot place ticket { guest with session } .closed with service }
  | .closed =>
    server.carry slot place ticket { guest with session := guest.session.silence } .silent
  | .silent => server.vacate slot place ticket

def work? (server : Server) (slot : Nat) (routes : Routes) : Option Server :=
  match server.states[slot]? with
  | none => none
  | some .idle =>
    match server.queue with
    | [] => none
    | ticket :: queue => some { server.put slot (.taken ticket) with queue }
  | some (.taken ticket) =>
    let server := server.attempt routes ticket
    match routes.openAll ticket.request with
    | .error _ => some (server.dismiss slot ticket)
    | .ok channels => some (server.put slot (.opened ticket channels))
  | some (.opened ticket channels) => some (server.register slot ticket channels)
  | some (.hosting ticket place phase) =>
    server.guests[place]?.map fun guest => server.tend slot place ticket guest phase

/-- A reset goes on, if it has anything left to do. -/
def sweep? (server : Server) (place : Nat) : Option Server :=
  match server.resets[place]? with
  | some { rest := found :: rest, isClosing, count } =>
    server.guests[found]?.map fun guest =>
      if isClosing then
        { server.alter found { guest with session := guest.session.silence } with
          resets := server.resets.set place { rest, count } }
      else
        let (wasOpen, session, service) := guest.session.close server.service
        { server.alter found { guest with session } with
          service
          resets := server.resets.set place
            { rest := found :: rest, isClosing := true, count := count + wasOpen.toNat } }
  | _ => none

/-- Take a step, if it can be taken now. Whoever submits a request waits until the queue has room for
it. -/
def step? (server : Server) : Step → Option Server
  | .submit request =>
    if server.queue.length < server.states.length then
      some { server with
        queue := server.queue ++ [⟨server.issued, request⟩], issued := server.issued + 1 }
    else none
  | .work slot routes => server.work? slot routes
  | .giveUp slot =>
    match server.states[slot]? with
    | some (.hosting ticket place .serving) =>
      server.guests[place]?.map fun guest =>
        server.carry slot place ticket guest.shutRequests .leaving
    | _ => none
  | .reset => some { server with resets := server.resets ++ [{ rest := server.slots.filterMap id }] }
  | .sweep place => server.sweep? place
  | .receive place requests =>
    server.guests[place]?.map fun guest => server.alter place { guest with requests }
  | .elsewhere service => some { server with service }

def run (server : Server) (steps : List Step) : Option Server := steps.foldlM step? server

/-! ## What a step can do to requests, sessions and slots -/

/-- All that a step can do, as far as it matters who has which request, session and slot. -/
inductive Moves (server : Server) : Step → Server → Prop
  | submit {request : ConnectRequest} (room : server.queue.length < server.states.length) :
    Moves server (.submit request) { server with
      queue := server.queue ++ [⟨server.issued, request⟩], issued := server.issued + 1 }
  | take {slot : Nat} {routes : Routes} {ticket : Ticket} {queue : List Ticket}
    (state : server.states[slot]? = some .idle) (first : server.queue = ticket :: queue) :
    Moves server (.work slot routes) { server.put slot (.taken ticket) with queue }
  | refuse {slot : Nat} {routes : Routes} {ticket : Ticket}
    (state : server.states[slot]? = some (.taken ticket)) :
    Moves server (.work slot routes) ((server.attempt routes ticket).dismiss slot ticket)
  | open {slot : Nat} {routes : Routes} {ticket : Ticket} {channels : Channels}
    (state : server.states[slot]? = some (.taken ticket)) :
    Moves server (.work slot routes)
      ((server.attempt routes ticket).put slot (.opened ticket channels))
  | register {slot : Nat} {routes : Routes} {ticket : Ticket} {channels : Channels}
    (state : server.states[slot]? = some (.opened ticket channels)) :
    Moves server (.work slot routes) (server.register slot ticket channels)
  | carry {step : Step} {slot place : Nat} {ticket : Ticket} {before after : Guest}
    {old new : GuestPhase} {service : Service} (quiet : step.request? = none)
    (state : server.states[slot]? = some (.hosting ticket place old))
    (found : server.guests[place]? = some before) (same : after.ticket = before.ticket)
    (later : before.session.Later after.session) (seated : new.isSeated = old.isSeated)
    (past : new.isPast = true → old.isPast = true ∨ after.session.stage = .closed) :
    Moves server step { server.carry slot place ticket after new with service }
  | seat {slot place : Nat} {routes : Routes} {ticket : Ticket}
    (state : server.states[slot]? = some (.hosting ticket place .active)) :
    Moves server (.work slot routes) (server.seat slot place ticket)
  | vacate {slot place : Nat} {routes : Routes} {ticket : Ticket}
    (state : server.states[slot]? = some (.hosting ticket place .silent)) :
    Moves server (.work slot routes) (server.vacate slot place ticket)
  | alter {step : Step} {place : Nat} {before after : Guest} {service : Service}
    {resets : List Reset} (quiet : step.request? = none)
    (found : server.guests[place]? = some before) (same : after.ticket = before.ticket)
    (later : before.session.Later after.session) :
    Moves server step { server.alter place after with service, resets }
  | reset : Moves server .reset
      { server with resets := server.resets ++ [{ rest := server.slots.filterMap id }] }
  | elsewhere {service : Service} :
    Moves server (.elsewhere service) { server with service }

variable {server after : Server} {slot place : Nat} {routes : Routes} {ticket : Ticket}
  {guest : Guest} {phase : GuestPhase}

theorem later_welcome (guest : Guest) :
    guest.welcome.1.ticket = guest.ticket ∧ guest.session.Later guest.welcome.1.session
      ∧ guest.welcome.2.isSeated = true ∧ guest.welcome.2.isPast = false := by
  have later := guest.session.later_respond .welcome
  unfold Guest.welcome
  split <;> next answered =>
    rw [answered] at later
    exact ⟨rfl, later, rfl, rfl⟩

theorem later_attend (guest : Guest) (service : Service) :
    (guest.attend service).1.ticket = guest.ticket
      ∧ guest.session.Later (guest.attend service).1.session
      ∧ (guest.attend service).2.1.isSeated = true ∧ (guest.attend service).2.1.isPast = false := by
  have later := guest.session.later_serve service guest.requests.bytes
  unfold Guest.attend
  split
  · exact ⟨rfl, .refl _, rfl, rfl⟩
  · dsimp only
    split
    · exact ⟨rfl, later, rfl, rfl⟩
    · exact ⟨rfl, later, rfl, rfl⟩

theorem moves_of_tend (state : server.states[slot]? = some (.hosting ticket place phase))
    (found : server.guests[place]? = some guest) :
    server.Moves (.work slot routes) (server.tend slot place ticket guest phase) := by
  cases phase with
  | named => exact .carry rfl state found rfl guest.session.later_activate rfl nofun
  | active => exact .seat state
  | seated =>
    obtain ⟨same, later, seated, early⟩ := later_welcome guest
    exact .carry rfl state found same later seated fun past => nomatch early.symm.trans past
  | serving =>
    obtain ⟨same, later, seated, early⟩ := later_attend guest server.service
    exact .carry rfl state found same later seated fun past => nomatch early.symm.trans past
  | leaving =>
    exact .carry rfl state found rfl (guest.session.later_close _) rfl fun _ =>
      .inr (guest.session.closed_close _)
  | closed => exact .carry rfl state found rfl guest.session.later_silence rfl fun _ => .inl rfl
  | silent => exact .vacate state

theorem moves_of_work? (worked : server.work? slot routes = some after) :
    server.Moves (.work slot routes) after := by
  unfold work? at worked
  split at worked
  · cases worked
  · next state =>
    split at worked
    · cases worked
    · next first =>
      cases worked
      exact .take state first
  · next state =>
    dsimp only at worked
    split at worked
    · cases worked
      exact .refuse state
    · cases worked
      exact .open state
  · next state =>
    cases worked
    exact .register state
  · next state =>
    obtain ⟨guest, found, rfl⟩ := Option.map_eq_some_iff.1 worked
    exact moves_of_tend state found

theorem moves_of_sweep? (swept : server.sweep? place = some after) :
    server.Moves (.sweep place) after := by
  unfold sweep? at swept
  split at swept
  · obtain ⟨guest, found, rfl⟩ := Option.map_eq_some_iff.1 swept
    split
    · exact .alter rfl found rfl guest.session.later_silence
    · exact .alter rfl found rfl (guest.session.later_close _)
  · cases swept

theorem moves_of_step? {step : Step} (taken : server.step? step = some after) :
    server.Moves step after := by
  cases step <;> simp only [step?] at taken
  case submit request =>
    split at taken
    · next room =>
      cases taken
      exact .submit room
    · cases taken
  case work slot routes => exact moves_of_work? taken
  case giveUp slot =>
    split at taken
    · next state =>
      obtain ⟨guest, found, rfl⟩ := Option.map_eq_some_iff.1 taken
      exact .carry rfl state found rfl (.refl _) rfl nofun
    · cases taken
  case reset =>
    cases taken
    exact .reset
  case sweep place => exact moves_of_sweep? taken
  case receive place requests =>
    obtain ⟨guest, found, rfl⟩ := Option.map_eq_some_iff.1 taken
    exact .alter rfl found rfl (.refl _)
  case elsewhere service =>
    cases taken
    exact .elsewhere

theorem run_cons (step : Step) (rest : List Step) :
    server.run (step :: rest) = (server.step? step).bind fun next => next.run rest := by
  simp [run]

theorem run_append (first second : List Step) :
    server.run (first ++ second) = (server.run first).bind fun next => next.run second := by
  simp [run, List.foldlM_append]

/-- What one step keeps, a run keeps. -/
theorem keeps_of_run {kept : Server → Prop}
    (keeps : ∀ {server after : Server} {step : Step}, server.Moves step after → kept server → kept after)
    {steps : List Step} (ran : server.run steps = some after) (start : kept server) : kept after := by
  induction steps generalizing server with
  | nil =>
    cases ran
    exact start
  | cons step rest ih =>
    rw [run_cons] at ran
    obtain ⟨next, taken, ran⟩ := Option.bind_eq_some_iff.1 ran
    exact ih ran (keeps (moves_of_step? taken) start)

end Server

end KeyWatch
