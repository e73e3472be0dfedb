/-
# Proofs.ServerHost -- a server whose workers nobody interrupts is a host

If nobody interrupts it, a worker of a server does in a few pieces what a worker of a host does in
one step (`Server.shows_step`), and a reset closes what `Host.reset` closes (`Server.shows_reset`). So
whatever a host comes to, a server comes to as well (`Server.shows_of_turns`), and what is true of
every server is true of what it shows.
-/
import KeyWatch.Proofs.ServerSlots
import KeyWatch.Proofs.RunSession

namespace KeyWatch

set_option autoImplicit false

/-- A guest as a host knows it. -/
def Guest.visit (guest : Guest) : Visit := ⟨guest.ticket.request, guest.session, guest.requests⟩

/-- A worker as a host knows it, if it is at a point where a host would leave it. -/
def WorkerState.worker? (guests : List Guest) : WorkerState → Option Worker
  | .idle => some .idle
  | .taken ticket => some (.admitting ticket.request)
  | .hosting _ place .serving => guests[place]?.map fun guest => .serving guest.visit
  | _ => none

namespace Server

/-- A server whose workers are where a host would leave them, but for one that may be busy. -/
structure Shows (server : Server) (host : Host) (busy : Option Nat) : Prop where
  service : host.service = server.service
  maxKeys : host.maxKeys = server.maxKeys
  queue : host.queue = server.queue.map Ticket.request
  isAccepting : host.isAccepting = true
  attempts : host.attempts = server.attempts
  nextId : host.nextId = server.nextId
  workers : ∀ slot, busy ≠ some slot →
    host.workers[slot]?.map some = server.states[slot]?.map (WorkerState.worker? server.guests)
  departed : host.departed.map some
    = server.departed.map fun place => server.guests[place]?.map Guest.visit

theorem shows_ofService (service : Service) :
    (Server.ofService service).Shows (Host.ofService service) none where
  service := rfl
  maxKeys := rfl
  queue := rfl
  isAccepting := rfl
  attempts := rfl
  nextId := rfl
  workers := by
    intro slot _
    simp only [Server.ofService, Host.ofService, List.getElem?_replicate]
    split <;> rfl
  departed := rfl

variable {server after : Server} {host : Host} {step : Step} {slot place : Nat} {ticket : Ticket}
  {guest : Guest} {routes : Routes}

/-! ## Who is gone -/

/-- Guests that are gone have no worker. -/
structure Parted (server : Server) : Prop where
  inside : ∀ place ∈ server.departed, place < server.guests.length
  alone : ∀ place ∈ server.departed, ∀ state ∈ server.states, state.guest? ≠ some place

theorem Parted.put (parted : server.Parted) {old : WorkerState} (state : server.states[slot]? = some old)
    (new : WorkerState) (same : new.guest? = none ∨ new.guest? = old.guest?) :
    (server.put slot new).Parted where
  inside := parted.inside
  alone := by
    intro place gone now member hosts
    obtain rfl | member := List.mem_or_eq_of_mem_set member |>.symm
    · obtain free | same := same
      · rw [free] at hosts
        cases hosts
      · exact parted.alone place gone old (List.mem_of_getElem? state) (same ▸ hosts)
    · exact parted.alone place gone now member hosts

/-- A worker in a slot is the only one that looks after its guest. -/
theorem Seating.slot_eq (seating : server.Seating) {other : Nat} {state : WorkerState} {ticket : Ticket}
    {phase : GuestPhase} (here : server.states[slot]? = some (.hosting ticket place phase))
    (there : server.states[other]? = some state) (hosts : state.guest? = some place) : other = slot := by
  obtain ⟨guest, found, -, placed, -⟩ := seating.fits here
  have fits := seating.fits there
  cases state with
  | hosting _ _ _ =>
    cases hosts
    obtain ⟨same, foundSame, -, placedSame, -⟩ := fits
    cases found.symm.trans foundSame
    exact placedSame.symm.trans placed
  | _ => cases hosts

theorem Parted.vacate (parted : server.Parted) (seating : server.Seating)
    (state : server.states[slot]? = some (.hosting ticket place .silent)) :
    (server.vacate slot place ticket).Parted where
  inside := by
    intro other gone
    obtain ⟨guest, found, -⟩ := seating.fits state
    obtain gone | gone := List.mem_append.1 gone
    · exact parted.inside other gone
    · cases List.mem_singleton.1 gone
      exact (List.getElem?_eq_some_iff.1 found).1
  alone := by
    intro other gone now member hosts
    obtain ⟨index, here⟩ := List.getElem?_of_mem member
    by_cases same : index = slot
    · subst same
      have put : (server.vacate index place ticket).states[index]? = some .idle :=
        getElem?_set_of_found state _
      cases put.symm.trans here
      cases hosts
    · have there := (List.getElem?_set_ne (Ne.symm same)).symm.trans here
      obtain gone | gone := List.mem_append.1 gone
      · exact parted.alone other gone now (List.mem_of_getElem? there) hosts
      · cases List.mem_singleton.1 gone
        exact same (seating.slot_eq state there hosts)

theorem Parted.register (parted : server.Parted) (channels : Channels) :
    (server.register slot ticket channels).Parted where
  inside := by
    intro place gone
    show place < (server.guests ++ [_]).length
    rw [List.length_append]
    exact Nat.lt_add_right _ (parted.inside place gone)
  alone := by
    intro place gone now member hosts
    obtain member | rfl := List.mem_or_eq_of_mem_set member
    · exact parted.alone place gone now member hosts
    · cases hosts
      exact Nat.lt_irrefl _ (parted.inside _ gone)

theorem Parted.moves (parted : server.Parted) (seating : server.Seating)
    (moved : server.Moves step after) : after.Parted := by
  have altered (place : Nat) (guest : Guest) : (server.alter place guest).Parted :=
    ⟨by simpa [Server.alter] using parted.inside, parted.alone⟩
  cases moved with
  | submit | reset | elsewhere => exact ⟨parted.inside, parted.alone⟩
  | @take _ _ ticket _ state =>
    have gone := parted.put state (.taken ticket) (.inl rfl)
    exact ⟨gone.inside, gone.alone⟩
  | refuse state =>
    have gone := parted.put state .idle (.inl rfl)
    exact ⟨gone.inside, gone.alone⟩
  | @«open» _ _ ticket channels state =>
    have gone := parted.put state (.opened ticket channels) (.inl rfl)
    exact ⟨gone.inside, gone.alone⟩
  | register => exact parted.register _
  | @carry _ slot place ticket _ guest _ phase _ _ state =>
    have gone := (altered place guest).put state (.hosting ticket place phase) (.inr rfl)
    exact ⟨gone.inside, gone.alone⟩
  | @seat slot place _ ticket state =>
    have gone := parted.put state (.hosting ticket place .seated) (.inr rfl)
    exact ⟨gone.inside, gone.alone⟩
  | vacate state => exact parted.vacate seating state
  | @alter _ place _ guest =>
    have gone := altered place guest
    exact ⟨gone.inside, gone.alone⟩

/-! ## What others see -/

/-- The guests of other workers, and those that are gone, are as they were. -/
structure Undisturbed (server : Server) (slot : Nat) (guests : List Guest) : Prop where
  hosted : ∀ {other : Nat} {state : WorkerState} {place : Nat}, other ≠ slot →
    server.states[other]? = some state → state.guest? = some place →
    guests[place]? = server.guests[place]?
  departed : ∀ place ∈ server.departed, guests[place]? = server.guests[place]?

theorem undisturbed_guests (server : Server) (slot : Nat) : server.Undisturbed slot server.guests :=
  ⟨fun _ _ _ => rfl, fun _ _ => rfl⟩

theorem undisturbed_append (seating : server.Seating) (parted : server.Parted) (slot : Nat)
    (guest : Guest) : server.Undisturbed slot (server.guests ++ [guest]) where
  hosted := by
    intro other state place _ here hosts
    have fits := seating.fits here
    cases state with
    | hosting _ _ _ =>
      cases hosts
      obtain ⟨_, found, -⟩ := fits
      exact List.getElem?_append_left (List.getElem?_eq_some_iff.1 found).1
    | _ => cases hosts
  departed place gone := List.getElem?_append_left (parted.inside place gone)

theorem undisturbed_set (seating : server.Seating) (parted : server.Parted) {phase : GuestPhase}
    (state : server.states[slot]? = some (.hosting ticket place phase)) (guest : Guest) :
    server.Undisturbed slot (server.guests.set place guest) where
  hosted := by
    intro other now elsewhere apart here hosts
    refine List.getElem?_set_ne ?_
    rintro rfl
    exact apart (seating.slot_eq state here hosts)
  departed := by
    intro elsewhere gone
    refine List.getElem?_set_ne ?_
    rintro rfl
    exact parted.alone _ gone _ (List.mem_of_getElem? state) rfl

theorem worker?_congr {guests others : List Guest} {state : WorkerState}
    (same : ∀ place, state.guest? = some place → others[place]? = guests[place]?) :
    state.worker? others = state.worker? guests := by
  cases state with
  | hosting ticket place phase =>
    cases phase with
    | serving => exact congrArg (Option.map _) (same place rfl)
    | _ => rfl
  | _ => rfl

/-- A worker begins something that a host would do at once. -/
theorem Shows.begin (shows : server.Shows host none) (slot : Nat) : server.Shows host (some slot) where
  service := shows.service
  maxKeys := shows.maxKeys
  queue := shows.queue
  isAccepting := shows.isAccepting
  attempts := shows.attempts
  nextId := shows.nextId
  workers other _ := shows.workers other nofun
  departed := shows.departed

/-- What a busy worker does to its own guest, others do not see. -/
theorem Shows.disturb (shows : server.Shows host (some slot)) {guests : List Guest}
    (undisturbed : server.Undisturbed slot guests) (state : WorkerState) (service : Service) :
    Shows { server.put slot state with service, guests } { host with service } (some slot) where
  service := rfl
  maxKeys := shows.maxKeys
  queue := shows.queue
  isAccepting := shows.isAccepting
  attempts := shows.attempts
  nextId := shows.nextId
  workers := by
    intro other apart
    have elsewhere : slot ≠ other := fun same => apart (congrArg some same)
    show _ = (server.states.set slot state)[other]?.map _
    rw [List.getElem?_set_ne elsewhere, shows.workers other apart]
    cases here : server.states[other]? with
    | none => rfl
    | some now =>
      have same := worker?_congr fun place hosts =>
        undisturbed.hosted elsewhere.symm here hosts
      exact congrArg some same.symm
  departed := by
    rw [shows.departed]
    exact List.map_congr_left fun place gone => by rw [undisturbed.departed place gone]

/-- A busy worker comes to a point where a host would leave it. -/
theorem Shows.settle (shows : server.Shows host (some slot)) {state : WorkerState} {worker : Worker}
    (here : server.states[slot]? = some state) (known : slot < host.workers.length)
    (shown : state.worker? server.guests = some worker) :
    server.Shows { host with workers := host.workers.set slot worker } none where
  service := shows.service
  maxKeys := shows.maxKeys
  queue := shows.queue
  isAccepting := shows.isAccepting
  attempts := shows.attempts
  nextId := shows.nextId
  departed := shows.departed
  workers := by
    intro other _
    by_cases same : other = slot
    · subst same
      show (host.workers.set other worker)[other]?.map some = _
      rw [List.getElem?_set_self known, here, Option.map_some, Option.map_some, shown]
    · show (host.workers.set slot worker)[other]?.map some = _
      rw [List.getElem?_set_ne (Ne.symm same)]
      exact shows.workers other fun busy => same (Option.some.inj busy).symm

/-! ## Pieces in a row -/

/-- The worker of a slot is at some point with a guest. -/
structure At (server : Server) (slot place : Nat) (ticket : Ticket) (guest : Guest) (phase : GuestPhase) :
    Prop where
  state : server.states[slot]? = some (.hosting ticket place phase)
  found : server.guests[place]? = some guest

variable {phase : GuestPhase}

theorem At.carry (here : server.At slot place ticket guest phase) (next : Guest) (phase : GuestPhase) :
    (server.carry slot place ticket next phase).At slot place ticket next phase where
  state := getElem?_set_of_found here.state _
  found := getElem?_set_of_found here.found _

theorem At.seat (here : server.At slot place ticket guest phase) :
    (server.seat slot place ticket).At slot place ticket guest .seated where
  state := getElem?_set_of_found here.state _
  found := here.found

theorem run_work (here : server.At slot place ticket guest phase) (routes : Routes) (count : Nat) :
    server.run (List.replicate (count + 1) (.work slot routes))
      = (server.tend slot place ticket guest phase).run (List.replicate count (.work slot routes)) := by
  have worked : server.step? (.work slot routes) = some (server.tend slot place ticket guest phase) := by
    simp only [step?, work?, here.state, here.found, Option.map_some]
  rw [List.replicate_succ, run_cons, worked, Option.bind_some]

/-- A worker closes the session of its guest, silences it, and empties the slot. -/
theorem run_leave (here : server.At slot place ticket guest .leaving) (routes : Routes) :
    server.run (List.replicate 3 (.work slot routes)) = some { server with
      service := (guest.session.close server.service).2.2
      states := server.states.set slot .idle
      slots := server.slots.set slot none
      guests := server.guests.set place
        { guest with session := (guest.session.close server.service).2.1.silence }
      served := server.served ++ [ticket]
      departed := server.departed ++ [place] } := by
  let session := (guest.session.close server.service).2.1
  let service := (guest.session.close server.service).2.2
  have closed : At { server.carry slot place ticket { guest with session } .closed with service }
      slot place ticket { guest with session } .closed :=
    ⟨(here.carry _ .closed).state, (here.carry _ .closed).found⟩
  have silent := closed.carry { guest with session := session.silence } .silent
  refine (run_work here routes 2).trans ?_
  refine (run_work closed routes 1).trans ((run_work silent routes 0).trans ?_)
  simp [run, tend, Server.carry, put, alter, vacate, session, service]

/-- A client that is about to be welcomed. -/
def newcomer (server : Server) (slot : Nat) (ticket : Ticket) (channels : Channels) : Guest :=
  { ticket
    session := (Session.connect server.service server.nextId slot server.maxKeys
      channels.notifications channels.responses).1.activate
    requests := channels.requests }

/-- The store once a client has its notification channel. -/
def connected (server : Server) (slot : Nat) (channels : Channels) : Service :=
  (Session.connect server.service server.nextId slot server.maxKeys channels.notifications
    channels.responses).2

/-- A server once a client is in its slot and was welcomed, or could not be. -/
def welcomed (server : Server) (slot : Nat) (ticket : Ticket) (channels : Channels) : Server :=
  let guest := server.newcomer slot ticket channels
  { server.put slot (.hosting ticket server.guests.length guest.welcome.2) with
    service := server.connected slot channels
    nextId := server.nextId + 1
    slots := server.slots.set slot (some server.guests.length)
    guests := server.guests ++ [guest.welcome.1] }

/-- A worker makes a session, activates it, puts it into the slot, and welcomes its client. -/
theorem run_welcome {channels : Channels}
    (state : server.states[slot]? = some (.opened ticket channels)) (routes : Routes) :
    let guest := server.newcomer slot ticket channels
    server.run (List.replicate 4 (.work slot routes)) = some (server.welcomed slot ticket channels)
      ∧ (server.welcomed slot ticket channels).At slot server.guests.length ticket guest.welcome.1
        guest.welcome.2 := by
  intro guest
  obtain ⟨inside, -⟩ := List.getElem?_eq_some_iff.1 state
  have worked : server.step? (.work slot routes) = some (server.register slot ticket channels) := by
    simp only [step?, work?, state]
  have named : (server.register slot ticket channels).At slot server.guests.length ticket
      _ .named := ⟨List.getElem?_set_self inside, List.getElem?_concat_length⟩
  have active := named.carry guest .active
  have seated := active.seat
  refine ⟨?_, List.getElem?_set_self inside, List.getElem?_concat_length⟩
  rw [List.replicate_succ, run_cons, worked, Option.bind_some]
  refine (run_work named routes 2).trans ?_
  refine (run_work active routes 1).trans ((run_work seated routes 0).trans ?_)
  simp [run, tend, Server.carry, put, alter, Server.seat, register, welcomed, connected, guest]

/-! ## The same in one step -/

theorem letGo_letGo (inbox : Inbox) : inbox.letGo.letGo = inbox.letGo := by
  unfold Inbox.letGo
  cases read : Request.read inbox.bytes <;> simp [read]

theorem letGo_of_isClosed {inbox : Inbox} (closed : inbox.isClosed = true) :
    inbox.letGo = inbox := by
  unfold Inbox.letGo
  split
  · rfl
  · rw [← closed]

/-- What a host makes of a client whose channels are open. -/
theorem welcome_eq (shows : server.Shows host none) (slot : Nat) {channels : Channels}
    (opened : routes.openAll ticket.request = .ok channels) :
    let guest := server.newcomer slot ticket channels
    let admitted : Host := { host.tried routes ticket.request with
      service := server.connected slot channels, nextId := server.nextId + 1 }
    (guest.welcome.2 = .serving
        ∧ host.welcome routes slot ticket.request = (some guest.welcome.1.visit, admitted))
      ∨ (guest.welcome.2 = .leaving
        ∧ guest.welcome.1.requests.letGo = guest.welcome.1.requests
        ∧ host.welcome routes slot ticket.request
          = (none, admitted.depart guest.welcome.1.visit)) := by
  rw [connected, ← shows.service, ← shows.nextId, ← shows.maxKeys]
  intro guest
  have same : guest.session = (Session.connect host.service host.nextId slot host.maxKeys
      channels.notifications channels.responses).1.activate := by
    rw [shows.service, shows.nextId, shows.maxKeys]
    rfl
  cases answered : guest.session.respond .welcome with
  | mk result session =>
    cases result with
    | ok _ =>
      have welcomed : guest.welcome = ({ guest with session }, .serving) := by
        rw [Guest.welcome, answered]
      rw [welcomed]
      refine .inl ⟨rfl, ?_⟩
      rw [Host.welcome, opened]
      dsimp only
      rw [← same, answered]
      rfl
    | error fault =>
      have welcomed : guest.welcome = (Guest.shutRequests { guest with session }, .leaving) := by
        rw [Guest.welcome, answered]
      rw [welcomed]
      refine .inr ⟨rfl, letGo_of_isClosed rfl, ?_⟩
      rw [Host.welcome, opened]
      dsimp only
      rw [← same, answered]
      rfl

/-- What a host makes of what has arrived from a client. -/
theorem attend_eq (host : Host) (guest : Guest) :
    let attended := guest.attend host.service
    let served : Host := { host with service := attended.2.2 }
    (attended.2.1 = .serving ∧ host.attend guest.visit = (some attended.1.visit, served))
      ∨ (attended.2.1 = .leaving ∧ attended.1.requests.letGo = attended.1.requests
        ∧ host.attend guest.visit = (none, served.depart attended.1.visit)) := by
  have let_go (host : Host) (guest : Guest) :
      host.depart guest.dropRequests.visit = host.depart guest.visit := by
    simp only [Host.depart, Guest.dropRequests, Guest.visit, letGo_letGo]
  dsimp only
  unfold Guest.attend Host.attend
  by_cases closed : guest.session.isClosed = true
  · rw [if_pos closed, if_pos (show guest.visit.session.isClosed = true from closed)]
    exact .inr ⟨rfl, letGo_letGo _, congrArg _ (let_go host guest).symm⟩
  · rw [if_neg closed, if_neg (show ¬ guest.visit.session.isClosed = true from closed)]
    dsimp only
    split
    · next goesOn =>
      exact .inl ⟨rfl, if_pos goesOn⟩
    · next ends =>
      refine .inr ⟨rfl, letGo_letGo _, ?_⟩
      rw [let_go]
      exact if_neg ends

/-- Every worker has its slot and its guest, and who is gone has no worker. -/
structure Sane (server : Server) : Prop where
  seating : server.Seating
  parted : server.Parted

theorem Sane.moves (sane : server.Sane) (moved : server.Moves step after) : after.Sane :=
  ⟨sane.seating.moves moved, sane.parted.moves sane.seating moved⟩

theorem Sane.run (sane : server.Sane) {steps : List Step} (ran : server.run steps = some after) :
    after.Sane := keeps_of_run (fun moved kept => Sane.moves kept moved) ran sane

theorem run_one (taken : server.step? step = some after) :
    server.run (List.replicate 1 step) = some after := by
  rw [List.replicate_one, run_cons, taken]
  rfl

/-- A worker that lets its guest go does in three pieces what a host does at once. -/
theorem shows_leave (sane : server.Sane) (shows : server.Shows host (some slot))
    (here : server.At slot place ticket guest .leaving)
    (known : slot < host.workers.length)
    (deaf : guest.requests.letGo = guest.requests) (routes : Routes) :
    ∃ after, server.run (List.replicate 3 (.work slot routes)) = some after
      ∧ after.Shows { host.depart guest.visit with
          workers := (host.depart guest.visit).workers.set slot .idle } none := by
  refine ⟨_, run_leave here routes, ?_⟩
  let gone : Guest :=
    { guest with session := (guest.session.close server.service).2.1.silence }
  have resting := (shows.disturb (undisturbed_set sane.seating sane.parted here.state gone) .idle
    (guest.session.close server.service).2.2).settle
    (getElem?_set_of_found here.state _) known rfl
  have departs : host.depart guest.visit = { host with
      service := (guest.session.close server.service).2.2
      departed := host.departed ++ [gone.visit] } := by
    have left : host.depart guest.visit = { host with
        service := (guest.session.close host.service).2.2
        departed := host.departed ++ [⟨guest.ticket.request,
          (guest.session.close host.service).2.1.silence, guest.requests.letGo⟩] } := rfl
    rw [left, deaf, shows.service]
    rfl
  rw [departs]
  refine ⟨rfl, resting.maxKeys, resting.queue, resting.isAccepting, resting.attempts,
    resting.nextId, resting.workers, ?_⟩
  have found : (server.guests.set place gone)[place]? = some gone :=
    getElem?_set_of_found here.found _
  have last : [gone.visit].map some
      = [place].map fun place => (server.guests.set place gone)[place]?.map Guest.visit := by
    rw [List.map_singleton, List.map_singleton, found, Option.map_some]
  rw [List.map_append, List.map_append, resting.departed]
  exact congrArg _ last

/-- A worker whose client can be reached goes on until the client is served or gone. -/
theorem shows_welcome (sane : server.Sane) (shows : server.Shows host none) (routes : Routes)
    (state : server.states[slot]? = some (.taken ticket)) {channels : Channels}
    (opened : routes.openAll ticket.request = .ok channels) :
    ∃ count after, server.run (List.replicate count (.work slot routes)) = some after
      ∧ after.Shows (host.step routes slot) none := by
  obtain ⟨inside, -⟩ := List.getElem?_eq_some_iff.1 state
  have taken : host.workers[slot]? = some (.admitting ticket.request) := by
    have same := shows.workers slot nofun
    rw [state] at same
    simpa [WorkerState.worker?] using same
  have known := (List.getElem?_eq_some_iff.1 taken).1
  let reached : Server := (server.attempt routes ticket).put slot (.opened ticket channels)
  have worked : server.step? (.work slot routes) = some reached := by
    simp only [step?, work?, state, opened, reached]
  have reachedSane : reached.Sane := sane.moves (moves_of_step? worked)
  have here : reached.states[slot]? = some (.opened ticket channels) := List.getElem?_set_self inside
  obtain ⟨ran, tended⟩ := run_welcome here routes
  have first (more : List Step) : server.run (.work slot routes :: more) = reached.run more := by
    rw [run_cons, worked, Option.bind_some]
  have begun : reached.Shows (host.tried routes ticket.request) (some slot) := by
    have begun := (shows.begin slot).disturb (server.undisturbed_guests slot)
      (.opened ticket channels) server.service
    exact ⟨shows.service, begun.maxKeys, begun.queue, begun.isAccepting,
      congrArg (· ++ [_]) begun.attempts, begun.nextId, begun.workers, begun.departed⟩
  let guest := server.newcomer slot ticket channels
  let admitted : Host := { host.tried routes ticket.request with
    service := server.connected slot channels, nextId := server.nextId + 1 }
  have busy : (reached.welcomed slot ticket channels).Shows admitted (some slot) := by
    have busy := begun.disturb
      (undisturbed_append reachedSane.seating reachedSane.parted slot guest.welcome.1)
      (.hosting ticket server.guests.length guest.welcome.2) (server.connected slot channels)
    exact ⟨rfl, busy.maxKeys, busy.queue, busy.isAccepting, busy.attempts, rfl, busy.workers,
      busy.departed⟩
  rw [Host.step_admitting routes taken]
  obtain ⟨serving, welcomed⟩ | ⟨leaving, deaf, welcomed⟩ := welcome_eq shows slot opened
  · refine ⟨5, _, (first _).trans ran, ?_⟩
    rw [welcomed]
    refine busy.settle tended.state known ?_
    show WorkerState.worker? _ (.hosting ticket _ guest.welcome.2) = _
    rw [serving]
    exact congrArg (Option.map _) tended.found
  · have here : (reached.welcomed slot ticket channels).At slot server.guests.length ticket
        guest.welcome.1 .leaving := leaving ▸ tended
    obtain ⟨after, left, shown⟩ := shows_leave (reachedSane.run ran) busy here known deaf routes
    refine ⟨8, after, ?_, ?_⟩
    · refine (first (List.replicate 4 (.work slot routes) ++ List.replicate 3 _)).trans ?_
      rw [run_append, ran]
      exact left
    · rw [welcomed]
      exact shown

/-- A worker that serves a client does in one piece what a host does, and lets it go in three
more. -/
theorem shows_attend (sane : server.Sane) (shows : server.Shows host none) (routes : Routes)
    (here : server.At slot place ticket guest .serving) :
    ∃ count after, server.run (List.replicate count (.work slot routes)) = some after
      ∧ after.Shows (host.step routes slot) none := by
  have serves : host.workers[slot]? = some (.serving guest.visit) := by
    have same := shows.workers slot nofun
    rw [here.state] at same
    simpa [WorkerState.worker?, here.found] using same
  have known := (List.getElem?_eq_some_iff.1 serves).1
  let next := (guest.attend server.service).1
  let phase := (guest.attend server.service).2.1
  let service := (guest.attend server.service).2.2
  let attended : Server := { server.carry slot place ticket next phase with service }
  have ran (count : Nat) : server.run (List.replicate (count + 1) (.work slot routes))
      = attended.run (List.replicate count (.work slot routes)) := run_work here routes count
  have tended : attended.At slot place ticket next phase :=
    ⟨(here.carry next phase).state, (here.carry next phase).found⟩
  have busy : attended.Shows { host with service } (some slot) := by
    have busy := (shows.begin slot).disturb
      (undisturbed_set sane.seating sane.parted here.state next) (.hosting ticket place phase) service
    exact ⟨busy.service, busy.maxKeys, busy.queue, busy.isAccepting, busy.attempts, busy.nextId,
      busy.workers, busy.departed⟩
  rw [Host.step_serving routes serves]
  have attends := attend_eq host guest
  rw [shows.service] at attends
  obtain ⟨serving, result⟩ | ⟨(leaving : phase = .leaving), deaf, result⟩ := attends
  · refine ⟨1, _, ran 0, ?_⟩
    rw [result]
    refine busy.settle tended.state known ?_
    show WorkerState.worker? _ (.hosting ticket place (guest.attend server.service).2.1) = _
    rw [serving]
    exact congrArg (Option.map _) tended.found
  · have leaves : attended.At slot place ticket next .leaving := leaving ▸ tended
    have moved : server.Moves (.work slot routes) attended := moves_of_tend here.state here.found
    obtain ⟨after, left, shown⟩ := shows_leave (sane.moves moved) busy leaves known deaf routes
    refine ⟨4, after, (ran 3).trans left, ?_⟩
    rw [result]
    exact shown

/-- **A worker that nobody interrupts does what the worker of a host does in one step.** -/
theorem shows_step (sane : server.Sane) (shows : server.Shows host none) (routes : Routes)
    (slot : Nat) :
    ∃ count after, server.run (List.replicate count (.work slot routes)) = some after
      ∧ after.Shows (host.step routes slot) none := by
  have same := shows.workers slot nofun
  cases state : server.states[slot]? with
  | none =>
    rw [state] at same
    have nobody : host.workers[slot]? = none := Option.map_eq_none_iff.1 same
    refine ⟨0, server, rfl, ?_⟩
    rw [Host.step, nobody]
    exact shows
  | some now =>
    obtain ⟨inside, -⟩ := List.getElem?_eq_some_iff.1 state
    rw [state, Option.map_some] at same
    obtain ⟨worker, there, shown⟩ := Option.map_eq_some_iff.1 same
    have known := (List.getElem?_eq_some_iff.1 there).1
    cases now with
    | idle =>
      cases shown
      cases waiting : server.queue with
      | nil =>
        refine ⟨0, server, rfl, ?_⟩
        have empty : host.queue = [] := by rw [shows.queue, waiting, List.map_nil]
        rw [Host.step, there, empty]
        exact shows
      | cons ticket queue =>
        have taken : server.step? (.work slot routes)
            = some { server.put slot (.taken ticket) with queue } := by
          simp only [step?, work?, state, waiting]
        have first : host.queue = ticket.request :: queue.map Ticket.request := by
          rw [shows.queue, waiting, List.map_cons]
        have begun := ((shows.begin slot).disturb (server.undisturbed_guests slot) (.taken ticket)
          server.service).settle (List.getElem?_set_self inside) known rfl
        refine ⟨1, _, run_one taken, ?_⟩
        rw [Host.step, there, first]
        exact ⟨shows.service, begun.maxKeys, rfl, begun.isAccepting, begun.attempts, begun.nextId,
          begun.workers, begun.departed⟩
    | taken ticket =>
      cases opened : routes.openAll ticket.request with
      | ok channels => exact shows_welcome sane shows routes state opened
      | error fault =>
        cases shown
        have begun := ((shows.begin slot).disturb (server.undisturbed_guests slot) .idle
          server.service).settle (List.getElem?_set_self inside) known rfl
        refine ⟨1, _, run_one (work?_of_error state opened), ?_⟩
        rw [Host.step_admitting routes there, Host.welcome_of_error _ _ _ _ opened]
        exact ⟨shows.service, begun.maxKeys, begun.queue, begun.isAccepting,
          congrArg (· ++ [_]) begun.attempts, begun.nextId, begun.workers, begun.departed⟩
    | opened ticket channels => cases shown
    | hosting ticket place phase =>
      obtain ⟨guest, found, -⟩ := sane.seating.fits state
      cases phase with
      | serving => exact shows_attend sane shows routes ⟨state, found⟩
      | _ => cases shown

/-! ## Requests and resets -/

/-- A request that is submitted while there is room comes to the end of the queue. -/
theorem shows_submit (shows : server.Shows host none) (room : server.queue.length < server.states.length)
    (request : ConnectRequest) :
    ∃ after next, server.step? (.submit request) = some after ∧ host.submit request = .ok next
      ∧ after.Shows next none := by
  refine ⟨_, _, if_pos room, if_pos shows.isAccepting, shows.service, shows.maxKeys, ?_,
    shows.isAccepting, shows.attempts, shows.nextId, shows.workers, shows.departed⟩
  show host.queue ++ [request] = (server.queue ++ [_]).map Ticket.request
  rw [shows.queue, List.map_append, List.map_singleton]

theorem Shows.workers_eq (shows : server.Shows host none) :
    host.workers.map some = server.states.map (WorkerState.worker? server.guests) := by
  refine List.ext_getElem? fun slot => ?_
  rw [List.getElem?_map, List.getElem?_map]
  exact shows.workers slot nofun

/-- A reset closes the first of its sessions and silences it. -/
theorem run_sweep {found count : Nat} {rest : List Nat}
    (turn : server.resets[place]? = some { rest := found :: rest, count })
    (here : server.guests[found]? = some guest) (more : List Step) :
    let swept : Server := { server with
      service := (guest.session.close server.service).2.2
      guests := server.guests.set found
        { guest with session := (guest.session.close server.service).2.1.silence }
      resets := server.resets.set place
        { rest, count := count + (guest.session.close server.service).1.toNat } }
    server.run (.sweep place :: .sweep place :: more) = swept.run more := by
  intro swept
  obtain ⟨inside, -⟩ := List.getElem?_eq_some_iff.1 turn
  obtain ⟨within, -⟩ := List.getElem?_eq_some_iff.1 here
  let closed : Server :=
    { server.alter found { guest with session := (guest.session.close server.service).2.1 } with
      service := (guest.session.close server.service).2.2
      resets := server.resets.set place
        { rest := found :: rest, isClosing := true,
          count := count + (guest.session.close server.service).1.toNat } }
  have first : server.step? (.sweep place) = some closed := by
    simp only [step?, sweep?, turn, here, Option.map_some]
    rfl
  have turned : closed.resets[place]? = some _ := List.getElem?_set_self inside
  have there : closed.guests[found]? = some _ := List.getElem?_set_self within
  have second : closed.step? (.sweep place) = some swept := by
    simp only [step?, sweep?, turned, there, Option.map_some]
    simp [closed, swept, alter]
  rw [run_cons, first, Option.bind_some, run_cons, second, Option.bind_some]

/-- A reset that nobody interrupts closes the sessions of workers one after another. -/
theorem run_sweeps {states : List WorkerState} {workers : List Worker} {count : Nat}
    (turn : server.resets[place]? = some { rest := states.filterMap WorkerState.guest?, count })
    (shown : workers.map some = states.map (WorkerState.worker? server.guests))
    (apart : (states.filterMap WorkerState.guest?).Nodup) :
    let closed := Host.resetWorkers server.service workers
    ∃ sweeps guests resets, server.run (List.replicate sweeps (.sweep place))
        = some { server with service := closed.2.2, guests, resets }
      ∧ closed.2.1.map some = states.map (WorkerState.worker? guests)
      ∧ resets[place]? = some { rest := [], count := count + closed.1 }
      ∧ ∀ other, other ∉ states.filterMap WorkerState.guest? → guests[other]? = server.guests[other]? := by
  induction states generalizing server workers count with
  | nil =>
    cases List.map_eq_nil_iff.1 shown
    exact ⟨0, server.guests, server.resets, rfl, rfl, turn, fun _ _ => rfl⟩
  | cons state rest ih =>
    cases workers with
    | nil => cases shown
    | cons worker others =>
      rw [List.map_cons, List.map_cons, List.cons.injEq] at shown
      obtain ⟨first, shown⟩ := shown
      cases state with
      | idle =>
        cases first
        obtain ⟨sweeps, guests, resets, ran, same, done, kept⟩ := ih turn shown apart
        exact ⟨sweeps, guests, resets, ran, congrArg (_ :: ·) same, done, kept⟩
      | taken ticket =>
        cases first
        obtain ⟨sweeps, guests, resets, ran, same, done, kept⟩ := ih turn shown apart
        exact ⟨sweeps, guests, resets, ran, congrArg (_ :: ·) same, done, kept⟩
      | opened ticket channels => cases first
      | hosting ticket found phase =>
        cases phase with
        | serving =>
          obtain ⟨guest, here, rfl⟩ := Option.map_eq_some_iff.1 first.symm
          obtain ⟨alone, apart⟩ := List.nodup_cons.1 apart
          let gone : Guest :=
            { guest with session := (guest.session.close server.service).2.1.silence }
          have elsewhere : ∀ now ∈ rest, now.worker? (server.guests.set found gone)
              = now.worker? server.guests := by
            refine fun now member => worker?_congr fun other hosts => List.getElem?_set_ne ?_
            rintro rfl
            exact alone (List.mem_filterMap.2 ⟨now, member, hosts⟩)
          have swept := run_sweep turn here
          obtain ⟨sweeps, guests, resets, ran, same, done, kept⟩ :=
            @ih { server with
              service := (guest.session.close server.service).2.2
              guests := server.guests.set found gone
              resets := server.resets.set place { rest := rest.filterMap WorkerState.guest?, count := _ } }
              others _ (getElem?_set_of_found turn _)
              (shown.trans (List.map_congr_left elsewhere).symm) apart
          have left : guests[found]? = some gone :=
            (kept found alone).trans (getElem?_set_of_found here _)
          refine ⟨sweeps + 2, guests, resets, (swept _).trans ran, ?_, ?_, fun other absent => ?_⟩
          · have now : (WorkerState.hosting ticket found .serving).worker? guests
              = some (.serving gone.visit) := congrArg (Option.map _) left
            rw [List.map_cons, now, ← same]
            rfl
          · rw [done, Nat.add_assoc, Nat.add_comm (Bool.toNat _)]
            rfl
          · obtain ⟨other_ne, absent⟩ := not_or.1 (List.mem_cons.not.1 absent)
            exact (kept other absent).trans (List.getElem?_set_ne (Ne.symm other_ne))
        | _ => cases first

theorem Seating.nodup_guests (seating : server.Seating) :
    (server.states.filterMap WorkerState.guest?).Nodup := by
  refine List.pairwise_filterMap.2 (List.pairwise_iff_getElem.2 ?_)
  intro first second inside within before place hosts other alike same
  subst same
  cases here : server.states[first] with
  | hosting ticket guest phase =>
    rw [here] at hosts
    cases hosts
    have found : server.states[first]? = some _ := here ▸ List.getElem?_eq_getElem inside
    exact Nat.ne_of_gt before
      (seating.slot_eq found (List.getElem?_eq_getElem within) alike)
  | _ =>
    rw [here] at hosts
    cases hosts

/-- Where a host would leave the workers, the slots show whom they look after. -/
theorem Shows.slots_eq (shows : server.Shows host none) (seating : server.Seating) :
    server.slots.filterMap id = server.states.filterMap WorkerState.guest? := by
  rw [seating.slots, List.filterMap_map]
  refine List.filterMap_congr fun state member => ?_
  obtain ⟨slot, here⟩ := List.getElem?_of_mem member
  have same := shows.workers slot nofun
  rw [here, Option.map_some] at same
  obtain ⟨worker, -, shown⟩ := Option.map_eq_some_iff.1 same
  cases state with
  | hosting ticket place phase =>
    cases phase with
    | serving => rfl
    | _ => cases shown
  | _ => rfl

/-- **A reset that nobody interrupts does what a host does at once,** and answers the same. -/
theorem shows_reset (sane : server.Sane) (shows : server.Shows host none) :
    ∃ sweeps after,
      server.run (.reset :: List.replicate sweeps (.sweep server.resets.length)) = some after
      ∧ after.Shows host.reset.2 none
      ∧ after.resets[server.resets.length]? = some { rest := [], count := host.reset.1 } := by
  let begun : Server := { server with
    resets := server.resets ++ [{ rest := server.states.filterMap WorkerState.guest? }] }
  have first : server.step? .reset = some begun := by
    rw [step?, shows.slots_eq sane.seating]
  obtain ⟨sweeps, guests, resets, ran, same, done, kept⟩ :=
    @run_sweeps begun server.resets.length server.states host.workers 0
      List.getElem?_concat_length shows.workers_eq sane.seating.nodup_guests
  have start (more : List Step) : server.run (.reset :: more) = begun.run more := by
    rw [run_cons, first, Option.bind_some]
  let closed := Host.resetWorkers server.service host.workers
  have reset : host.reset
      = (closed.1, { host with workers := closed.2.1, service := closed.2.2 }) := by
    rw [Host.reset, shows.service]
  refine ⟨sweeps, _, (start _).trans ran, ?_, ?_⟩
  · rw [reset]
    refine ⟨rfl, shows.maxKeys, shows.queue, shows.isAccepting, shows.attempts, shows.nextId,
      fun slot _ => ?_, ?_⟩
    · rw [← List.getElem?_map, ← List.getElem?_map]
      exact congrArg (·[slot]?) same
    · refine shows.departed.trans (List.map_congr_left fun place gone => ?_)
      rw [kept place fun hosted => ?_]
      obtain ⟨state, member, hosts⟩ := List.mem_filterMap.1 hosted
      exact sane.parted.alone place gone state member hosts
  · rw [reset]
    exact done.trans (by rw [Nat.zero_add])

end Server

/-! ## A whole run -/

namespace Host

/-- What can happen to a host as long as its queue has a bound. -/
inductive Turn
  | submit (request : ConnectRequest)
  | step (slot : Nat) (routes : Routes)
  | reset

/-- A turn; whoever submits a request waits until the queue has room for it. -/
def turn? (host : Host) : Turn → Option Host
  | .submit request =>
    if host.queue.length < host.capacity then (host.submit request).toOption else none
  | .step slot routes => some (host.step routes slot)
  | .reset => some host.reset.2

end Host

namespace Server

variable {server : Server} {host : Host}

theorem sane_ofService (service : Service) : (Server.ofService service).Sane :=
  ⟨seating_ofService service, nofun, nofun⟩

/-- Whatever a host does in a turn, a server that shows it can do. -/
theorem shows_turn (sane : server.Sane) (shows : server.Shows host none) {turn : Host.Turn}
    {next : Host} (turned : host.turn? turn = some next) :
    ∃ steps after, server.run steps = some after ∧ after.Shows next none := by
  cases turn with
  | submit request =>
    have alike : host.capacity = server.states.length := by
      simpa [Host.capacity] using congrArg List.length shows.workers_eq
    simp only [Host.turn?] at turned
    split at turned
    · next room =>
      rw [alike, shows.queue, List.length_map] at room
      obtain ⟨after, other, submitted, accepted, shown⟩ := shows_submit shows room request
      rw [accepted] at turned
      cases turned
      exact ⟨[.submit request], after, by rw [run_cons, submitted]; rfl, shown⟩
    · cases turned
  | step slot routes =>
    cases turned
    obtain ⟨count, after, ran, shown⟩ := shows_step sane shows routes slot
    exact ⟨_, after, ran, shown⟩
  | reset =>
    cases turned
    obtain ⟨sweeps, after, ran, shown, -⟩ := shows_reset sane shows
    exact ⟨_, after, ran, shown⟩

theorem shows_turns (sane : server.Sane) (shows : server.Shows host none) (turns : List Host.Turn)
    {last : Host} (came : turns.foldlM Host.turn? host = some last) :
    ∃ steps after, server.run steps = some after ∧ after.Shows last none := by
  induction turns generalizing server host with
  | nil =>
    cases came
    exact ⟨[], server, rfl, shows⟩
  | cons turn rest ih =>
    rw [List.foldlM_cons] at came
    obtain ⟨next, turned, came⟩ := Option.bind_eq_some_iff.1 came
    obtain ⟨steps, middle, ran, shown⟩ := shows_turn sane shows turned
    obtain ⟨more, after, onward, shown⟩ := ih (sane.run ran) shown came
    refine ⟨steps ++ more, after, ?_, shown⟩
    rw [run_append, ran]
    exact onward

/-- **Whatever a host comes to, a server comes to as well,** in steps that others could interrupt. -/
theorem shows_of_turns (service : Service) (turns : List Host.Turn)
    (came : turns.foldlM Host.turn? (Host.ofService service) = some host) :
    ∃ steps server, (ofService service).run steps = some server ∧ server.Shows host none :=
  shows_turns (sane_ofService service) (shows_ofService service) turns came

end Server

end KeyWatch
