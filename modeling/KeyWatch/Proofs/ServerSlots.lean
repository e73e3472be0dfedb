/-
# Proofs.ServerSlots -- requests, slots and the workers of a server

Every submitted request has a ticket. `Server.Flow` follows the tickets: the queue is what is left of
them, in their order, and the others are in the hands of workers or done. `Server.Seating` ties the
slots and the sessions that are not closed to the workers, and `Server.Numbered` the numbers of
clients to the order in which they were made. Each is kept by every step of a server, in whatever
order the steps come (`Flow.moves`, `Seating.moves`, `Numbered.moves`), and together they say where
everybody is (`Server.everybody_in_place`).
-/
import KeyWatch.Proofs.ServerSteps
import KeyWatch.Proofs.Places

namespace KeyWatch

set_option autoImplicit false

namespace Server

variable {server after : Server} {step : Step} {slot place : Nat} {ticket : Ticket} {old new : WorkerState}

/-! ## The way of the tickets -/

/-- The tickets for the requests that are submitted in a run, with numbers from `first` on. -/
def tickets (first : Nat) (steps : List Step) : List Ticket :=
  ((steps.filterMap Step.request?).zipIdx first).map fun (request, number) => ⟨number, request⟩

theorem tickets_cons (first : Nat) (step : Step) (rest : List Step) :
    tickets first (step :: rest)
      = tickets first [step] ++ tickets (first + step.request?.toList.length) rest := by
  unfold tickets
  cases asked : step.request? with
  | none => simp [asked]
  | some request => simp [asked, List.zipIdx_cons]

theorem tickets_of_quiet (quiet : step.request? = none) (first : Nat) :
    tickets first [step] = [] := by
  simp [tickets, quiet]

theorem map_number_tickets (first : Nat) (steps : List Step) :
    (tickets first steps).map Ticket.number = List.range' first (tickets first steps).length := by
  simp [tickets, Function.comp_def, List.zipIdx_map_snd]

theorem nodup_tickets (first : Nat) (steps : List Step) : (tickets first steps).Nodup := by
  refine List.Nodup.of_map Ticket.number ?_
  rw [map_number_tickets]
  exact List.nodup_range'

/-- Of the submitted tickets, the first ones are in hands or done, and the others wait in their
order. The guests are those whose worker is with them, and those that are gone. -/
structure Flow (submitted : List Ticket) (server : Server) : Prop where
  taken : ∃ taken, submitted = taken ++ server.queue ∧ taken.Perm (server.hands ++ server.done)
  guests : (server.guests.map Guest.ticket).Perm
    (server.states.filterMap WorkerState.hosted? ++ server.served)
  bounded : server.queue.length ≤ server.states.length

section Flow

open scoped List

variable {submitted : List Ticket}

theorem flow_ofService (service : Service) : (ofService service).Flow [] where
  taken := ⟨[], rfl, by simp [hands, done, ofService, WorkerState.ticket?]⟩
  guests := by simp [ofService, WorkerState.hosted?]
  bounded := Nat.zero_le _

/-- Nothing changes hands. -/
theorem hands_put_of_eq (state : server.states[slot]? = some old) (same : new.ticket? = old.ticket?) :
    (server.put slot new).hands = server.hands :=
  filterMap_set_of_eq state same

/-- A worker puts down the ticket that it has in its hands. -/
theorem hands_put_down (state : server.states[slot]? = some old) (held : old.ticket? = some ticket) :
    ticket :: (server.put slot .idle).hands ~ server.hands := by
  have picked := filterMap_set_perm state WorkerState.ticket? .idle
  rw [held] at picked
  exact picked

theorem Flow.take (flow : server.Flow submitted) {queue : List Ticket}
    (state : server.states[slot]? = some .idle) (first : server.queue = ticket :: queue) :
    Flow submitted { server.put slot (.taken ticket) with queue } where
  taken := by
    obtain ⟨taken, split, perm⟩ := flow.taken
    refine ⟨taken ++ [ticket], by rw [split, first, List.append_assoc]; rfl, ?_⟩
    have picked := filterMap_set_perm state WorkerState.ticket? (.taken ticket)
    calc taken ++ [ticket]
      _ ~ [ticket] ++ taken := List.perm_append_comm
      _ ~ [ticket] ++ (server.hands ++ server.done) := perm.append_left _
      _ = ([ticket] ++ server.hands) ++ server.done := (List.append_assoc ..).symm
      _ ~ (server.put slot (.taken ticket)).hands ++ server.done := picked.symm.append_right _
  guests := by
    have same : (server.put slot (.taken ticket)).states.filterMap WorkerState.hosted? = _ :=
      filterMap_set_of_eq state rfl
    rw [same]
    exact flow.guests
  bounded := by
    have bounded := flow.bounded
    rw [first] at bounded
    simpa [put] using Nat.le_of_succ_le bounded

/-- A request is done, with or without a guest. -/
theorem Flow.put_down (flow : server.Flow submitted) (state : server.states[slot]? = some old)
    (held : old.ticket? = some ticket) (refused served : List Ticket)
    (done : refused ++ served ~ ticket :: server.done)
    (guests : (server.guests.map Guest.ticket).Perm
      ((server.put slot .idle).states.filterMap WorkerState.hosted? ++ served)) :
    Flow submitted { server.put slot .idle with refused, served } where
  taken := by
    obtain ⟨taken, split, perm⟩ := flow.taken
    refine ⟨taken, split, ?_⟩
    calc taken
      _ ~ server.hands ++ server.done := perm
      _ ~ (ticket :: (server.put slot .idle).hands) ++ server.done :=
        (hands_put_down state held).symm.append_right _
      _ ~ (server.put slot .idle).hands ++ (ticket :: server.done) := List.perm_middle.symm
      _ ~ (server.put slot .idle).hands ++ (refused ++ served) := done.symm.append_left _
  guests := guests
  bounded := by simpa [put] using flow.bounded

theorem Flow.dismiss (flow : server.Flow submitted) (state : server.states[slot]? = some (.taken ticket)) :
    (server.dismiss slot ticket).Flow submitted := by
  refine flow.put_down state rfl (server.refused ++ [ticket]) server.served ?_ ?_
  · rw [List.append_assoc]
    exact List.perm_middle
  · have same : (server.put slot .idle).states.filterMap WorkerState.hosted? = _ :=
      filterMap_set_of_eq state rfl
    rw [same]
    exact flow.guests

theorem Flow.vacate (flow : server.Flow submitted) {phase : GuestPhase}
    (state : server.states[slot]? = some (.hosting ticket place phase)) :
    (server.vacate slot place ticket).Flow submitted := by
  have done : server.refused ++ (server.served ++ [ticket]) ~ ticket :: server.done := by
    rw [← List.append_assoc]
    exact List.perm_append_comm
  have picked := filterMap_set_perm state WorkerState.hosted? .idle
  have guests : server.guests.map Guest.ticket
      ~ (server.put slot .idle).states.filterMap WorkerState.hosted? ++ (server.served ++ [ticket]) :=
    calc server.guests.map Guest.ticket
      _ ~ server.states.filterMap WorkerState.hosted? ++ server.served := flow.guests
      _ ~ ([ticket] ++ (server.put slot .idle).states.filterMap WorkerState.hosted?) ++ server.served :=
        picked.symm.append_right _
      _ ~ (server.put slot .idle).states.filterMap WorkerState.hosted? ++ ([ticket] ++ server.served) :=
        List.perm_middle.symm
      _ ~ (server.put slot .idle).states.filterMap WorkerState.hosted? ++ (server.served ++ [ticket]) :=
        List.perm_append_comm.append_left _
  have gone := flow.put_down state rfl server.refused (server.served ++ [ticket]) done guests
  exact ⟨gone.taken, gone.guests, gone.bounded⟩

/-- A worker goes on with the same request. -/
theorem Flow.put (flow : server.Flow submitted) (state : server.states[slot]? = some old) (new : WorkerState)
    (same : new.ticket? = old.ticket?) (sameGuest : new.hosted? = old.hosted?) :
    (server.put slot new).Flow submitted where
  taken := by
    obtain ⟨taken, split, perm⟩ := flow.taken
    exact ⟨taken, split, (hands_put_of_eq state same).symm ▸ perm⟩
  guests := by
    have picked : (server.put slot new).states.filterMap WorkerState.hosted? = _ :=
      filterMap_set_of_eq state sameGuest
    rw [picked]
    exact flow.guests
  bounded := by simpa [Server.put] using flow.bounded

theorem Flow.register (flow : server.Flow submitted) {channels : Channels}
    (state : server.states[slot]? = some (.opened ticket channels)) :
    (server.register slot ticket channels).Flow submitted where
  taken := by
    obtain ⟨taken, split, perm⟩ := flow.taken
    have same : (server.register slot ticket channels).hands = server.hands :=
      filterMap_set_of_eq state rfl
    refine ⟨taken, split, ?_⟩
    rw [same]
    exact perm
  guests := by
    have picked := filterMap_set_perm state WorkerState.hosted? (.hosting ticket server.guests.length .named)
    show (server.guests ++ [_]).map Guest.ticket ~ _ ++ server.served
    rw [List.map_append]
    calc server.guests.map Guest.ticket ++ [ticket]
      _ ~ [ticket] ++ server.guests.map Guest.ticket := List.perm_append_comm
      _ ~ [ticket] ++ (server.states.filterMap WorkerState.hosted? ++ server.served) :=
        flow.guests.append_left _
      _ = ([ticket] ++ server.states.filterMap WorkerState.hosted?) ++ server.served :=
        (List.append_assoc ..).symm
      _ ~ _ ++ server.served := picked.symm.append_right _
  bounded := by simpa [Server.register, Server.put] using flow.bounded

/-- What becomes of a session changes no ticket. -/
theorem Flow.alter (flow : server.Flow submitted) {before guest : Guest}
    (found : server.guests[place]? = some before) (same : guest.ticket = before.ticket) :
    (server.alter place guest).Flow submitted where
  taken := flow.taken
  guests := by
    have kept : (server.alter place guest).guests.map Guest.ticket = _ := map_set_of_eq found same
    rw [kept]
    exact flow.guests
  bounded := flow.bounded

theorem Flow.moves (flow : server.Flow submitted) (moved : server.Moves step after) :
    after.Flow (submitted ++ tickets server.issued [step]) := by
  cases moved with
  | @submit request room =>
    obtain ⟨taken, split, perm⟩ := flow.taken
    refine ⟨⟨taken, ?_, perm⟩, flow.guests, ?_⟩
    · rw [split, List.append_assoc]
      rfl
    · rw [List.length_append]
      exact room
  | take state first =>
    rw [tickets_of_quiet rfl, List.append_nil]
    exact flow.take state first
  | refuse state =>
    rw [tickets_of_quiet rfl, List.append_nil]
    exact ⟨(flow.dismiss state).taken, (flow.dismiss state).guests, (flow.dismiss state).bounded⟩
  | @«open» _ _ _ channels state =>
    rw [tickets_of_quiet rfl, List.append_nil]
    have gone := flow.put state (.opened _ channels) rfl rfl
    exact ⟨gone.taken, gone.guests, gone.bounded⟩
  | register state =>
    rw [tickets_of_quiet rfl, List.append_nil]
    exact flow.register state
  | @carry _ slot place ticket _ _ _ phase _ quiet state found same =>
    rw [tickets_of_quiet quiet, List.append_nil]
    have gone := (flow.alter found same).put state (.hosting ticket place phase) rfl rfl
    exact ⟨gone.taken, gone.guests, gone.bounded⟩
  | @seat _ place _ ticket state =>
    rw [tickets_of_quiet rfl, List.append_nil]
    have gone := flow.put state (.hosting ticket place .seated) rfl rfl
    exact ⟨gone.taken, gone.guests, gone.bounded⟩
  | vacate state =>
    rw [tickets_of_quiet rfl, List.append_nil]
    exact flow.vacate state
  | alter quiet found same =>
    rw [tickets_of_quiet quiet, List.append_nil]
    have gone := flow.alter found same
    exact ⟨gone.taken, gone.guests, gone.bounded⟩
  | reset | elsewhere =>
    rw [tickets_of_quiet rfl, List.append_nil]
    exact ⟨flow.taken, flow.guests, flow.bounded⟩

theorem issued_of_moves (moved : server.Moves step after) :
    after.issued = server.issued + step.request?.toList.length := by
  cases moved with
  | carry quiet | alter quiet =>
    rw [quiet]
    rfl
  | _ => rfl

theorem Flow.run {steps : List Step} (flow : server.Flow submitted)
    (ran : server.run steps = some after) :
    after.Flow (submitted ++ tickets server.issued steps) := by
  induction steps generalizing server submitted with
  | nil =>
    cases ran
    rw [show tickets _ [] = [] from rfl, List.append_nil]
    exact flow
  | cons step rest ih =>
    rw [run_cons] at ran
    obtain ⟨next, taken, ran⟩ := Option.bind_eq_some_iff.1 ran
    have moved := moves_of_step? taken
    have later := ih (flow.moves moved) ran
    rw [issued_of_moves moved, List.append_assoc, ← tickets_cons] at later
    exact later

end Flow

/-! ## Slots and sessions -/

/-- A worker in a slot looks after a guest of its own, whose session has the number of the slot, and
is closed once the worker has closed it. -/
def Fits (server : Server) (slot : Nat) : WorkerState → Prop
  | .hosting ticket place phase => ∃ guest, server.guests[place]? = some guest
    ∧ guest.ticket = ticket ∧ guest.session.slot = slot
    ∧ (phase.isPast = true → guest.session.stage = .closed)
  | _ => True

/-- A slot holds the guest whom its worker has put there, and nobody's session is open but those of
guests with a worker. -/
structure Seating (server : Server) : Prop where
  slots : server.slots = server.states.map WorkerState.seat?
  fits : ∀ {slot : Nat} {state : WorkerState}, server.states[slot]? = some state → server.Fits slot state
  unclosed : ∀ {place : Nat} {guest : Guest}, server.guests[place]? = some guest →
    guest.session.stage ≠ .closed →
    ∃ (slot : Nat) (state : WorkerState), server.states[slot]? = some state ∧ state.guest? = some place

theorem seating_ofService (service : Service) : (ofService service).Seating where
  slots := by simp [ofService, WorkerState.seat?]
  fits := by
    intro slot state found
    cases List.eq_of_mem_replicate (List.mem_of_getElem? found)
    trivial
  unclosed := nofun

theorem Seating.put (seating : server.Seating) (state : server.states[slot]? = some old) (new : WorkerState)
    (slots : List (Option Nat)) (seats : slots = (server.states.set slot new).map WorkerState.seat?)
    (fits : server.Fits slot new)
    (kept : ∀ place, old.guest? = some place → new.guest? = some place ∨
      ∀ guest, server.guests[place]? = some guest → guest.session.stage = .closed) :
    Seating { server.put slot new with slots } where
  slots := seats
  fits := by
    intro other now found
    by_cases same : other = slot
    · subst same
      have here : (server.states.set other new)[other]? = some new :=
        getElem?_set_of_found state _
      cases here.symm.trans found
      exact fits
    · exact seating.fits ((List.getElem?_set_ne (Ne.symm same)).symm.trans found)
  unclosed := by
    intro place guest found isOpen
    obtain ⟨other, now, here, hosts⟩ := seating.unclosed found isOpen
    by_cases same : other = slot
    · subst same
      cases state.symm.trans here
      refine ⟨other, new, getElem?_set_of_found state _, ?_⟩
      exact (kept place hosts).resolve_right fun closed => isOpen (closed guest found)
    · exact ⟨other, now, (List.getElem?_set_ne (Ne.symm same)).trans here, hosts⟩

/-- A worker goes on without touching its slot. -/
theorem Seating.put_of_eq (seating : server.Seating) (state : server.states[slot]? = some old) (new : WorkerState)
    (same : new.seat? = old.seat?) (fits : server.Fits slot new)
    (kept : ∀ place, old.guest? = some place → new.guest? = some place) :
    (server.put slot new).Seating := by
  have seats := seating.slots.trans (map_set_of_eq state same).symm
  exact seating.put state new server.slots seats fits fun place hosts => .inl (kept place hosts)

theorem guest_alter_of_ne {other : Nat} (apart : other ≠ place) (guest : Guest) :
    (server.alter place guest).guests[other]? = server.guests[other]? :=
  List.getElem?_set_ne apart.symm

theorem guest_alter_self {before : Guest} (found : server.guests[place]? = some before)
    (guest : Guest) : (server.alter place guest).guests[place]? = some guest :=
  getElem?_set_of_found found _

theorem Seating.alter (seating : server.Seating) {before guest : Guest}
    (found : server.guests[place]? = some before) (same : guest.ticket = before.ticket)
    (later : before.session.Later guest.session) : (server.alter place guest).Seating where
  slots := seating.slots
  fits := by
    intro slot state here
    have fits := seating.fits here
    cases state with
    | hosting ticket other phase =>
      obtain ⟨host, there, named, placed, closed⟩ := fits
      by_cases ours : other = place
      · subst ours
        cases found.symm.trans there
        exact ⟨guest, guest_alter_self found guest, same.trans named, later.slot.trans placed,
          fun past => later.closed (closed past)⟩
      · exact ⟨host, (guest_alter_of_ne ours guest).trans there, named, placed, closed⟩
    | _ => trivial
  unclosed := by
    intro other host there isOpen
    by_cases ours : other = place
    · subst ours
      cases (guest_alter_self found guest).symm.trans there
      exact seating.unclosed found fun closed => isOpen (later.closed closed)
    · exact seating.unclosed ((guest_alter_of_ne ours guest).symm.trans there) isOpen

theorem Seating.carry (seating : server.Seating) {phase next : GuestPhase} {before guest : Guest}
    (state : server.states[slot]? = some (.hosting ticket place phase))
    (found : server.guests[place]? = some before) (same : guest.ticket = before.ticket)
    (later : before.session.Later guest.session) (seated : next.isSeated = phase.isSeated)
    (past : next.isPast = true → phase.isPast = true ∨ guest.session.stage = .closed) :
    (server.carry slot place ticket guest next).Seating := by
  have altered := seating.alter found same later
  refine altered.put_of_eq state _ ?_ ?_ fun _ hosts => hosts
  · rw [WorkerState.seat?, WorkerState.seat?, seated]
  · obtain ⟨host, there, named, placed, closed⟩ := altered.fits state
    cases (guest_alter_self found guest).symm.trans there
    exact ⟨guest, there, named, placed, fun last => (past last).elim closed id⟩

theorem Seating.seat (seating : server.Seating)
    (state : server.states[slot]? = some (.hosting ticket place .active)) :
    (server.seat slot place ticket).Seating := by
  obtain ⟨guest, there, named, placed, -⟩ := seating.fits state
  refine seating.put state (.hosting ticket place .seated) _ ?_ ⟨guest, there, named, placed, nofun⟩
    fun _ hosts => .inl hosts
  rw [seating.slots, List.map_set]
  rfl

/-- The slot is emptied only when its guest is closed. -/
theorem Seating.vacate (seating : server.Seating)
    (state : server.states[slot]? = some (.hosting ticket place .silent)) :
    (server.vacate slot place ticket).Seating := by
  obtain ⟨guest, there, -, -, closed⟩ := seating.fits state
  have gone := seating.put state .idle (server.slots.set slot none)
    (by rw [seating.slots, List.map_set]; rfl) trivial fun other hosts => .inr fun host found => by
      cases hosts
      cases there.symm.trans found
      exact closed rfl
  exact ⟨gone.slots, gone.fits, gone.unclosed⟩

theorem Seating.register (seating : server.Seating) {channels : Channels}
    (state : server.states[slot]? = some (.opened ticket channels)) :
    (server.register slot ticket channels).Seating where
  slots := by
    have same : (server.register slot ticket channels).states.map WorkerState.seat? = _ :=
      map_set_of_eq state rfl
    rw [same]
    exact seating.slots
  fits := by
    intro other now here
    by_cases ours : other = slot
    · subst ours
      have put : (server.register other ticket channels).states[other]? = some _ :=
        getElem?_set_of_found state _
      cases put.symm.trans here
      exact ⟨_, List.getElem?_concat_length, rfl, rfl, nofun⟩
    · have fits := seating.fits ((List.getElem?_set_ne (Ne.symm ours)).symm.trans here)
      cases now with
      | hosting _ place _ =>
        obtain ⟨host, there, known⟩ := fits
        exact ⟨host, (List.getElem?_append_left (List.getElem?_eq_some_iff.1 there).1).trans there,
          known⟩
      | _ => trivial
  unclosed := by
    intro place guest there isOpen
    have inside : place < server.guests.length + 1 := by
      simpa [Server.register] using (List.getElem?_eq_some_iff.1 there).1
    obtain earlier | rfl := Nat.lt_succ_iff_lt_or_eq.1 inside
    · have found := (List.getElem?_append_left earlier).symm.trans there
      obtain ⟨other, now, here, hosts⟩ := seating.unclosed found isOpen
      refine ⟨other, now, (List.getElem?_set_ne ?_).trans here, hosts⟩
      rintro rfl
      cases state.symm.trans here
      cases hosts
    · exact ⟨slot, _, getElem?_set_of_found state _, rfl⟩

theorem Seating.moves (seating : server.Seating) (moved : server.Moves step after) :
    after.Seating := by
  cases moved with
  | submit | reset | elsewhere => exact ⟨seating.slots, seating.fits, seating.unclosed⟩
  | @take _ _ ticket _ state =>
    have gone := seating.put_of_eq state (.taken ticket) rfl trivial nofun
    exact ⟨gone.slots, gone.fits, gone.unclosed⟩
  | refuse state =>
    have gone := seating.put_of_eq state .idle rfl trivial nofun
    exact ⟨gone.slots, gone.fits, gone.unclosed⟩
  | @«open» _ _ ticket channels state =>
    have gone := seating.put_of_eq state (.opened ticket channels) rfl trivial nofun
    exact ⟨gone.slots, gone.fits, gone.unclosed⟩
  | register state => exact seating.register state
  | carry _ state found same later seated past =>
    have gone := seating.carry state found same later seated past
    exact ⟨gone.slots, gone.fits, gone.unclosed⟩
  | seat state => exact seating.seat state
  | vacate state => exact seating.vacate state
  | alter _ found same later =>
    have gone := seating.alter found same later
    exact ⟨gone.slots, gone.fits, gone.unclosed⟩

/-! ## Numbers -/

/-- Guests are numbered from one on, in the order in which they were made, without a gap. -/
structure Numbered (server : Server) : Prop where
  ids : server.guests.map (·.session.id) = List.range' 1 server.guests.length
  next : server.nextId = server.guests.length + 1

theorem Numbered.alter (numbered : server.Numbered) {before guest : Guest}
    (found : server.guests[place]? = some before) (later : before.session.Later guest.session) :
    (server.alter place guest).Numbered where
  ids := by
    have same : (server.alter place guest).guests.map (·.session.id) = _ :=
      map_set_of_eq found later.id
    rw [same, numbered.ids]
    simp [Server.alter]
  next := by simpa [Server.alter] using numbered.next

theorem Numbered.moves (numbered : server.Numbered) (moved : server.Moves step after) :
    after.Numbered := by
  cases moved with
  | register =>
    refine ⟨?_, ?_⟩
    · show (server.guests ++ [_]).map _ = List.range' 1 (server.guests ++ [_]).length
      rw [List.map_append, numbered.ids, List.length_append, List.length_singleton,
        List.range'_1_concat, Nat.add_comm 1, ← numbered.next]
      rfl
    · show server.nextId + 1 = (server.guests ++ [_]).length + 1
      rw [numbered.next, List.length_append, List.length_singleton]
  | carry _ _ found _ later | alter _ found _ later =>
    have gone := numbered.alter found later
    exact ⟨gone.ids, gone.next⟩
  | _ => exact ⟨numbered.ids, numbered.next⟩

/-! ## Where everybody is -/

/-- The worker of a slot has a ticket in its hands. -/
def Holds (server : Server) (slot : Nat) (ticket : Ticket) : Prop :=
  ∃ state, server.states[slot]? = some state ∧ state.ticket? = some ticket

theorem mem_hands : ticket ∈ server.hands ↔ ∃ slot, server.Holds slot ticket := by
  rw [hands, List.mem_filterMap]
  constructor
  · rintro ⟨state, member, held⟩
    obtain ⟨slot, here⟩ := List.getElem?_of_mem member
    exact ⟨slot, state, here, held⟩
  · rintro ⟨slot, state, here, held⟩
    exact ⟨state, List.mem_of_getElem? here, held⟩

/-- What is submitted is somewhere, and nowhere else. -/
theorem Flow.nodup {submitted : List Ticket} (flow : server.Flow submitted)
    (distinct : submitted.Nodup) : (server.queue ++ (server.hands ++ server.done)).Nodup := by
  obtain ⟨taken, split, perm⟩ := flow.taken
  rw [split] at distinct
  exact (List.perm_append_comm.trans (perm.append_left _)).nodup distinct

theorem Flow.nodup_guests {submitted : List Ticket} (flow : server.Flow submitted)
    (distinct : submitted.Nodup) : (server.guests.map Guest.ticket).Nodup := by
  have hosted : (server.states.filterMap WorkerState.hosted?).Sublist server.hands :=
    filterMap_sublist_of_imp (fun state ticket held => by
      cases state with
      | hosting => exact held
      | _ => cases held) server.states
  have gone : server.served.Sublist server.done := List.sublist_append_right ..
  exact flow.guests.symm.nodup
    ((hosted.append gone).nodup (List.nodup_append.1 (flow.nodup distinct)).2.1)

/-- At most as many sessions are open as there are workers. -/
theorem Seating.unclosed_le (seating : server.Seating) :
    server.guests.countP (fun guest => decide (guest.session.stage ≠ .closed))
      ≤ server.states.length := by
  let isOpen (guest : Guest) : Bool := decide (guest.session.stage ≠ .closed)
  have hosted : server.guests.findIdxs isOpen ⊆ server.states.filterMap WorkerState.guest? := by
    intro place member
    obtain ⟨inside, unclosed⟩ := List.mem_findIdxs_iff_exists_getElem_pos.1 member
    obtain ⟨slot, state, here, hosts⟩ :=
      seating.unclosed (List.getElem?_eq_getElem inside) (of_decide_eq_true unclosed)
    exact List.mem_filterMap.2 ⟨state, List.mem_of_getElem? here, hosts⟩
  calc server.guests.countP isOpen
    _ = (server.guests.findIdxs isOpen).length := List.length_findIdxs.symm
    _ ≤ (server.states.filterMap WorkerState.guest?).length :=
      (List.subperm_of_subset List.nodup_findIdxs hosted).length_le
    _ ≤ server.states.length := List.length_filterMap_le ..

/-- A slot is occupied by the guest whom its worker has put there. -/
theorem Seating.occupied_iff (seating : server.Seating) :
    server.slots[slot]? = some (some place) ↔ ∃ (ticket : Ticket) (phase : GuestPhase),
      server.states[slot]? = some (.hosting ticket place phase) ∧ phase.isSeated = true := by
  rw [seating.slots, List.getElem?_map, Option.map_eq_some_iff]
  constructor
  · rintro ⟨state, here, seat⟩
    cases state with
    | hosting ticket guest phase =>
      cases seated : phase.isSeated with
      | true =>
        rw [WorkerState.seat?, if_pos seated] at seat
        cases seat
        exact ⟨ticket, phase, here, seated⟩
      | false =>
        rw [WorkerState.seat?, if_neg (by rw [seated]; decide)] at seat
        cases seat
    | _ => cases seat
  · rintro ⟨ticket, phase, here, seated⟩
    exact ⟨_, here, if_pos seated⟩

/-- Workers stay. -/
theorem length_states_of_moves (moved : server.Moves step after) :
    after.states.length = server.states.length := by
  cases moved <;>
    simp [put, dismiss, attempt, register, carry, alter, seat, vacate]

theorem length_states_of_run {steps : List Step} (ran : server.run steps = some after) :
    after.states.length = server.states.length :=
  @keeps_of_run server after (fun later => later.states.length = server.states.length)
    (fun moved same => (length_states_of_moves moved).trans same) steps ran rfl

/-- A request whose channels do not open is done, and costs nothing. -/
theorem work?_of_error {routes : Routes} (state : server.states[slot]? = some (.taken ticket))
    {fault : IoFault} (failed : routes.openAll ticket.request = .error fault) :
    server.step? (.work slot routes) = some ((server.attempt routes ticket).dismiss slot ticket) := by
  simp only [step?, work?, state, failed]

/-- **Everybody is in one place.** In whatever order requests come in, workers take the next one, open
its channels or fail to, make a session, welcome its client or fail to, and serve it, and resets
close sessions meanwhile: every submitted request waits in the queue, which keeps the order in which
they came, or one worker has it in its hands, or it is done, once, and no request has two sessions.
A slot is occupied just as long as its worker looks after a guest whom it has put there, and the
session in the slot is the one of that guest and has the number of the slot. At most as many
sessions are open as there are slots. The sessions are numbered in the order in which they were
made, from one on and without a gap; a request whose channels do not open takes no number. -/
theorem everybody_in_place (service : Service) {past : List Step}
    (reached : (ofService service).run past = some server) :
    let capacity := max 1 service.store.settings.maxSessions
    let submitted := tickets 0 past
    server.states.length = capacity ∧ server.slots.length = capacity
      ∧ server.queue.length ≤ capacity
      ∧ (∃ taken, submitted = taken ++ server.queue ∧ taken.Perm (server.hands ++ server.done))
      ∧ (∀ ticket ∈ submitted,
          (ticket ∈ server.queue ∧ (∀ slot, ¬ server.Holds slot ticket) ∧ ticket ∉ server.done)
          ∨ (ticket ∉ server.queue ∧ (∃! slot, server.Holds slot ticket) ∧ ticket ∉ server.done)
          ∨ (ticket ∉ server.queue ∧ (∀ slot, ¬ server.Holds slot ticket) ∧ ticket ∈ server.done))
      ∧ server.done.Nodup ∧ (server.guests.map Guest.ticket).Nodup
      ∧ (∀ (slot place : Nat), server.slots[slot]? = some (some place) ↔
          ∃ (ticket : Ticket) (phase : GuestPhase), server.states[slot]? = some (.hosting ticket place phase)
            ∧ phase.isSeated = true)
      ∧ (∀ (slot place : Nat), server.slots[slot]? = some (some place) →
          ∃ guest : Guest, server.guests[place]? = some guest ∧ guest.session.slot = slot
            ∧ server.Holds slot guest.ticket)
      ∧ server.guests.countP (fun guest => decide (guest.session.stage ≠ .closed)) ≤ capacity
      ∧ server.guests.map (·.session.id) = List.range' 1 server.guests.length
      ∧ server.nextId = server.guests.length + 1
      ∧ (∀ (slot : Nat) (routes : Routes) (ticket : Ticket) (fault : IoFault),
          server.states[slot]? = some (.taken ticket) →
          routes.openAll ticket.request = .error fault →
          ∃ after, server.step? (.work slot routes) = some after ∧ ticket ∈ after.done
            ∧ after.states[slot]? = some .idle ∧ after.slots = server.slots
            ∧ after.guests = server.guests ∧ after.nextId = server.nextId) := by
  intro capacity submitted
  have flow : server.Flow submitted := (flow_ofService service).run reached
  have seating : server.Seating :=
    keeps_of_run (fun moved kept => Seating.moves kept moved) reached (seating_ofService service)
  have numbered : server.Numbered :=
    keeps_of_run (fun moved kept => Numbered.moves kept moved) reached ⟨rfl, rfl⟩
  have states : server.states.length = capacity :=
    (length_states_of_run reached).trans List.length_replicate
  have distinct := flow.nodup (nodup_tickets 0 past)
  obtain ⟨-, once, waits⟩ := List.nodup_append.1 distinct
  obtain ⟨handled, finished, apart⟩ := List.nodup_append.1 once
  refine ⟨states, ?_, states ▸ flow.bounded, flow.taken, fun ticket issued => ?_, finished,
    flow.nodup_guests (nodup_tickets 0 past), fun slot place => ?_, fun slot place occupied => ?_,
    states ▸ seating.unclosed_le, numbered.ids, numbered.next,
    fun slot routes ticket fault state failed => ?_⟩
  · rw [seating.slots, List.length_map, states]
  · have free (held : ticket ∉ server.hands) (slot : Nat) : ¬ server.Holds slot ticket :=
      fun holds => held (mem_hands.2 ⟨slot, holds⟩)
    obtain ⟨taken, split, perm⟩ := flow.taken
    rw [split, List.mem_append, perm.mem_iff, List.mem_append] at issued
    obtain (held | done) | queued := issued
    · obtain ⟨slot, holds⟩ := mem_hands.1 held
      refine .inr (.inl ⟨fun queued => waits _ queued _ (List.mem_append_left _ held) rfl,
        ⟨slot, holds, fun other alike => ?_⟩, fun done => apart _ held _ done rfl⟩)
      obtain ⟨_, here, named⟩ := holds
      obtain ⟨_, there, alike⟩ := alike
      exact index_eq_of_nodup_filterMap handled there here alike named
    · exact .inr (.inr ⟨fun queued => waits _ queued _ (List.mem_append_right _ done) rfl,
        free fun held => apart _ held _ done rfl, done⟩)
    · exact .inl ⟨queued, free fun held => waits _ queued _ (List.mem_append_left _ held) rfl,
        fun done => waits _ queued _ (List.mem_append_right _ done) rfl⟩
  · exact seating.occupied_iff
  · obtain ⟨ticket, phase, here, -⟩ := seating.occupied_iff.1 occupied
    obtain ⟨guest, there, named, placed, -⟩ := seating.fits here
    exact ⟨guest, there, placed, _, here, congrArg some named.symm⟩
  · refine ⟨_, work?_of_error state failed, ?_, ?_, rfl, rfl, rfl⟩
    · exact List.mem_append_left _ (List.mem_append_right _ (List.mem_singleton_self ticket))
    · exact getElem?_set_of_found state _

/-- One slot, a client whose channels do not open, a client that a reset closes before its welcome,
and one that waits. -/
theorem everybody_in_place_during_reset :
    let request (name : String) : ConnectRequest := ⟨name, name, name⟩
    let shut : Routes := ⟨fun _ _ => .error (.system .noEntry), fun _ _ => .ok {}, fun _ _ => .ok {}⟩
    let wide : Routes := ⟨fun _ _ => .ok {}, fun _ _ => .ok {}, fun _ _ => .ok {}⟩
    ∃ server, (ofService { store := { settings := { maxSessions := 0 } } }).run
        [.submit (request "a"), .work 0 shut, .submit (request "b"), .work 0 shut, .work 0 wide,
          .work 0 wide, .submit (request "c"), .work 0 wide, .work 0 wide, .work 0 wide, .reset,
          .sweep 0, .work 0 wide] = some server
      ∧ server.queue = [⟨2, request "c"⟩] ∧ server.hands = [⟨1, request "b"⟩]
      ∧ server.done = [⟨0, request "a"⟩] ∧ server.guests.map (·.session.id) = [1]
      ∧ ∃ guest, server.guests[0]? = some guest ∧ guest.session.slot = 0
        ∧ server.Holds 0 guest.ticket := by
  intro request shut wide
  have reached : (ofService { store := { settings := { maxSessions := 0 } } }).run
    [.submit (request "a"), .work 0 shut, .submit (request "b"), .work 0 shut, .work 0 wide,
      .work 0 wide, .submit (request "c"), .work 0 wide, .work 0 wide, .work 0 wide, .reset,
      .sweep 0, .work 0 wide] = some _ := rfl
  obtain ⟨-, -, -, -, -, -, -, -, seated, -, numbered, -⟩ := everybody_in_place _ reached
  exact ⟨_, reached, rfl, rfl, rfl, numbered, seated 0 0 rfl⟩

end Server

end KeyWatch
