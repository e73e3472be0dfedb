/-
# Proofs.ServiceUsers -- a host, the sessions around it, and everybody else

Sessions come and go. Some are served by the workers of a host, some are over, and some are run by
whoever connected them; others write, delete, watch and end the table in between. `ServiceUsers` is all
of them over one service. What anybody does in one step is made of turns of single sessions
(`Session.turn`), of sessions that are connected, and of events on the service, and each of these
leads from sessions in order to sessions in order (`Clientele.Leads`), as long as no number is used
twice.

What is in order can be left without a trace: a session that is closed, and all that are reset,
take their records and their channels with them and nothing else (`ServiceUsers.close_and_reset`).
-/
import KeyWatch.Proofs.SessionClose

namespace KeyWatch

set_option autoImplicit false

/-- Whoever begins to watch in this event is one of some strangers. -/
def Event.Outside (strangers : Set ClientId) : Event → Prop
  | .action (.watch _ watcher) => watcher.client ∈ strangers
  | _ => True

namespace Session

/-- A turn of the session itself, or an event that is not of any session. -/
def Turn.Outside (strangers : Set ClientId) : Turn → Prop
  | .event outer => outer.Outside strangers
  | _ => True

variable {session : Session} {service : Service}

/-- A session that answers, or falls silent, lists what it listed. -/
theorem moved_of_answering (orderly : service.store.Orderly) (mirrors : session.Mirrors service.store)
    (responses : Sink) (isAnswering : Bool) :
    session.Moved service ({ session with responses, isAnswering }, service) :=
  ⟨orderly, rfl, rfl, ⟨mirrors.distinct, mirrors.within, mirrors.listed⟩, fun _ _ _ => Iff.rfl⟩

/-- **Every turn of a session keeps its list without a gap,** unless it is an event. -/
theorem moved_turn (orderly : service.store.Orderly) (mirrors : session.Mirrors service.store)
    {turn : Turn} (own : ∀ event, turn ≠ .event event) :
    session.Moved service (session.turn service turn) := by
  cases turn with
  | move move => exact moved_move orderly mirrors move
  | respond response =>
    obtain ⟨responses, same⟩ := session.respond_frame response
    show session.Moved service ((session.respond response).2, service)
    rw [same]
    exact moved_of_answering orderly mirrors responses session.isAnswering
  | silence => exact moved_of_answering orderly mirrors session.responses false
  | event event => exact absurd rfl (own event)

end Session

/-- **An event adds no record but a stranger's.** -/
theorem Service.carries_of_undergo {service : Service} (orderly : service.store.Orderly)
    {strangers : Set ClientId} {event : Event} (outside : event.Outside strangers) {key : String}
    {client : ClientId} (known : client ∉ strangers)
    (carries : (service.undergo event).store.Carries key client) :
    service.store.Carries key client := by
  cases event with
  | action action =>
    refine Service.carries_of_act orderly action key client ?_ carries
    rintro other watcher rfl same
    exact known (same ▸ outside)
  | _ => exact carries

theorem Service.orderly_undergo {service : Service} (orderly : service.store.Orderly)
    (event : Event) : (service.undergo event).store.Orderly := by
  cases event with
  | action action => exact Service.orderly_act orderly action
  | _ => exact orderly

/-! ## From order to order -/

namespace Clientele

variable {strangers : Set ClientId}

/-- Every session is in order, and every record is of one of them or of a stranger. -/
structure InOrder (strangers : Set ClientId) (clientele : Clientele) : Prop where
  orderly : clientele.service.store.Orderly
  sessions : ∀ session ∈ clientele.sessions, session.InOrder clientele.service
  records : ∀ key client, clientele.service.store.Carries key client →
    client ∈ clientele.ids ∨ client ∈ strangers

/-- No two sessions have the same number, and no stranger has the number of a session. -/
structure Apart (strangers : Set ClientId) (clientele : Clientele) : Prop where
  distinct : clientele.ids.Nodup
  foreign : ∀ id ∈ clientele.ids, id ∉ strangers

/-- **A way on:** no session is lost, and they are still in order unless a number was used twice. -/
structure Leads (strangers : Set ClientId) (before after : Clientele) : Prop where
  ids : before.ids.Subperm after.ids
  inOrder : after.Apart strangers → before.InOrder strangers → after.InOrder strangers

theorem Apart.before {before after : Clientele} (apart : after.Apart strangers)
    (ids : before.ids.Subperm after.ids) : before.Apart strangers := by
  obtain ⟨some, same, sublist⟩ := id ids
  exact ⟨same.nodup_iff.1 (apart.distinct.sublist sublist), fun id member =>
    apart.foreign id (ids.subset member)⟩

namespace Leads

variable {before middle after : Clientele}

theorem refl (clientele : Clientele) : Leads strangers clientele clientele :=
  ⟨.refl _, fun _ inOrder => inOrder⟩

theorem trans (first : Leads strangers before middle) (second : Leads strangers middle after) :
    Leads strangers before after :=
  ⟨first.ids.trans second.ids, fun apart inOrder =>
    second.inOrder apart (first.inOrder (apart.before second.ids) inOrder)⟩

variable {service next : Service} {sessions others rest : List Session} {session : Session}

theorem of_eq (same : after = before) : Leads strangers before after := by
  rw [same]
  exact refl before

/-- The order of sessions does not matter. -/
theorem of_perm (perm : sessions.Perm others) :
    Leads strangers ⟨service, sessions⟩ ⟨service, others⟩ where
  ids := (perm.map _).subperm
  inOrder := fun _ inOrder =>
    ⟨inOrder.orderly, fun session member => inOrder.sessions session (perm.mem_iff.2 member),
      fun key client carries => (inOrder.records key client carries).imp_left
        (perm.map _).mem_iff.1⟩

/-- Nor does what is neither store nor channel. -/
theorem of_same (store : next.store = service.store) (exchange : next.exchange = service.exchange) :
    Leads strangers ⟨service, sessions⟩ ⟨next, sessions⟩ where
  ids := .refl _
  inOrder := by
    rintro - ⟨orderly, inOrder, records⟩
    refine ⟨?_, fun session member => (inOrder session member).elsewhere ?_ ?_, ?_⟩
    · show next.store.Orderly
      rw [store]
      exact orderly
    · intro key carries
      exact store ▸ carries
    · intro id law _ holds
      exact exchange ▸ holds
    · intro key client carries
      exact records key client (store ▸ carries)

theorem event {event : Event} (outside : event.Outside strangers) :
    Leads strangers ⟨service, sessions⟩ ⟨service.undergo event, sessions⟩ where
  ids := .refl _
  inOrder := by
    rintro apart ⟨orderly, inOrder, records⟩
    refine ⟨Service.orderly_undergo orderly event, fun session member =>
      (inOrder session member).elsewhere (fun key => ?_)
        (fun stable holds => Exchange.holds_undergo stable holds event), fun key client carries => ?_⟩
    · exact Service.carries_of_undergo orderly outside
        (apart.foreign session.id (List.mem_map_of_mem member))
    · by_cases foreign : client ∈ strangers
      · exact .inr foreign
      · exact records key client (Service.carries_of_undergo orderly outside foreign carries)

/-- **A turn of one session leaves the others in order,** as it touches no record but its own. -/
theorem turn (turn : Session.Turn) (outside : turn.Outside strangers) :
    Leads strangers ⟨service, session :: rest⟩
      ⟨(session.turn service turn).2, (session.turn service turn).1 :: rest⟩ := by
  by_cases foreign : ∃ event, turn = .event event
  · obtain ⟨event, rfl⟩ := foreign
    exact Leads.event outside
  · have turned := session.turned_turn service turn
    have same : (session.turn service turn).1.id = session.id :=
      congrArg Watcher.client turned.watcher
    refine ⟨?_, ?_⟩
    · show (session.id :: _).Subperm ((session.turn service turn).1.id :: _)
      rw [same]
    · rintro apart ⟨orderly, inOrder, records⟩
      obtain ⟨first, others⟩ := List.forall_mem_cons.1 inOrder
      have moved := Session.moved_turn orderly first.mirrors (not_exists.1 foreign)
      have unlike : ∀ other ∈ rest, other.id ≠ session.id := fun other member equal =>
        (List.nodup_cons.1 apart.distinct).1 (List.mem_map.2 ⟨other, member, equal.trans same.symm⟩)
      refine ⟨moved.orderly, List.forall_mem_cons.2 ⟨⟨moved.mirrors, turned.sound first.sound⟩,
        fun other member => (others other member).elsewhere
          (fun key => (moved.others key other.id (unlike other member)).1) turned.stable⟩, ?_⟩
      intro key client carries
      show client ∈ (session.turn service turn).1.id :: _ ∨ _
      rw [same]
      by_cases ours : client = session.id
      · exact .inl (ours ▸ List.mem_cons_self)
      · exact records key client ((moved.others key client ours).1 carries)

/-- **A session that is connected is in order,** as nobody had its number before. -/
theorem connect (id : ClientId) (slot maxKeys : Nat) (notifications responses : Sink) :
    Leads strangers ⟨service, sessions⟩
      ⟨(Session.connect service id slot maxKeys notifications responses).2,
        (Session.connect service id slot maxKeys notifications responses).1 :: sessions⟩ where
  ids := (List.sublist_cons_self _ _).subperm
  inOrder := by
    rintro apart ⟨orderly, inOrder, records⟩
    have unknown : ∀ key, ¬ service.store.Carries key id := fun key carries =>
      (records key id carries).elim (List.nodup_cons.1 apart.distinct).1
        (apart.foreign id List.mem_cons_self)
    refine ⟨orderly, List.forall_mem_cons.2 ⟨⟨Session.mirrors_connecting _ rfl unknown,
      Session.sound_connect service id slot maxKeys notifications responses⟩,
      fun other member => (inOrder other member).elsewhere (fun _ carries => carries)
        fun _ holds => Exchange.holds_openChannel holds id notifications⟩, ?_⟩
    intro key client carries
    exact (records key client carries).imp_left (List.mem_cons_of_mem _)

/-! ### What clients ask for -/

theorem handle (request : Request) :
    Leads strangers ⟨service, session :: rest⟩
      ⟨(session.handle service request).2.2, (session.handle service request).2.1 :: rest⟩ := by
  unfold Session.handle
  split
  · exact refl _
  · cases request with
    | disconnect =>
      exact ((turn (.move .startLeaving) trivial).trans (turn (.move .close) trivial)).trans
        (turn (.respond .farewell) trivial)
    | subscribe key => exact (turn (.move (.subscribe key)) trivial).trans (turn (.respond _) trivial)
    | unsubscribe key =>
      exact (turn (.move (.unsubscribe key)) trivial).trans (turn (.respond _) trivial)

theorem serve (bytes : Bytes) :
    Leads strangers ⟨service, session :: rest⟩
      ⟨(session.serve service bytes).service, (session.serve service bytes).session :: rest⟩ := by
  fun_induction Session.serve session service bytes with
  | case1 => exact refl _
  | case2 => exact refl _
  | case3 session service bytes request unread reading next after handled ih =>
    have once : Leads strangers ⟨service, session :: rest⟩ _ := handle request
    rw [handled] at once
    exact once.trans ih
  | case4 session service bytes request unread reading next after handled =>
    have once : Leads strangers ⟨service, session :: rest⟩ _ := handle request
    rw [handled] at once
    exact once

theorem dismiss :
    Leads strangers ⟨service, session :: rest⟩
      ⟨(session.close service).2.2, (session.close service).2.1.silence :: rest⟩ :=
  (turn (.move .close) trivial).trans (turn .silence trivial)

end Leads

end Clientele

/-! ## Hosts -/

/-- The session that a worker serves. -/
def Worker.session? (worker : Worker) : Option Session := (Host.visit? worker).map (·.session)

namespace Host

variable {strangers : Set ClientId} {host : Host} {others : List Session}

/-- The sessions that a host serves and those that are over, and others over the same service. -/
def clientele (host : Host) (others : List Session) : Clientele :=
  ⟨host.service,
    host.workers.filterMap Worker.session? ++ host.departed.map (·.session) ++ others⟩

/-- **A worker deals with sessions in hand:** it comes out with one that it serves from now on, or with
none, and lets the rest go. -/
structure Deals (strangers : Set ClientId) (host : Host) (hands : List Session)
    (dealt : Option Visit × Host) : Prop where
  workers : dealt.2.workers = host.workers
  leads : ∃ gone, dealt.2.departed.map (·.session) = host.departed.map (·.session) ++ gone
    ∧ ∀ rest, Clientele.Leads strangers ⟨host.service, hands ++ rest⟩
        ⟨dealt.2.service, (dealt.1.map (·.session)).toList ++ gone ++ rest⟩

theorem Deals.later {middle : Host} {hands held : List Session} {dealt : Option Visit × Host}
    (deals : middle.Deals strangers held dealt)
    (first : ∀ rest, Clientele.Leads strangers ⟨host.service, hands ++ rest⟩
      ⟨middle.service, held ++ rest⟩)
    (workers : middle.workers = host.workers) (departed : middle.departed = host.departed) :
    host.Deals strangers hands dealt := by
  obtain ⟨same, gone, past, leads⟩ := deals
  exact ⟨same.trans workers, gone, departed ▸ past, fun rest => (first rest).trans (leads rest)⟩

theorem deals_keep (host : Host) (visit : Visit) :
    host.Deals strangers [visit.session] (some visit, host) :=
  ⟨rfl, [], (List.append_nil _).symm, fun _ => .refl _⟩

theorem deals_depart (host : Host) (visit : Visit) :
    host.Deals strangers [visit.session] (none, host.depart visit) :=
  ⟨rfl, [(visit.session.close host.service).2.1.silence], List.map_append, fun _ => .dismiss⟩

theorem deals_attend (host : Host) (visit : Visit) :
    host.Deals strangers [visit.session] (host.attend visit) := by
  unfold attend
  split
  · exact host.deals_depart visit
  · dsimp only
    split
    · exact (deals_keep _ _).later (fun _ => .serve visit.requests.bytes) rfl rfl
    · exact (deals_depart _ _).later (fun _ => .serve visit.requests.bytes) rfl rfl

theorem deals_welcome (host : Host) (routes : Routes) (slot : Nat) (request : ConnectRequest) :
    host.Deals strangers [] (host.welcome routes slot request) := by
  unfold welcome
  dsimp only
  cases routes.openAll request with
  | error fault => exact ⟨rfl, [], (List.append_nil _).symm, fun _ => .refl _⟩
  | ok channels =>
    dsimp only
    have taken (rest : List Session) : Clientele.Leads strangers ⟨host.service, [] ++ rest⟩ _ :=
      ((Clientele.Leads.connect host.nextId slot host.maxKeys channels.notifications
        channels.responses).trans (.turn (.move .activate) trivial)).trans
          (.turn (.respond .welcome) trivial)
    split
    · exact (deals_keep _ _).later taken rfl rfl
    · exact (deals_depart _ _).later taken rfl rfl

/-! ### Who is where -/

variable {slot : Nat} {old : Worker}

theorem perm_others (host : Host) {session : Session} {fewer : List Session}
    (perm : others.Perm (session :: fewer)) :
    (host.clientele others).sessions.Perm (session :: (host.clientele fewer).sessions) :=
  (perm.append_left _).trans List.perm_middle

/-- The sessions that the workers serve except the one at a place, those that are over, and others. -/
def besides (host : Host) (slot : Nat) (others : List Session) : List Session :=
  (host.workers.eraseIdx slot).filterMap Worker.session?
    ++ (host.departed.map (·.session) ++ others)

theorem perm_set (there : host.workers[slot]? = some old) (service : Service) (new : Worker)
    (others : List Session) :
    ({ host with service, workers := host.workers.set slot new }.clientele others).sessions.Perm
      (new.session?.toList ++ host.besides slot others) := by
  have inside := (List.getElem?_eq_some_iff.1 there).1
  have workers := (List.set_perm_cons_eraseIdx inside new).filterMap Worker.session?
  rw [List.filterMap_cons] at workers
  have all := workers.append_right (host.departed.map (·.session) ++ others)
  rw [← List.append_assoc] at all
  cases served : new.session? with
  | none =>
    rw [served] at all
    exact all
  | some session =>
    rw [served] at all
    exact all

theorem perm_clientele (there : host.workers[slot]? = some old) (others : List Session) :
    (host.clientele others).sessions.Perm (old.session?.toList ++ host.besides slot others) := by
  have same : host.workers.set slot old = host.workers := by
    obtain ⟨inside, rfl⟩ := List.getElem?_eq_some_iff.1 there
    exact List.set_getElem_self inside
  have perm := perm_set there host.service old others
  rwa [same] at perm

theorem perm_besides {session : Session} {fewer : List Session}
    (perm : others.Perm (session :: fewer)) (host : Host) (slot : Nat) :
    (host.besides slot others).Perm (session :: host.besides slot fewer) := by
  unfold besides
  rw [← List.append_assoc, ← List.append_assoc]
  exact (perm.append_left _).trans List.perm_middle

/-- **What a worker does is a way on for the whole host.** -/
theorem leads_deals {dealt : Option Visit × Host} (there : host.workers[slot]? = some old)
    (deals : host.Deals strangers old.session?.toList dealt) :
    Clientele.Leads strangers (host.clientele others)
      ({ dealt.2 with workers := dealt.2.workers.set slot (afterwards dealt.1) }.clientele others) := by
  obtain ⟨same, gone, past, leads⟩ := deals
  have seen : (afterwards dealt.1).session? = dealt.1.map (·.session) := by
    cases dealt.1 <;> rfl
  have set := perm_set (same ▸ there) dealt.2.service (afterwards dealt.1) others
  refine ((Clientele.Leads.of_perm (perm_clientele there others)).trans (leads _)).trans
    (.of_perm (.trans ?_ set.symm))
  rw [seen, besides, besides, same, past, List.append_assoc, List.append_assoc]
  -- those that are let go stand behind the departed
  refine List.Perm.append_left _ ((List.perm_append_comm_assoc gone _ _).trans ?_)
  exact (List.perm_append_comm_assoc gone _ others).append_left _

theorem leads_step (host : Host) (others : List Session) (routes : Routes) (slot : Nat) :
    Clientele.Leads strangers (host.clientele others) ((host.step routes slot).clientele others) := by
  unfold step
  cases there : host.workers[slot]? with
  | none => exact .refl _
  | some worker =>
    cases worker with
    | idle =>
      dsimp only
      cases host.queue with
      | nil => exact .refl _
      | cons request queue =>
        exact .of_perm ((perm_clientele there others).trans
          (perm_set there host.service (.admitting request) others).symm)
    | admitting request =>
      exact leads_deals there (host.deals_welcome routes slot request)
    | serving visit => exact leads_deals there (host.deals_attend visit)

theorem leads_resetWorkers (service : Service) (workers : List Worker) (rest : List Session) :
    Clientele.Leads strangers ⟨service, workers.filterMap Worker.session? ++ rest⟩
      ⟨(resetWorkers service workers).2.2,
        (resetWorkers service workers).2.1.filterMap Worker.session? ++ rest⟩ := by
  induction workers generalizing service rest with
  | nil => exact .refl _
  | cons worker workers ih =>
    cases worker with
    | idle => exact ih service rest
    | admitting request => exact ih service rest
    | serving visit =>
      -- the session that is closed waits behind the others
      have first : Clientele.Leads strangers ⟨service,
          visit.session :: (workers.filterMap Worker.session? ++ rest)⟩ _ := .dismiss
      exact (first.trans (.of_perm List.perm_middle.symm)).trans
        ((ih _ _).trans (.of_perm List.perm_middle))

theorem leads_reset (host : Host) (others : List Session) :
    Clientele.Leads strangers (host.clientele others) (host.reset.2.clientele others) := by
  have done : Clientele.Leads strangers _ _ :=
    leads_resetWorkers host.service host.workers (host.departed.map (·.session) ++ others)
  rw [← List.append_assoc, ← List.append_assoc] at done
  exact done

theorem clientele_submit {request : ConnectRequest} {after : Host} (others : List Session)
    (accepted : host.submit request = .ok after) :
    after.clientele others = host.clientele others := by
  unfold submit at accepted
  split at accepted
  · cases accepted
    rfl
  · cases accepted

theorem leads_takeRegistrations (host : Host) (others : List Session) (ending : IoFault)
    (bytes : Bytes) : Clientele.Leads strangers (host.clientele others)
      ((host.takeRegistrations ending bytes).2.clientele others) := by
  fun_induction takeRegistrations host ending bytes with
  | case1 => exact .refl _
  | case2 => exact .refl _
  | case3 host bytes long fault malformed warned ih =>
    have warns : Clientele.Leads strangers (host.clientele others) (warned.clientele others) :=
      .of_same rfl rfl
    exact warns.trans ih
  | case4 => exact .refl _
  | case5 host bytes long request valid after accepted ih =>
    exact (Clientele.Leads.of_eq (clientele_submit others accepted)).trans ih

theorem clientele_modifyVisit (host : Host) (others : List Session) (id : ClientId)
    (change : Inbox → Inbox) :
    (host.modifyVisit id fun visit => { visit with requests := change visit.requests }).clientele
      others = host.clientele others := by
  have still : ∀ visit : Visit, (if visit.session.id = id then
      { visit with requests := change visit.requests } else visit).session = visit.session := by
    intro visit
    split <;> rfl
  unfold clientele modifyVisit
  rw [List.filterMap_map, List.map_map]
  refine congrArg (Clientele.mk host.service) (congrArg (· ++ others) (congr (congrArg _ ?_) ?_))
  · refine List.filterMap_congr fun worker _ => ?_
    cases worker with
    | serving visit => exact congrArg some (still visit)
    | _ => rfl
  · exact List.map_congr_left fun visit _ => still visit

end Host

/-! ## Users of a service -/

/-- A host, and sessions over its service that no worker serves. -/
structure ServiceUsers where
  host : Host
  elsewhere : List Session := []

namespace ServiceUsers

/-- What anybody may do. -/
inductive Step
  | submit (request : ConnectRequest)
  | register (ending : IoFault) (bytes : Bytes)
  | shutdown
  | work (routes : Routes) (slot : Nat)
  | reset
  /-- The request channel of a session changes. -/
  | arrive (id : ClientId) (change : Inbox → Inbox)
  /-- A session is made by others. -/
  | connect (id : ClientId) (slot maxKeys : Nat) (notifications responses : Sink)
  /-- Such a session takes the place of a worker that serves nobody. -/
  | seat (slot place : Nat) (request : ConnectRequest) (requests : Inbox)
  /-- A session is served no more, whatever its stage. -/
  | vacate (slot : Nat)
  /-- A session that is being served takes a turn, beside what its worker does. -/
  | served (slot : Nat) (turn : Session.Turn)
  /-- A session that is not being served takes a turn. -/
  | other (place : Nat) (turn : Session.Turn)
  | event (event : Event)

/-- Only strangers and sessions begin to watch. -/
def Step.Outside (strangers : Set ClientId) : Step → Prop
  | .served _ turn | .other _ turn => turn.Outside strangers
  | .event outer => outer.Outside strangers
  | _ => True

variable (users : ServiceUsers)

/-- All sessions, wherever they are. -/
def clientele : Clientele := users.host.clientele users.elsewhere

/-- The service that all share. -/
def service : Service := users.host.service

/-- The users after a step; what cannot be done changes nothing. -/
def step : Step → ServiceUsers
  | .submit request =>
    { users with host := (users.host.submit request).toOption.getD users.host }
  | .register ending bytes =>
    { users with host := (users.host.takeRegistrations ending bytes).2 }
  | .shutdown => { users with host := users.host.shutdown }
  | .work routes slot => { users with host := users.host.step routes slot }
  | .reset => { users with host := users.host.reset.2 }
  | .arrive id change =>
    { users with host := users.host.modifyVisit id fun visit =>
        { visit with requests := change visit.requests } }
  | .connect id slot maxKeys notifications responses =>
    let (session, service) :=
      Session.connect users.service id slot maxKeys notifications responses
    { host := { users.host with service }, elsewhere := session :: users.elsewhere }
  | .seat slot place request requests =>
    match users.host.workers[slot]?, users.elsewhere[place]? with
    | some (.serving _), _ => users
    | some _, some session =>
      { host := { users.host with
          workers := users.host.workers.set slot (.serving { request, session, requests }) }
        elsewhere := users.elsewhere.eraseIdx place }
    | _, _ => users
  | .vacate slot =>
    match users.host.workers[slot]? with
    | some (.serving visit) =>
      { host := { users.host with workers := users.host.workers.set slot .idle }
        elsewhere := visit.session :: users.elsewhere }
    | _ => users
  | .served slot turn =>
    match users.host.workers[slot]? with
    | some (.serving visit) =>
      let (session, service) := visit.session.turn users.service turn
      { users with host := { users.host with
          service, workers := users.host.workers.set slot (.serving { visit with session }) } }
    | _ => users
  | .other place turn =>
    match users.elsewhere[place]? with
    | some session =>
      let (session, service) := session.turn users.service turn
      { host := { users.host with service }
        elsewhere := users.elsewhere.set place session }
    | none => users
  | .event event =>
    { users with host := { users.host with service := users.service.undergo event } }

/-- The users after steps in order. -/
def run (steps : List Step) : ServiceUsers := steps.foldl step users

variable {strangers : Set ClientId} {users}

theorem perm_eraseIdx {sessions : List Session} {place : Nat} {session : Session}
    (here : sessions[place]? = some session) :
    sessions.Perm (session :: sessions.eraseIdx place) := by
  obtain ⟨inside, rfl⟩ := List.getElem?_eq_some_iff.1 here
  exact (List.getElem_cons_eraseIdx_perm inside).symm

/-- **Whatever anybody does is a way on.** -/
theorem leads_step {step : Step} (outside : step.Outside strangers) :
    users.clientele.Leads strangers (users.step step).clientele := by
  cases step with
  | submit request =>
    unfold step
    dsimp only
    cases accepted : users.host.submit request with
    | error error => exact .refl _
    | ok host => exact .of_eq (Host.clientele_submit users.elsewhere accepted)
  | register ending bytes =>
    exact users.host.leads_takeRegistrations users.elsewhere ending bytes
  | shutdown => exact .refl _
  | work routes slot => exact users.host.leads_step users.elsewhere routes slot
  | reset => exact users.host.leads_reset users.elsewhere
  | arrive id change =>
    exact .of_eq (users.host.clientele_modifyVisit users.elsewhere id change)
  | connect id slot maxKeys notifications responses =>
    exact (Clientele.Leads.connect id slot maxKeys notifications responses).trans
      (.of_perm (users.host.perm_others (.refl _)).symm)
  | seat slot place request requests =>
    unfold step
    dsimp only
    split
    · exact .refl _
    · next worker session idle there here =>
      have nobody : worker.session? = none := by
        cases worker with
        | serving visit => exact absurd rfl (idle visit)
        | _ => rfl
      have before := Host.perm_clientele there users.elsewhere
      rw [nobody] at before
      refine (Clientele.Leads.of_perm before).trans (.of_perm ?_)
      exact (Host.perm_besides (perm_eraseIdx here) users.host slot).trans
        (Host.perm_set there users.service (.serving { request, session, requests })
          (users.elsewhere.eraseIdx place)).symm
    · exact .refl _
  | vacate slot =>
    unfold step
    dsimp only
    split
    · next visit there =>
      have after := Host.perm_set there users.service .idle (visit.session :: users.elsewhere)
      refine (Clientele.Leads.of_perm (Host.perm_clientele there users.elsewhere)).trans
        (.of_perm ?_)
      exact (Host.perm_besides (.refl _) users.host slot).symm.trans after.symm
    · exact .refl _
  | served slot turn =>
    unfold step
    dsimp only
    split
    · next visit there =>
      have before := Host.perm_clientele there users.elsewhere
      have after := Host.perm_set there (visit.session.turn users.service turn).2
        (.serving { visit with session := (visit.session.turn users.service turn).1 })
        users.elsewhere
      exact (Clientele.Leads.of_perm before).trans ((Clientele.Leads.turn turn outside).trans
        (.of_perm after.symm))
    · exact .refl _
  | other place turn =>
    unfold step
    dsimp only
    split
    · next session here =>
      have inside := (List.getElem?_eq_some_iff.1 here).1
      have before := users.host.perm_others (perm_eraseIdx here)
      have after := users.host.perm_others (List.set_perm_cons_eraseIdx inside
        (session.turn users.service turn).1)
      exact (Clientele.Leads.of_perm before).trans ((Clientele.Leads.turn turn outside).trans
        (.of_perm after.symm))
    · exact .refl _
  | event event => exact .event outside

theorem leads_run {steps : List Step} (outside : ∀ step ∈ steps, step.Outside strangers) :
    users.clientele.Leads strangers (users.run steps).clientele := by
  induction steps generalizing users with
  | nil => exact .refl _
  | cons step rest ih =>
    obtain ⟨first, later⟩ := List.forall_mem_cons.1 outside
    exact (leads_step first).trans (ih later)

/-- A host that nobody has come to yet, and no session elsewhere. -/
def ofService (service : Service) : ServiceUsers := { host := Host.ofService service }

theorem sessions_ofService (service : Service) : (ofService service).clientele.sessions = [] := by
  unfold clientele ofService Host.clientele Host.ofService
  rw [List.append_nil, List.map_nil, List.append_nil, List.filterMap_eq_nil_iff]
  intro worker member
  rw [List.eq_of_mem_replicate member]
  rfl

theorem inOrder_ofService {service : Service} (fresh : service.store.table = none) :
    (ofService service).clientele.InOrder strangers where
  orderly := Store.orderly_of_table_eq_none fresh
  sessions := fun session member => by
    rw [sessions_ofService] at member
    cases member
  records := fun key client carries =>
    absurd carries (Store.not_carries_of_table_eq_none fresh key client)

/-- **Sessions leave without a trace, whatever happened before.** Over a store that has just been
made, sessions come and go in any order and anything else may happen, as long as no two sessions
have the same number and whoever watches beside them has another one. Whenever one of the sessions
is closed then, whatever its stage and its keys, its records are gone from all entries and its
notification channel is closed, and of the service nothing else is changed: every entry is in its
place with its key, its value and its other watchers in their order, and no sink is written to. A
reset does so for all sessions that are being served, and counts those that were not closed. -/
theorem close_and_reset (service : Service) (fresh : service.store.table = none)
    (strangers : Set ClientId) (steps : List Step)
    (outside : ∀ step ∈ steps, step.Outside strangers)
    (apart : ((ofService service).run steps).clientele.Apart strangers) :
    let reached := (ofService service).run steps
    let visits := reached.host.visits
    let after := reached.host.reset
    (∀ session ∈ reached.clientele.sessions, ∃ warnings,
      session.close reached.service
        = (decide (session.stage ≠ .closed), session.shut,
            reached.service.leftBy [session] warnings))
      ∧ (∃ warnings, after
        = (visits.countP (·.session.stage ≠ .closed),
            { reached.host with
              workers := reached.host.workers.map Worker.dismissed
              service := reached.service.leftBy (visits.map (·.session)) warnings }))
      ∧ ∀ visit ∈ after.2.visits, visit.session.stage = .closed ∧ visit.session.isAnswering = false
          ∧ after.2.service.exchange.isClosed visit.session.channel = true := by
  intro reached visits after
  have inOrder := (leads_run outside).inOrder apart (inOrder_ofService fresh)
  -- the sessions that are being served come first
  have served : visits.map (·.session) = reached.host.workers.filterMap Worker.session? :=
    List.map_filterMap
  have front : (visits.map (·.session)).Sublist reached.clientele.sessions := by
    rw [served]
    exact (List.sublist_append_left _ _).trans (List.sublist_append_left _ _)
  have distinct : (visits.map (·.session.id)).Nodup := by
    have ids := front.map (·.id)
    rw [List.map_map] at ids
    exact apart.distinct.sublist ids
  obtain ⟨warnings, done⟩ := Host.reset_eq inOrder.orderly
    (fun visit member => inOrder.sessions visit.session
      (front.subset (List.mem_map_of_mem member))) distinct
  refine ⟨fun session member => Session.close_eq inOrder.orderly (inOrder.sessions session member),
    ⟨warnings, done⟩, fun visit member => ?_⟩
  have result : after = _ := done
  rw [result] at member ⊢
  have seen : visit ∈ (reached.host.workers.map Worker.dismissed).filterMap Host.visit? := member
  rw [Host.visits_dismissed] at seen
  obtain ⟨old, was, rfl⟩ := List.mem_map.1 seen
  have closing : old.session.channel ∈ (visits.map (·.session)).map (·.channel) :=
    List.mem_map_of_mem (List.mem_map_of_mem was)
  exact ⟨rfl, rfl, Exchange.isClosed_shut _ closing⟩

/-- A client that is being served, one elsewhere, and a stranger, over keys that were deleted and
made again. -/
theorem close_and_reset_recreated_keys :
    let put (key value : String) : Step := .event (.action (.perform (.put key value)))
    let perform (operation : Operation) : Step := .event (.action (.perform operation))
    let routes : Routes := ⟨fun _ _ => .ok {}, fun _ _ => .ok {}, fun _ _ => .ok {}⟩
    let service : Service := { store := { settings := {} } }
    let steps : List Step :=
      [perform .init, put "a" "1", put "b" "1", .submit ⟨"requests", "responses", "notices"⟩,
        .work routes 0, .work routes 0, .served 0 (.move (.subscribe "a")),
        .served 0 (.move (.subscribe "b")), perform .terminate, perform .init, put "a" "2",
        .event (.action (.watch "a" ⟨9, 5⟩)), .served 0 (.move (.subscribe "a")),
        .connect 7 0 4 {} {}, .other 0 (.move .activate), .other 0 (.move (.subscribe "a")),
        put "b" "2"]
    let reached := (ofService service).run steps
    let after := reached.host.reset
    service.store.table = none ∧ (∀ step ∈ steps, step.Outside {9})
      ∧ reached.clientele.Apart {9}
      ∧ reached.service.store.watchersOf "a" = [⟨9, 5⟩, ⟨1, 0⟩, ⟨7, 1⟩]
      ∧ after.1 = 1 ∧ after.2.service.store.watchersOf "a" = [⟨9, 5⟩, ⟨7, 1⟩] := by
  intro put perform routes service steps reached after
  have outside : ∀ step ∈ steps, step.Outside {9} := by
    simp [steps, put, perform, Step.Outside, Event.Outside, Session.Turn.Outside]
  have ids : reached.clientele.ids = [1, 7] := by decide +kernel
  have apart : reached.clientele.Apart {9} := by
    refine ⟨by rw [ids]; decide, ?_⟩
    rw [ids]
    simp
  have fresh : service.store.table = none := rfl
  have parts : after.1 = reached.host.visits.countP (·.session.stage ≠ .closed)
      ∧ after.2.service.store
        = reached.service.store.forgetting ((reached.host.visits.map (·.session)).map (·.id)) := by
    -- whatever the steps are, so that they are not run here
    clear_value service steps
    obtain ⟨-, ⟨warnings, done⟩, -⟩ := close_and_reset service fresh {9} steps outside apart
    exact ⟨congrArg Prod.fst done, congrArg (·.2.service.store) done⟩
  refine ⟨fresh, outside, apart, by decide +kernel, ?_, ?_⟩
  · rw [parts.1]
    decide +kernel
  · rw [parts.2]
    decide +kernel

end ServiceUsers

end KeyWatch
