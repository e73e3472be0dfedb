/-
# Proofs.RunSession -- a session from admission to its end

A worker takes a client in and serves it until it leaves (`Host.runSession`). There are many ways out:
a channel that does not open, a welcome or an answer that does not arrive, the end of the requests,
something that is no request, and a goodbye. All of them lead through `Host.depart` but the first, which
made no session, and all leave the worker free, the store as it was, and the client's channels closed
(`Host.runSession_spec`).
-/
import KeyWatch.Proofs.Conversation
import KeyWatch.Proofs.Delivery
import KeyWatch.Session.Host

namespace KeyWatch

set_option autoImplicit false

namespace Host

/-- The host once the worker at a place has taken a request. -/
def admitting (host : Host) (slot : Nat) (request : ConnectRequest) : Host :=
  { host with workers := host.workers.set slot (.admitting request) }

/-- Take a client in at a free place and serve it to its end. -/
def runSession (host : Host) (routes : Routes) (slot : Nat) (request : ConnectRequest) : Host :=
  let after := (host.admitting slot request).step routes slot
  match after.workers[slot]? with
  | some (.serving _) => after.step routes slot
  | _ => after

variable (host : Host) (routes : Routes) (slot : Nat) (request : ConnectRequest)

/-! ## Taking in -/

/-- The host once it has tried to open the channels of a client. -/
def tried : Host :=
  { host with attempts := host.attempts ++ [{ request, opened := routes.opened request }] }

/-- The host once a client has its number and its notification channel. -/
def admitted (channels : Channels) : Host :=
  { host.tried routes request with
    service := { host.service with
      exchange := (host.service.exchange.openChannel host.nextId channels.notifications).2 }
    nextId := host.nextId + 1 }

/-- The session of a client that is to be welcomed. -/
def newcomer (channels : Channels) : Session :=
  { id := host.nextId
    slot
    channel := host.service.exchange.channels.size
    responses := channels.responses
    maxKeys := host.maxKeys
    stage := .active }

/-- A client that was sent its welcome. -/
def greeted (channels : Channels) : Visit :=
  { request
    session := { host.newcomer slot channels with
      responses := (channels.responses.send Response.welcome.encode).2 }
    requests := channels.requests }

theorem welcome_of_error {fault : IoFault} (failed : routes.openAll request = .error fault) :
    host.welcome routes slot request = (none, host.tried routes request) := by
  unfold welcome
  rw [failed]
  rfl

theorem welcome_of_ok {channels : Channels} (opened : routes.openAll request = .ok channels) :
    host.welcome routes slot request
      = if (channels.responses.send Response.welcome.encode).1.isOk = true then
          (some (host.greeted slot request channels), host.admitted routes request channels)
        else
          (none, (host.admitted routes request channels).depart
            { host.greeted slot request channels with
              requests := { channels.requests with isClosed := true } }) := by
  unfold welcome
  rw [opened]
  dsimp only
  have said : (host.newcomer slot channels).respond .welcome
      = ((channels.responses.send Response.welcome.encode).1.mapError .io,
          (host.greeted slot request channels).session) :=
    Session.respond_of_answering (host.newcomer slot channels) rfl .welcome
  have fresh : (Session.connect host.service host.nextId slot host.maxKeys channels.notifications
      channels.responses).1.activate = host.newcomer slot channels := rfl
  rw [fresh, said]
  dsimp only
  cases (channels.responses.send Response.welcome.encode).1 with
  | ok _ => rfl
  | error fault => rfl

/-! ## Letting go -/

/-- The host once the requests of a visit were served. -/
def served (visit : Visit) : Host :=
  { host with service := (visit.session.serve host.service visit.requests.bytes).service }

/-- The visit once its requests were served. -/
def visited (visit : Visit) : Visit :=
  let progress := visit.session.serve host.service visit.requests.bytes
  { visit with
    session := progress.session
    requests := { visit.requests with
      bytes := progress.unread, isClosed := progress.isSpoiled } }

/-- **A client whose requests came to an end is let go.** -/
theorem attend_of_ends {visit : Visit} (running : visit.session.isClosed = false)
    (ends : (visit.session.serve host.service visit.requests.bytes).goesOn = true →
      visit.requests.isEnded = true) :
    host.attend visit = (none, (host.served visit).depart (host.visited visit)) := by
  have finished : ¬ ((visit.session.serve host.service visit.requests.bytes).goesOn = true
      ∧ visit.requests.isEnded = false) := by
    rintro ⟨more, waits⟩
    rw [ends more] at waits
    cases waits
  unfold attend
  rw [running]
  exact if_neg finished

/-! ## The steps of a worker -/

variable {host slot request}

theorem step_admitting (here : host.workers[slot]? = some (.admitting request)) :
    host.step routes slot
      = { (host.welcome routes slot request).2 with
          workers := (host.welcome routes slot request).2.workers.set slot
            (afterwards (host.welcome routes slot request).1) } := by
  unfold step
  rw [here]

theorem step_serving {visit : Visit} (here : host.workers[slot]? = some (.serving visit)) :
    host.step routes slot
      = { (host.attend visit).2 with
          workers := (host.attend visit).2.workers.set slot (afterwards (host.attend visit).1) } := by
  unfold step
  rw [here]

theorem workers_admitting (idle : host.workers[slot]? = some .idle) :
    (host.admitting slot request).workers[slot]? = some (.admitting request) :=
  List.getElem?_set_self (List.getElem?_eq_some_iff.1 idle).1

/-- A worker that was free and is free again. -/
theorem workers_set_idle (idle : host.workers[slot]? = some .idle) (worker : Worker) :
    (host.workers.set slot worker).set slot .idle = host.workers := by
  obtain ⟨inside, here⟩ := List.getElem?_eq_some_iff.1 idle
  rw [List.set_set, ← here, List.set_getElem_self]

variable {routes}

theorem runSession_of_idle {after : Host}
    (stepped : (host.admitting slot request).step routes slot = after)
    (idle : after.workers[slot]? = some .idle) : host.runSession routes slot request = after := by
  unfold runSession
  rw [stepped]
  dsimp only
  rw [idle]

theorem runSession_of_serving {after : Host} {visit : Visit}
    (stepped : (host.admitting slot request).step routes slot = after)
    (serving : after.workers[slot]? = some (.serving visit)) :
    host.runSession routes slot request = after.step routes slot := by
  unfold runSession
  rw [stepped]
  dsimp only
  rw [serving]

/-! ## The ways out -/

/-- A client whose channels do not open costs nothing but the attempt. -/
theorem runSession_of_error (idle : host.workers[slot]? = some .idle) {fault : IoFault}
    (failed : routes.openAll request = .error fault) :
    host.runSession routes slot request = host.tried routes request := by
  have free := workers_set_idle idle (.admitting request)
  refine runSession_of_idle ?_ idle
  rw [step_admitting routes (workers_admitting idle), welcome_of_error _ routes slot request failed]
  show { host.tried routes request with
    workers := (host.workers.set slot (.admitting request)).set slot .idle } = _
  rw [free]
  rfl

variable {channels : Channels}

/-- A client that cannot be welcomed is let go at once. -/
theorem runSession_of_unwelcomed (idle : host.workers[slot]? = some .idle)
    (opened : routes.openAll request = .ok channels)
    (failed : (channels.responses.send Response.welcome.encode).1.isOk = false) :
    host.runSession routes slot request = (host.admitted routes request channels).depart
      { host.greeted slot request channels with
        requests := { channels.requests with isClosed := true } } := by
  let unwelcomed : Visit := { host.greeted slot request channels with
    requests := { channels.requests with isClosed := true } }
  refine runSession_of_idle ?_ idle
  rw [step_admitting routes (workers_admitting idle), welcome_of_ok _ routes slot request opened,
    if_neg (by rw [failed]; decide)]
  exact congrArg
    (fun workers => { (host.admitted routes request channels).depart unwelcomed with workers })
    (workers_set_idle idle (.admitting request))

/-- A client that is welcomed is being served from then on. -/
theorem step_of_welcomed (idle : host.workers[slot]? = some .idle)
    (opened : routes.openAll request = .ok channels)
    (sent : (channels.responses.send Response.welcome.encode).1.isOk = true) :
    (host.admitting slot request).step routes slot
      = { host.admitted routes request channels with
          workers := host.workers.set slot (.serving (host.greeted slot request channels)) } := by
  rw [step_admitting routes (workers_admitting idle), welcome_of_ok _ routes slot request opened,
    if_pos sent]
  exact congrArg (fun workers => { host.admitted routes request channels with workers })
    (List.set_set ..)

/-- A client that is welcomed is served, and let go at its end. -/
theorem runSession_of_welcomed (idle : host.workers[slot]? = some .idle)
    (opened : routes.openAll request = .ok channels)
    (sent : (channels.responses.send Response.welcome.encode).1.isOk = true)
    (ends : (((host.greeted slot request channels).session.serve
        (host.admitted routes request channels).service channels.requests.bytes).goesOn = true →
      channels.requests.isEnded = true)) :
    let host' := host.admitted routes request channels
    let visit := host.greeted slot request channels
    host.runSession routes slot request = (host'.served visit).depart (host'.visited visit) := by
  intro host' visit
  let serving : Host := { host.admitted routes request channels with
    workers := host.workers.set slot (.serving visit) }
  have stepped : (host.admitting slot request).step routes slot = serving :=
    step_of_welcomed idle opened sent
  have here : serving.workers[slot]? = some (.serving visit) :=
    List.getElem?_set_self (List.getElem?_eq_some_iff.1 idle).1
  have running : visit.session.isClosed = false := rfl
  rw [runSession_of_serving stepped here, step_serving routes here,
    attend_of_ends serving running ends]
  exact congrArg (fun workers => { (host'.served visit).depart (host'.visited visit) with workers })
    (workers_set_idle idle (.serving visit))

/-- **A client whose requests are all there is served in one go:** the steps of its worker come to
what `serveToEnd` does. -/
theorem runSession_eq_serveToEnd (idle : host.workers[slot]? = some .idle)
    (ended : ∀ channels, routes.openAll request = .ok channels → channels.requests.isEnded = true) :
    host.runSession routes slot request = host.serveToEnd routes slot request := by
  cases opened : routes.openAll request with
  | error fault =>
    rw [runSession_of_error idle opened, serveToEnd, welcome_of_error _ _ _ _ opened]
  | ok channels =>
    have whole := ended channels opened
    cases sent : (channels.responses.send Response.welcome.encode).1.isOk with
    | false =>
      rw [runSession_of_unwelcomed idle opened sent, serveToEnd, welcome_of_ok _ _ _ _ opened,
        if_neg (by rw [sent]; decide)]
    | true =>
      let visit := host.greeted slot request channels
      have same : ({ visit with requests := { visit.requests with isEnded := true } } : Visit)
          = visit := by
        show Visit.mk _ _ ⟨channels.requests.bytes, true, channels.requests.isClosed⟩ = _
        rw [← whole]
        rfl
      have running : visit.session.isClosed = false := rfl
      rw [runSession_of_welcomed idle opened sent fun _ => whole, serveToEnd,
        welcome_of_ok _ _ _ _ opened, if_pos sent]
      show _ = ((host.admitted routes request channels).attend _).2
      rw [same, attend_of_ends _ running fun _ => whole]

/-! ## What is left of a client -/

/-- The client works once it was greeted: it has marked nothing yet. -/
theorem works_greeted (host : Host) (routes : Routes) (slot : Nat) (request : ConnectRequest)
    (channels : Channels) :
    (host.greeted slot request channels).session.Works (host.admitted routes request channels).service
      host.service.store (host.admitted routes request channels).service.exchange where
  active := rfl
  answering := rfl
  stored := by
    intro key none
    cases none
  marks := (Store.marked_nil _ _).symm
  exchange := rfl

/-- **All that is left of a client whose channels open** is a visit among the departed, which said
what was due and is gone. -/
theorem runSession_leaves (idle : host.workers[slot]? = some .idle)
    (unknown : host.service.store.Unknown host.nextId)
    (opened : routes.openAll request = .ok channels)
    (ends : (Request.script channels.requests.bytes).2 = .cutShort →
      channels.requests.isEnded = true) :
    let host' := host.admitted routes request channels
    ∃ parted left requests,
      host.runSession routes slot request
        = { host' with
            service := left
            departed := host.departed ++ [⟨request, parted.silence, requests⟩] }
      ∧ (host.newcomer slot channels).Leaves
        (Response.welcome.encode
          ++ Request.spoken host.service.store host.maxKeys [] channels.requests.bytes)
        parted left host.service.store host'.service.exchange := by
  intro host'
  have works := works_greeted host routes slot request channels
  cases sent : (channels.responses.send Response.welcome.encode).1.isOk with
  | false =>
    refine ⟨_, _, _, runSession_of_unwelcomed idle opened sent, ?_⟩
    exact Session.Leaves.of_failure sent (Session.leaves_of_works unknown works)
  | true =>
    obtain ⟨ending, leaves⟩ := Session.serve_spec unknown works channels.requests.bytes
    refine ⟨_, _, _, runSession_of_welcomed idle opened sent fun more => ends (ending more), ?_⟩
    exact Session.Leaves.of_answer sent leaves

/-- **Whatever comes of a client, its worker is free afterwards and nothing is left of it.** The store
is the one from before, with every key, value and watcher, and other channels are untouched. If one of
the client's channels does not open, no session was made. Otherwise its session is closed, and so are
its notification channel, on which nothing was sent, and its response channel. That one took, from the
front, and wholly if it takes whatever is written: the welcome, one answer of two bytes to each request
before the first thing that ends them, and a goodbye if that is what the client said. -/
theorem runSession_spec (host : Host) (routes : Routes) (slot : Nat) (request : ConnectRequest)
    (idle : host.workers[slot]? = some .idle)
    (unknown : ∀ table entry, host.service.store.table = some table → entry ∈ table.entries →
      entry.watchers.has host.nextId = false)
    (ends : ∀ channels, routes.openAll request = .ok channels →
      (Request.script channels.requests.bytes).2 = .cutShort → channels.requests.isEnded = true) :
    let after := host.runSession routes slot request
    after.workers = host.workers ∧ after.queue = host.queue
      ∧ after.service.store = host.service.store
      ∧ (∀ table entry, after.service.store.table = some table → entry ∈ table.entries →
        entry.watchers.has host.nextId = false)
      ∧ match routes.openAll request with
        | .error _ =>
          after.departed = host.departed ∧ after.nextId = host.nextId
            ∧ after.service.exchange = host.service.exchange
        | .ok channels => ∃ visit,
          let asked := (Request.script channels.requests.bytes).1
          let ending := (Request.script channels.requests.bytes).2
          let answers := Request.replies host.service.store host.maxKeys [] asked
          let due := [1, 0] ++ answers.flatMap Response.encode
            ++ if ending = .disconnect then [2, 0] else []
          after.departed = host.departed ++ [visit] ∧ after.nextId = host.nextId + 1
            ∧ visit.session.id = host.nextId ∧ visit.session.slot = slot
            ∧ visit.session.stage = .closed ∧ visit.session.keys = []
            ∧ visit.session.isAnswering = false
            ∧ visit.session.channel = host.service.exchange.channels.size
            ∧ (∀ channel, after.service.exchange.channel? channel
              = if channel = visit.session.channel then
                  some { client := host.nextId, sink := channels.notifications, isOpen := false }
                else host.service.exchange.channel? channel)
            ∧ answers.length = asked.length
            ∧ ∃ front, front <+: due
              ∧ visit.session.responses.taken = channels.responses.taken ++ front
              ∧ (channels.responses.Healthy → front = due) := by
  intro after
  have bare : host.service.store.Unknown host.nextId := fun table there entry stored =>
    unknown table entry there stored
  cases opened : routes.openAll request with
  | error fault =>
    have result : after = host.tried routes request := runSession_of_error idle opened
    rw [result]
    exact ⟨rfl, rfl, rfl, unknown, rfl, rfl, rfl⟩
  | ok channels =>
    obtain ⟨parted, left, requests, result, leaves⟩ :=
      runSession_leaves idle bare opened (ends channels opened)
    have same : after = _ := result
    have restored := leaves.gone.store
    have closed := leaves.gone.exchange
    have ours : parted.channel = host.service.exchange.channels.size := leaves.channel
    rw [same]
    refine ⟨rfl, rfl, restored, ?_, ⟨request, parted.silence, requests⟩, rfl, rfl, leaves.id,
      leaves.slot, leaves.gone.closed, leaves.gone.nothing, rfl, ours, fun channel => ?_,
      Request.length_replies _ _ _ _, ?_⟩
    · show ∀ table entry, left.store.table = some table → entry ∈ table.entries → _
      rw [restored]
      exact unknown
    · show left.exchange.channel? channel = if channel = parted.channel then _ else _
      rw [closed, ours, Exchange.close, Exchange.channel?_modify]
      show (if _ then ((host.service.exchange.openChannel _ _).2.channel? channel).map _
        else (host.service.exchange.openChannel _ _).2.channel? channel) = _
      rw [Exchange.channel?_openChannel]
      by_cases here : channel = host.service.exchange.channels.size
      · rw [if_pos here, if_pos here, if_pos here.symm]
        rfl
      · rw [if_neg here, if_neg here, if_neg (Ne.symm here)]
    · have words : (Request.script channels.requests.bytes).2.words
          = if (Request.script channels.requests.bytes).2 = .disconnect then [2, 0] else [] := by
        cases (Request.script channels.requests.bytes).2 <;> rfl
      have said := leaves.said
      rw [Request.spoken, words, ← List.append_assoc] at said
      exact said

/-- A client that asks for a stored key and says goodbye; a byte after that is not looked at. -/
theorem runSession_spec_subscriber :
    let table : Table := ({} : Table).edit (.put "a" "1")
    let host := ofService { store := { settings := {}, table := some table } }
    let bytes := [3, 97] ++ List.replicate 40 0 ++ [2, 9]
    let routes : Routes :=
      { notifications := fun _ _ => .ok {}
        requests := fun _ _ => .ok { bytes }
        responses := fun _ _ => .ok {} }
    let request : ConnectRequest := ⟨"requests", "responses", "notifications"⟩
    host.workers[0]? = some .idle ∧ table.entries = [⟨"a", "1", []⟩]
      ∧ Request.script bytes = ([.subscribe "a"], .disconnect)
      ∧ ∃ visit, (host.runSession routes 0 request).departed = [visit]
        ∧ visit.session.responses.taken = [1, 0, 3, 1, 2, 0] := by
  intro table host bytes routes request
  have entries : table.entries = [⟨"a", "1", []⟩] := by
    rw [Table.entries_eq]
    rfl
  have stored : host.service.store.finds "a" = .ok true := by rfl
  have script : Request.script bytes = ([.subscribe "a"], .disconnect) := by
    have subscribed : Request.read bytes = .message (.subscribe "a") [2, 9] := by rfl
    have goodbye : Request.read [2, 9] = .message .disconnect [9] := by rfl
    rw [Request.script_of_message subscribed, Request.script_of_message goodbye]
    rfl
  have ends : ∀ channels, routes.openAll request = .ok channels →
      (Request.script channels.requests.bytes).2 = .cutShort → channels.requests.isEnded = true := by
    intro channels opened waits
    cases opened
    have goodbye : (Request.script bytes).2 = .cutShort := waits
    rw [script] at goodbye
    cases goodbye
  have unwatched : ∀ other entry, host.service.store.table = some other → entry ∈ other.entries →
      entry.watchers.has host.nextId = false := by
    intro other entry there member
    cases there
    have only : entry = ⟨"a", "1", []⟩ := by
      rw [← List.mem_singleton, ← entries]
      exact member
    rw [only]
    rfl
  refine ⟨rfl, entries, script, ?_⟩
  obtain ⟨-, -, -, -, visit, departed, -, -, -, -, -, -, -, -, -, front, -, taken, whole⟩ :=
    runSession_spec host routes 0 request rfl unwatched ends
  have healthy : ({} : Sink).Healthy := ⟨⟨rfl, nofun⟩, rfl⟩
  refine ⟨visit, departed, ?_⟩
  rw [taken, whole healthy]
  show [] ++ ([1, 0] ++ (Request.replies host.service.store 10 [] (Request.script bytes).1).flatMap
    Response.encode ++ if (Request.script bytes).2 = .disconnect then [2, 0] else []) = _
  rw [script]
  have granted : Request.replies host.service.store 10 [] [.subscribe "a"]
      = [.subscribed true] := by
    simp [Request.replies, Request.reply, stored]
  show [] ++ ([1, 0] ++ (Request.replies host.service.store 10 [] [.subscribe "a"]).flatMap
    Response.encode ++ [2, 0]) = _
  rw [granted]
  rfl

end Host

end KeyWatch
