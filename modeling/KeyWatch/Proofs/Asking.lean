/-
# Proofs.Asking -- what a client learns is what its session says

A client asks about keys, one call after another, and then says goodbye. What its calls return is
said a second time by `Inquiry.turns`, which knows neither bytes nor channels: the session is asked
directly, with the key up to its first NUL, and a refusal counts as no. `Host.converse_eq_turns`
says that a client that talks to the worker that admitted it has just these turns. A key too long for
its field never leaves the client; every other call sends one frame, and the two bytes that come back
are its own, so that no answer is left for a later call.

The server waits between two calls with an empty inbox (`Host.Waits`), and every call leads from one
such moment to the next (`Host.talk_inquiry`).
-/
import KeyWatch.Network.Peer
import KeyWatch.Proofs.Messages
import KeyWatch.Proofs.SessionStages
import KeyWatch.Proofs.RunSession

namespace KeyWatch

set_option autoImplicit false

/-! ## Inquiries -/

/-- What a client asks for before it says goodbye. -/
inductive Inquiry where
  | subscribe (key : String)
  | unsubscribe (key : String)
  deriving Repr, DecidableEq

namespace Inquiry

def key : Inquiry → String
  | subscribe key => key
  | unsubscribe key => key

/-- The inquiry as a client writes it. -/
def request : Inquiry → Request
  | subscribe key => .subscribe key
  | unsubscribe key => .unsubscribe key

/-- What a session says to it, asked directly and with the key up to its first NUL. -/
def ask (inquiry : Inquiry) (session : Session) (service : Service) :
    Except Error Bool × Session × Service :=
  match inquiry with
  | subscribe key => session.subscribe service (Text.cut key)
  | unsubscribe key => session.unsubscribe service (Text.cut key)

/-- How yes and no are said to a client: one means yes to a subscribe, zero to an unsubscribe. -/
def response (inquiry : Inquiry) (isGranted : Bool) : Response :=
  match inquiry with
  | subscribe _ => .subscribed isGranted
  | unsubscribe _ => .unsubscribed isGranted

end Inquiry

/-! ## Turns of a client -/

/-- One call as the client sees it. -/
structure Client.Turn where
  result : Except Error Bool
  /-- What the client wrote. -/
  sent : Bytes
  /-- What came back meanwhile. -/
  heard : Bytes
  /-- What waits on the response channel after the call. -/
  unread : Bytes
  deriving Repr

/-- A client calls again and again. -/
def Client.Line.converse {σ : Type} (talk : σ → Bytes → Bytes × σ) :
    σ → Line → List Request → List Client.Turn
  | _, _, [] => []
  | server, line, request :: rest =>
    let (result, after, next) := line.request talk server request
    let sent := after.requests.taken.drop line.requests.taken.length
    { result, sent, heard := (talk server sent).1, unread := after.responses }
      :: converse talk next after rest

/-- **The turns of a client whose session is asked directly.** -/
def Inquiry.turns (session : Session) (service : Service) : List Inquiry → List Client.Turn
  | [] => []
  | inquiry :: rest =>
    if 41 < inquiry.key.utf8ByteSize then
      { result := .error (.protocol (.fieldTooLong inquiry.key.utf8ByteSize 41))
        sent := []
        heard := []
        unread := [] } :: turns session service rest
    else
      let (result, session, service) := inquiry.ask session service
      let isGranted := result.toOption.getD false
      { result := .ok isGranted
        sent := Kind.request.frame inquiry.request
        heard := (inquiry.response isGranted).encode
        unread := [] } :: turns session service rest

/-- Bytes arrive on the channel that a visit takes for its requests. -/
def Visit.hear (visit : Visit) (bytes : Bytes) : Visit := visit.receive visit.request.requests bytes

theorem Visit.hear_eq (visit : Visit) (bytes : Bytes) :
    visit.hear bytes
      = { visit with requests := { visit.requests with bytes := visit.requests.bytes ++ bytes } } :=
  if_pos rfl

namespace Host

/-- Everything that was said to the client with a number. -/
def said (host : Host) (id : ClientId) : Bytes :=
  ((host.findVisit? fun visit => visit.session.id = id).map (·.session.responses.taken)).getD []

/-- Bytes of a client arrive, its worker takes a step, and the client hears what is said then. -/
def talk (routes : Routes) (slot : Nat) (id : ClientId) (host : Host) (bytes : Bytes) :
    Bytes × Host :=
  let after := (host.modifyVisit id (·.hear bytes)).step routes slot
  ((after.said id).drop (host.said id).length, after)

end Host

/-! ## Asking a session -/

namespace Session

variable (session : Session) (service : Service) (responses : Sink)

theorem prune_with_responses (store : Store) (keys : List String) :
    ({ session with responses } : Session).prune store keys = session.prune store keys := by
  induction keys with
  | nil => rfl
  | cons key rest ih =>
    unfold prune
    rw [ih]

/-- What is said to a session does not depend on what it said before. -/
theorem subscribe_with_responses (key : String) :
    let asked := session.subscribe service key
    ({ session with responses } : Session).subscribe service key
      = (asked.1, { asked.2.1 with responses }, asked.2.2) := by
  simp only [subscribe, prune_with_responses, watcher]
  by_cases active : session.stage = .active
  · rw [if_neg (not_not.2 active), if_neg (not_not.2 active)]
    cases session.prune service.store session.keys with
    | mk kept warnings =>
      dsimp only
      split
      · rfl
      · cases Service.apply _ (service.store.watch key ⟨session.id, session.channel⟩) with
        | mk result after => cases result <;> rfl
  · rw [if_pos active, if_pos active]

theorem unsubscribe_with_responses (key : String) :
    let asked := session.unsubscribe service key
    ({ session with responses } : Session).unsubscribe service key
      = (asked.1, { asked.2.1 with responses }, asked.2.2) := by
  unfold unsubscribe
  dsimp only
  split
  · rfl
  · split <;> rfl

end Session

namespace Inquiry

variable (inquiry : Inquiry) (session : Session) (service : Service)

theorem ask_with_responses (responses : Sink) :
    let asked := inquiry.ask session service
    inquiry.ask { session with responses } service
      = (asked.1, { asked.2.1 with responses }, asked.2.2) := by
  cases inquiry with
  | subscribe key => exact session.subscribe_with_responses service responses _
  | unsubscribe key => exact session.unsubscribe_with_responses service responses _

/-- An inquiry changes nothing of a session but its list. -/
theorem ask_frame : ∃ keys, (inquiry.ask session service).2.1 = { session with keys } := by
  cases inquiry with
  | subscribe key => exact (session.subscribe_frame service _).1
  | unsubscribe key => exact (session.unsubscribe_frame service _).1

theorem texts_request : Kind.request.texts inquiry.request = [inquiry.key] := by
  cases inquiry <;> rfl

theorem fits_request_iff :
    Kind.request.Fits inquiry.request ↔ inquiry.key.utf8ByteSize ≤ 41 := by
  rw [Kind.Fits, texts_request, List.forall_mem_singleton]
  exact Iff.rfl

theorem fits_disconnect : Kind.request.Fits .disconnect := List.forall_mem_nil _

theorem encode_of_long (long : 41 < inquiry.key.utf8ByteSize) :
    inquiry.request.encode = .error (.fieldTooLong inquiry.key.utf8ByteSize 41) := by
  have refused : ¬ Kind.request.Fits inquiry.request := by
    rw [fits_request_iff]
    omega
  obtain ⟨text, member, -, blamed⟩ := Kind.request.exists_of_not_fits _ refused
  rw [texts_request, List.mem_singleton] at member
  subst member
  exact blamed

theorem opcode_response (isGranted : Bool) :
    (inquiry.response isGranted).opcode = inquiry.request.opcode := by
  cases inquiry <;> rfl

theorem granted_response (isGranted : Bool) :
    Client.granted inquiry.request (inquiry.response isGranted) = isGranted := by
  cases inquiry with
  | subscribe key => exact Client.granted_subscribed key isGranted
  | unsubscribe key => exact Client.granted_unsubscribed key isGranted

/-- **An active session whose answers arrive handles an inquiry** by asking itself and answering. -/
theorem handle_request (active : session.stage = .active) (answering : session.isAnswering = true)
    (healthy : session.responses.Healthy) :
    let asked := inquiry.ask session service
    let words := (inquiry.response (asked.1.toOption.getD false)).encode
    session.handle service (inquiry.request.mapTexts Text.cut)
      = (true,
          { asked.2.1 with
            responses := { session.responses with taken := session.responses.taken ++ words } },
          asked.2.2) := by
  intro asked words
  obtain ⟨keys, same⟩ := inquiry.ask_frame session service
  have still : asked.2.1 = { session with keys } := same
  have said : asked.2.1.answer asked.2.2 (inquiry.response (asked.1.toOption.getD false))
      = (true,
          { asked.2.1 with
            responses := { session.responses with taken := session.responses.taken ++ words } },
          asked.2.2) := by
    have speaks : asked.2.1.isAnswering = true := by
      rw [still]
      exact answering
    have outlet : asked.2.1.responses = session.responses := by rw [still]
    rw [Session.answer_of_answering _ speaks, outlet, Sink.send_of_healthy healthy]
    rfl
  unfold Session.handle
  rw [if_neg (not_not.2 active)]
  cases inquiry with
  | subscribe key => exact said
  | unsubscribe key => exact said

end Inquiry

/-! ## Serving one request at a time -/

namespace Session

variable (session : Session) (service : Service)

theorem serve_nil : session.serve service [] = ⟨session, service, [], true, false⟩ := by
  rw [serve]
  split <;> simp_all [Request.read]

theorem serve_of_message {bytes rest : Bytes} {request : Request}
    (reading : Request.read bytes = .message request rest) :
    session.serve service bytes
      = if (session.handle service request).1 = true then
          (session.handle service request).2.1.serve (session.handle service request).2.2 rest
        else
          ⟨(session.handle service request).2.1, (session.handle service request).2.2, rest, false,
            false⟩ := by
  rw [serve]
  split
  · simp_all
  · simp_all
  · next other after found =>
    rw [reading] at found
    cases found
    rcases session.handle service request with ⟨goesOn, next, left⟩
    cases goesOn <;> rfl

/-- A session that gets one request, and nothing after it. -/
theorem serve_frame {request : Request} (fits : Kind.request.Fits request) :
    let handled := session.handle service (request.mapTexts Text.cut)
    session.serve service (Kind.request.frame request)
      = ⟨handled.2.1, handled.2.2, [], handled.1, false⟩ := by
  have reading := Request.read_frame request fits []
  rw [List.append_nil] at reading
  intro handled
  rw [session.serve_of_message service reading]
  split
  · next goesOn =>
    rw [serve_nil, goesOn]
  · next ends =>
    rw [Bool.not_eq_true] at ends
    rw [ends]

end Session

/-! ## A worker and its client -/

namespace Host

/-- A worker serves a visit, and no other visit, over or not, has the number of its session. -/
structure Attends (host : Host) (slot : Nat) (visit : Visit) : Prop where
  here : host.workers[slot]? = some (.serving visit)
  past : ∀ other ∈ host.departed, other.session.id ≠ visit.session.id
  alone : ∀ (place : Nat) (other : Visit), host.workers[place]? = some (.serving other) →
    other.session.id = visit.session.id → place = slot

variable {host : Host} {slot : Nat} {visit : Visit}

theorem mem_visits (host : Host) (visit : Visit) :
    visit ∈ host.visits ↔ ∃ place : Nat, host.workers[place]? = some (.serving visit) := by
  unfold visits
  rw [List.mem_filterMap]
  constructor
  · rintro ⟨worker, member, serves⟩
    obtain ⟨place, there⟩ := List.mem_iff_getElem?.1 member
    cases worker with
    | serving other =>
      cases serves
      exact ⟨place, there⟩
    | _ => cases serves
  · rintro ⟨place, there⟩
    exact ⟨.serving visit, List.mem_of_getElem? there, rfl⟩

/-- **The visit is found by the number of its session.** -/
theorem said_of_attends (attends : host.Attends slot visit) :
    host.said visit.session.id = visit.session.responses.taken := by
  have none : host.departed.find? (fun other => other.session.id = visit.session.id) = none := by
    rw [List.find?_eq_none]
    intro other member
    simpa using attends.past other member
  have found : host.visits.find? (fun other => other.session.id = visit.session.id)
      = some visit := by
    have served := (host.mem_visits visit).2 ⟨slot, attends.here⟩
    cases first : host.visits.find? fun other => other.session.id = visit.session.id with
    | none => simpa using List.find?_eq_none.1 first visit served
    | some other =>
      obtain ⟨place, there⟩ := (host.mem_visits other).1 (List.mem_of_find?_eq_some first)
      have same : other.session.id = visit.session.id := by simpa using List.find?_some first
      rw [attends.alone place other there same, attends.here] at there
      cases there
      rfl
  rw [said, findVisit?, List.find?_append, none, Option.none_or, found]
  rfl

/-- Something happens to the visit and leaves its session alone. -/
theorem attends_modifyVisit (attends : host.Attends slot visit) (change : Visit → Visit)
    (keeps : ∀ other, (change other).session = other.session) :
    (host.modifyVisit visit.session.id change).Attends slot (change visit) := by
  have same : ∀ other : Visit, (if other.session.id = visit.session.id then change other
      else other).session = other.session := by
    intro other
    split
    · exact keeps other
    · rfl
  refine ⟨?_, fun other member => ?_, fun place other there equal => ?_⟩
  · show (host.workers.map _)[slot]? = _
    rw [List.getElem?_map, attends.here]
    simp
  · obtain ⟨before, was, rfl⟩ := List.mem_map.1 member
    have apart := attends.past before was
    rw [keeps]
    show (if before.session.id = visit.session.id then change before else before).session.id ≠ _
    rw [same]
    exact apart
  · have moved : (host.workers.map _)[place]? = some (Worker.serving other) := there
    rw [List.getElem?_map] at moved
    obtain ⟨worker, was, changed⟩ := Option.map_eq_some_iff.1 moved
    rw [keeps] at equal
    cases worker with
    | serving before =>
      simp only [Worker.serving.injEq] at changed
      refine attends.alone place before was ?_
      rw [← equal, ← changed, same]
    | _ => cases changed

/-- The worker goes on with the visit, whose session keeps its number. -/
theorem attends_set (attends : host.Attends slot visit) {after : Host} {next : Visit}
    (workers : after.workers = host.workers.set slot (.serving next))
    (departed : after.departed = host.departed) (same : next.session.id = visit.session.id) :
    after.Attends slot next := by
  have inside := (List.getElem?_eq_some_iff.1 attends.here).1
  refine ⟨?_, fun other member => ?_, fun place other there equal => ?_⟩
  · rw [workers]
    exact List.getElem?_set_self inside
  · rw [departed] at member
    rw [same]
    exact attends.past other member
  · by_contra apart
    rw [workers, List.getElem?_set_ne (Ne.symm apart)] at there
    exact apart (attends.alone place other there (equal.trans same))

/-- **A worker waits for its client:** the session is active and its answers arrive, everything that
came was served, and more may come. -/
structure Waits (host : Host) (slot : Nat) (visit : Visit) : Prop where
  attends : host.Attends slot visit
  active : visit.session.stage = .active
  answering : visit.session.isAnswering = true
  running : visit.session.isClosed = false
  healthy : visit.session.responses.Healthy
  served : visit.requests.bytes = []
  comes : visit.requests.isEnded = false

variable (routes : Routes)

/-- What the worker finds once bytes have arrived. -/
theorem attends_hear (attends : host.Attends slot visit) (bytes : Bytes) :
    (host.modifyVisit visit.session.id (·.hear bytes)).Attends slot (visit.hear bytes) :=
  attends_modifyVisit attends (·.hear bytes) fun other => by rw [Visit.hear_eq]

theorem serve_hear (waits : host.Waits slot visit) {bytes : Bytes} {progress : Session.Progress}
    (served : visit.session.serve host.service bytes = progress) :
    (visit.hear bytes).session.serve (host.modifyVisit visit.session.id (·.hear bytes)).service
      (visit.hear bytes).requests.bytes = progress := by
  rw [Visit.hear_eq, waits.served]
  exact served

/-- **Bytes that are served, and leave the session waiting,** lead to the next such moment. -/
theorem talk_of_goesOn (waits : host.Waits slot visit) {bytes : Bytes} {session : Session}
    {service : Service}
    (served : visit.session.serve host.service bytes = ⟨session, service, [], true, false⟩)
    (same : session.id = visit.session.id) (active : session.stage = .active)
    (answering : session.isAnswering = true) (running : session.isClosed = false)
    (healthy : session.responses.Healthy) :
    ∃ after next, talk routes slot visit.session.id host bytes
        = (session.responses.taken.drop visit.session.responses.taken.length, after)
      ∧ after.Waits slot next ∧ next.session = session ∧ after.service = service := by
  let reached := host.modifyVisit visit.session.id (·.hear bytes)
  let next : Visit := { visit with session, requests := {} }
  let after : Host := { reached with service, workers := reached.workers.set slot (.serving next) }
  have finds : reached.Attends slot (visit.hear bytes) := attends_hear waits.attends bytes
  have attended : reached.attend (visit.hear bytes) = (some next, { reached with service }) := by
    have done := serve_hear waits served
    unfold attend
    rw [done, Visit.hear_eq]
    dsimp only
    rw [waits.running, waits.comes]
    rfl
  have stepped : reached.step routes slot = after := by
    rw [step_serving routes finds.here, attended]
    rfl
  have attends : after.Attends slot next := by
    refine attends_set finds rfl rfl ?_
    rw [Visit.hear_eq]
    exact same
  refine ⟨after, next, ?_, ⟨attends, active, answering, running, healthy, rfl, rfl⟩, rfl, rfl⟩
  have heard := said_of_attends attends
  have number : next.session.id = visit.session.id := same
  rw [number] at heard
  show ((reached.step routes slot).said _ |>.drop _, reached.step routes slot) = _
  rw [stepped, heard, said_of_attends waits.attends]

/-- The visit that was the last to end is found by its number. -/
theorem said_of_departed {departed : List Visit} (last : host.departed = departed ++ [visit])
    (past : ∀ other ∈ departed, other.session.id ≠ visit.session.id) :
    host.said visit.session.id = visit.session.responses.taken := by
  have none : departed.find? (fun other => other.session.id = visit.session.id) = none := by
    rw [List.find?_eq_none]
    intro other member
    simpa using past other member
  rw [said, findVisit?, last, List.find?_append, List.find?_append, none]
  simp

/-- **Bytes that end the session** are answered before the worker lets it go. -/
theorem talk_of_ends (waits : host.Waits slot visit) {bytes : Bytes} {session : Session}
    {service : Service}
    (served : visit.session.serve host.service bytes = ⟨session, service, [], false, false⟩)
    (same : session.id = visit.session.id) (closed : session.stage = .closed) :
    (talk routes slot visit.session.id host bytes).1
      = session.responses.taken.drop visit.session.responses.taken.length := by
  let reached := host.modifyVisit visit.session.id (·.hear bytes)
  have finds : reached.Attends slot (visit.hear bytes) := attends_hear waits.attends bytes
  have done := serve_hear waits served
  have running : (visit.hear bytes).session.isClosed = false := by
    rw [Visit.hear_eq]
    exact waits.running
  have number : (visit.hear bytes).session.id = session.id := by
    rw [Visit.hear_eq]
    exact same.symm
  obtain ⟨parted, last, words, ours⟩ : ∃ parted,
      (reached.step routes slot).departed = reached.departed ++ [parted]
        ∧ parted.session.responses = session.responses ∧ parted.session.id = session.id := by
    have left : (reached.step routes slot).departed
        = ((reached.served (visit.hear bytes)).depart
            (reached.visited (visit.hear bytes))).departed := by
      rw [step_serving routes finds.here, attend_of_ends reached running (by rw [done]; nofun)]
    rw [left]
    unfold depart Host.served visited
    rw [done]
    dsimp only
    rw [Session.close, if_pos closed]
    exact ⟨_, rfl, rfl, rfl⟩
  have heard := said_of_departed last fun other member => by
    rw [ours, ← number]
    exact finds.past other member
  rw [ours, same, words] at heard
  show ((reached.step routes slot).said _).drop _ = _
  rw [heard, said_of_attends waits.attends]

/-- **An inquiry is answered with two bytes,** which say what a session says that is asked directly
and differs from the one of the visit in what it said before. -/
theorem talk_inquiry (waits : host.Waits slot visit) {session : Session}
    (same : visit.session = { session with responses := visit.session.responses })
    (inquiry : Inquiry) (short : inquiry.key.utf8ByteSize ≤ 41) :
    let asked := inquiry.ask session host.service
    let words := (inquiry.response (asked.1.toOption.getD false)).encode
    ∃ after next,
      talk routes slot visit.session.id host (Kind.request.frame inquiry.request) = (words, after)
        ∧ after.Waits slot next ∧ next.session.id = visit.session.id
        ∧ next.session = { asked.2.1 with responses := next.session.responses }
        ∧ after.service = asked.2.2 := by
  intro asked words
  have direct : inquiry.ask visit.session host.service
      = (asked.1, { asked.2.1 with responses := visit.session.responses }, asked.2.2) := by
    rw [same]
    exact inquiry.ask_with_responses session host.service visit.session.responses
  obtain ⟨keys, frame⟩ := inquiry.ask_frame visit.session host.service
  have served := visit.session.serve_frame host.service (inquiry.fits_request_iff.2 short)
  rw [inquiry.handle_request _ _ waits.active waits.answering waits.healthy] at served
  obtain ⟨after, next, talked, waits', session', service'⟩ := talk_of_goesOn routes waits served
    (by rw [frame]) (by rw [frame]; exact waits.active) (by rw [frame]; exact waits.answering)
    (by rw [frame]; exact waits.running) waits.healthy
  refine ⟨after, next, ?_, waits', ?_, ?_, ?_⟩
  · rw [talked]
    dsimp only
    rw [List.drop_left, direct]
  · rw [session', frame]
  · rw [session', direct]
  · rw [service', direct]

/-- A worker that finds nothing new says nothing. -/
theorem talk_nothing (waits : host.Waits slot visit) :
    ∃ after next, talk routes slot visit.session.id host [] = ([], after)
      ∧ after.Waits slot next ∧ next.session = visit.session ∧ after.service = host.service := by
  obtain ⟨after, next, talked, waits', session, service⟩ :=
    talk_of_goesOn routes waits (visit.session.serve_nil host.service) rfl waits.active
      waits.answering waits.running waits.healthy
  refine ⟨after, next, ?_, waits', session, service⟩
  rw [talked, List.drop_length]

/-- **A goodbye is answered** after the session is closed. -/
theorem talk_goodbye (waits : host.Waits slot visit) :
    (talk routes slot visit.session.id host (Kind.request.frame .disconnect)).1 = [2, 0] := by
  let leaving : Session := { visit.session with stage := .disconnecting }
  let parted : Session := { leaving with stage := .closed, keys := [], isClosed := true }
  have running : leaving.stage ≠ .closed := nofun
  have handled : visit.session.handle host.service .disconnect
      = (false, { parted with responses := (parted.responses.send Response.farewell.encode).2 },
          (leaving.close host.service).2.2) := by
    have closed : (leaving.close host.service).2.1 = parted := by
      rw [Session.close, if_neg running]
    unfold Session.handle Session.startLeaving
    rw [if_neg (not_not.2 waits.active), if_pos waits.active]
    show (false, ((leaving.close host.service).2.1.respond .farewell).2, _) = _
    rw [closed, Session.respond_of_answering parted waits.answering]
    rfl
  have served := visit.session.serve_frame host.service Inquiry.fits_disconnect
  have goodbye : Request.disconnect.mapTexts Text.cut = .disconnect := rfl
  rw [goodbye, handled] at served
  rw [talk_of_ends routes waits served rfl rfl]
  show ((parted.responses.send Response.farewell.encode).2.taken.drop
    visit.session.responses.taken.length) = _
  rw [Sink.send_of_healthy waits.healthy]
  exact List.drop_left

/-- **A client that was admitted is waited for.** -/
theorem waits_of_welcomed {request : ConnectRequest} {channels : Channels}
    (idle : host.workers[slot]? = some .idle) (opened : routes.openAll request = .ok channels)
    (healthy : channels.responses.Healthy) (served : channels.requests.bytes = [])
    (comes : channels.requests.isEnded = false)
    (numbered : ∀ other ∈ host.departed ++ host.visits, other.session.id ≠ host.nextId) :
    ((host.admitting slot request).step routes slot).Waits slot
      (host.greeted slot request channels) := by
  have sent : (channels.responses.send Response.welcome.encode).1.isOk = true := by
    rw [Sink.send_of_healthy healthy]
    rfl
  rw [step_of_welcomed idle opened sent]
  refine ⟨⟨?_, fun other member => ?_, fun place other there same => ?_⟩, rfl, rfl, rfl, ?_, served,
    comes⟩
  · exact List.getElem?_set_self (List.getElem?_eq_some_iff.1 idle).1
  · exact numbered other (List.mem_append_left _ member)
  · by_contra apart
    have before : host.workers[place]? = some (.serving other) := by
      rw [← there]
      exact (List.getElem?_set_ne (Ne.symm apart)).symm
    exact numbered other (List.mem_append_right _ ((host.mem_visits other).2 ⟨place, before⟩)) same
  · show (channels.responses.send Response.welcome.encode).2.Healthy
    rw [Sink.send_of_healthy healthy]
    exact healthy

end Host

/-! ## The client's side -/

namespace Client.Line

variable {σ : Type} (talk : σ → Bytes → Bytes × σ) (server : σ) (line : Line)

/-- A request that does not fit is refused, and nothing of it is sent. -/
theorem request_of_error {request : Request} {fault : WireFault}
    (refused : request.encode = .error fault) :
    line.request talk server request
      = (.error (.protocol fault),
          { line with responses := line.responses ++ (talk server []).1 }, (talk server []).2) := by
  unfold Line.request call ask
  rw [refused]
  dsimp only
  rw [List.drop_length]
  rfl

/-- **A request that is answered in kind** leaves nothing to be read. -/
theorem request_of_answer {request : Request} {response : Response} {next : σ}
    (fits : Kind.request.Fits request) (lossless : line.requests.Healthy)
    (nothing : line.responses = []) (meets : response.opcode = request.opcode)
    (answered : talk server (Kind.request.frame request) = (response.encode, next)) :
    line.request talk server request
      = (.ok (granted request response),
          { requests :=
              { line.requests with taken := line.requests.taken ++ Kind.request.frame request }
            responses := [] }, next) := by
  have written : request.encode = .ok (Kind.request.frame request) :=
    (Kind.request.encode_eq_ok_iff request _).2 ⟨fits, rfl⟩
  have read : Response.read response.encode = .message response [] := by
    obtain ⟨opcode, result⟩ := response
    cases opcode <;> rfl
  unfold Line.request call ask
  rw [written]
  dsimp only
  rw [Sink.send_of_healthy lossless]
  dsimp only
  rw [List.drop_left, answered, nothing]
  show (Except.map _ (hear _ _).1, (hear _ _).2, next) = _
  unfold hear
  rw [List.nil_append, read]
  dsimp only
  rw [if_pos meets]
  rfl

end Client.Line

/-! ## The whole conversation -/

namespace Host

variable {host : Host} {slot : Nat} {visit : Visit} (routes : Routes)

/-- **A client that is waited for has the turns of its session.** -/
theorem converse_of_waits (waits : host.Waits slot visit) (session : Session)
    (same : visit.session = { session with responses := visit.session.responses })
    (line : Client.Line) (lossless : line.requests.Healthy) (nothing : line.responses = [])
    (inquiries : List Inquiry) :
    line.converse (talk routes slot visit.session.id) host
        (inquiries.map Inquiry.request ++ [.disconnect])
      = Inquiry.turns session host.service inquiries
        ++ [{ result := .ok true, sent := [2], heard := [2, 0], unread := [] }] := by
  induction inquiries generalizing host visit session line with
  | nil =>
    have heard := talk_goodbye routes waits
    have answered : talk routes slot visit.session.id host (Kind.request.frame .disconnect)
        = (Response.farewell.encode, (talk routes slot visit.session.id host
            (Kind.request.frame .disconnect)).2) :=
      Prod.ext heard rfl
    have asked := line.request_of_answer _ host Inquiry.fits_disconnect lossless nothing rfl answered
    show line.converse _ host [.disconnect] = _
    unfold Client.Line.converse
    rw [asked]
    dsimp only
    rw [List.drop_left, heard]
    rfl
  | cons inquiry rest ih =>
    show line.converse _ host (inquiry.request :: (rest.map Inquiry.request ++ [.disconnect])) = _
    unfold Client.Line.converse Inquiry.turns
    by_cases short : inquiry.key.utf8ByteSize ≤ 41
    · obtain ⟨after, next, talked, waits', number, session', service'⟩ :=
        talk_inquiry routes waits same inquiry short
      have asked := line.request_of_answer _ host (inquiry.fits_request_iff.2 short) lossless nothing
        (inquiry.opcode_response _) talked
      let sent : Sink :=
        { line.requests with taken := line.requests.taken ++ Kind.request.frame inquiry.request }
      have onward := ih waits' _ session' { requests := sent, responses := [] } lossless rfl
      rw [number, service'] at onward
      rw [asked, if_neg (by omega)]
      dsimp only
      rw [List.drop_left, talked, inquiry.granted_response]
      exact congrArg (List.cons _) onward
    · have long : 41 < inquiry.key.utf8ByteSize := by omega
      obtain ⟨after, next, talked, waits', session', service'⟩ := talk_nothing routes waits
      have asked := line.request_of_error (talk routes slot visit.session.id) host
        (inquiry.encode_of_long long)
      rw [talked] at asked
      have onward := ih waits' session (by rw [session']; exact same)
        { line with responses := line.responses ++ [] } lossless (by rw [nothing]; rfl)
      rw [session', service'] at onward
      rw [asked, if_pos long]
      dsimp only
      rw [List.drop_length, talked, onward, nothing]
      rfl

/-- **What a client's calls return is what its session says.** A client that was admitted under a
number that nobody else has, over a request channel that takes everything and a response channel on
which every answer arrives, asks about any keys and then says goodbye. A key of more than 41 bytes
fails its call, which sends nothing and changes nothing for the calls after it. Every other call
sends one frame and returns what the session says to the key up to its first NUL, no if that is an
error; the goodbye succeeds. What came back for a call, two bytes, is what the call reads. -/
theorem converse_eq_turns (host : Host) (routes : Routes) (slot : Nat) (request : ConnectRequest)
    (channels : Channels) (idle : host.workers[slot]? = some .idle)
    (opened : routes.openAll request = .ok channels) (healthy : channels.responses.Healthy)
    (served : channels.requests.bytes = []) (comes : channels.requests.isEnded = false)
    (numbered : ∀ other ∈ host.departed ++ host.visits, other.session.id ≠ host.nextId)
    (line : Client.Line) (lossless : line.requests.Healthy) (nothing : line.responses = [])
    (inquiries : List Inquiry) :
    line.converse (talk routes slot host.nextId) ((host.admitting slot request).step routes slot)
        (inquiries.map Inquiry.request ++ [.disconnect])
      = Inquiry.turns (host.newcomer slot channels) (host.admitted routes request channels).service
          inquiries
        ++ [{ result := .ok true, sent := [2], heard := [2, 0], unread := [] }] := by
  have waits := waits_of_welcomed routes idle opened healthy served comes numbered
  have sent : (channels.responses.send Response.welcome.encode).1.isOk = true := by
    rw [Sink.send_of_healthy healthy]
    rfl
  have conversed := converse_of_waits routes waits (host.newcomer slot channels) rfl line lossless
    nothing inquiries
  have service : ((host.admitting slot request).step routes slot).service
      = (host.admitted routes request channels).service := by
    rw [step_of_welcomed idle opened sent]
  rw [service] at conversed
  exact conversed

/-- A stored key, a key that is too long, the stored key again with a tail behind NUL, and a key that
is watched no more. -/
theorem converse_eq_turns_cut_key :
    let table : Table := ({} : Table).edit (.put "a" "1")
    let host := ofService { store := { settings := {}, table := some table } }
    let channels : Channels := ⟨{}, {}, {}⟩
    let routes : Routes := ⟨fun _ _ => .ok {}, fun _ _ => .ok {}, fun _ _ => .ok {}⟩
    let request : ConnectRequest := ⟨"requests", "responses", "notifications"⟩
    let long := "a key of more than forty-one bytes does not fit"
    let inquiries : List Inquiry :=
      [.subscribe "a", .subscribe long, .unsubscribe "a\x00b", .unsubscribe "a"]
    host.workers[0]? = some .idle ∧ routes.openAll request = .ok channels
      ∧ channels.responses.Healthy ∧ channels.requests.bytes = []
      ∧ channels.requests.isEnded = false
      ∧ (∀ other ∈ host.departed ++ host.visits, other.session.id ≠ host.nextId)
      ∧ (Client.Line.converse (talk routes 0 1) ((host.admitting 0 request).step routes 0) {}
            (inquiries.map Inquiry.request ++ [.disconnect])).map (fun turn => (turn.result, turn.heard))
          = [(.ok true, [3, 1]), (.error (.protocol (.fieldTooLong 47 41)), []), (.ok true, [4, 0]),
              (.ok false, [4, 1]), (.ok true, [2, 0])] := by
  intro table host channels routes request long inquiries
  have healthy : channels.responses.Healthy := ⟨⟨rfl, nofun⟩, rfl⟩
  have numbered : ∀ other ∈ host.departed ++ host.visits, other.session.id ≠ host.nextId := by
    intro other member
    cases member
  refine ⟨rfl, rfl, healthy, rfl, rfl, numbered, ?_⟩
  have conversed := converse_eq_turns host routes 0 request channels rfl rfl healthy rfl rfl numbered
    {} healthy rfl inquiries
  have number : host.nextId = 1 := rfl
  rw [number] at conversed
  rw [conversed]
  rfl

end Host

end KeyWatch
