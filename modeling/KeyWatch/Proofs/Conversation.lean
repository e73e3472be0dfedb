/-
# Proofs.Conversation -- what a session says, and what it leaves behind

The bytes of a client make a number of requests and then an ending (`Request.script`); each request
has one reply (`Request.reply`), which depends on the keys that are stored and on those that the
client watches already. `Session.serve_spec` says that a session answers just so, and that closing
it restores the store it found: while it serves, the store differs by the marks of its own keys and
by nothing else (`Session.Works`), and giving up those keys takes every mark away.
-/
import KeyWatch.Proofs.Clientele
import KeyWatch.Proofs.Marked
import KeyWatch.Session.Serve

namespace KeyWatch

set_option autoImplicit false

/-! ## Requests and their replies -/

/-- How the requests of a client come to an end. -/
inductive Ending where
  /-- The client says goodbye. -/
  | disconnect
  /-- Something comes that is no request. -/
  | refused
  /-- The bytes end before the next request does. -/
  | cutShort
  deriving Repr, DecidableEq

/-- What is said to a client at the end: goodbye, if it said so. -/
def Ending.words : Ending → Bytes
  | .disconnect => Response.farewell.encode
  | _ => []

namespace Request

set_option linter.unusedVariables false in
/-- The requests that bytes make before the first thing that ends a session, and that ending. -/
def script (bytes : Bytes) : List Request × Ending :=
  match reading : read bytes with
  | .cutShort => ([], .cutShort)
  | .refused _ _ => ([], .refused)
  | .message request rest =>
    if request = .disconnect then ([], .disconnect)
    else (request :: (script rest).1, (script rest).2)
  termination_by bytes.length
  decreasing_by
    all_goals
      have arrived : bytes ≠ [] := by rintro rfl; simp [Request.read] at reading
      have shorter := Request.length_rest_read bytes arrived
      rwa [reading] at shorter

theorem script_of_cutShort {bytes : Bytes} (reading : read bytes = .cutShort) :
    script bytes = ([], .cutShort) := by
  rw [script]
  split <;> simp_all

theorem script_of_refused {bytes rest : Bytes} {fault : WireFault}
    (reading : read bytes = .refused fault rest) : script bytes = ([], .refused) := by
  rw [script]
  split <;> simp_all

theorem script_of_message {bytes rest : Bytes} {request : Request}
    (reading : read bytes = .message request rest) :
    script bytes = if request = .disconnect then ([], .disconnect)
      else (request :: (script rest).1, (script rest).2) := by
  rw [script]
  split <;> simp_all

/-- The reply to a request, and the keys that are watched from then on: a key is watched if it is
stored and the client watches it already or may watch more. -/
def reply (store : Store) (limit : Nat) (watched : List String) :
    Request → Response × List String
  | .disconnect => (.farewell, watched)
  | .subscribe key =>
    if store.finds key = .ok true ∧ (key ∈ watched ∨ watched.length < limit) then
      (.subscribed true, Session.noted watched key)
    else (.subscribed false, watched)
  | .unsubscribe key => (.unsubscribed (key ∈ watched), watched.filter (· != key))

/-- The replies to requests in order. -/
def replies (store : Store) (limit : Nat) : List String → List Request → List Response
  | _, [] => []
  | watched, request :: rest =>
    (request.reply store limit watched).1
      :: replies store limit (request.reply store limit watched).2 rest

/-- **Every request has one reply.** -/
theorem length_replies (store : Store) (limit : Nat) (watched : List String)
    (requests : List Request) :
    (replies store limit watched requests).length = requests.length := by
  induction requests generalizing watched with
  | nil => rfl
  | cons request rest ih => rw [replies, List.length_cons, List.length_cons, ih]

/-- All that is said to a client: the replies to its requests, and the words at the end. -/
def spoken (store : Store) (limit : Nat) (watched : List String) (bytes : Bytes) : Bytes :=
  (replies store limit watched (script bytes).1).flatMap Response.encode ++ (script bytes).2.words

theorem spoken_of_message (store : Store) (limit : Nat) (watched : List String)
    {bytes rest : Bytes} {request : Request} (reading : read bytes = .message request rest)
    (goesOn : request ≠ .disconnect) :
    spoken store limit watched bytes
      = (request.reply store limit watched).1.encode
        ++ spoken store limit (request.reply store limit watched).2 rest := by
  unfold spoken
  rw [script_of_message reading, if_neg goesOn, replies, List.flatMap_cons, List.append_assoc]

end Request

/-! ## Serving over marks -/

namespace Session

/-- A session that serves: it is active, and lists keys that are stored and that it watches. The
store and the channels are those that it found, but for the marks of its keys. -/
structure Works (session : Session) (service : Service) (store : Store) (exchange : Exchange) :
    Prop where
  active : session.stage = .active
  answering : session.isAnswering = true
  stored : ∀ key ∈ session.keys, store.finds key = .ok true
  marks : service.store = store.marked session.watcher session.keys
  exchange : service.exchange = exchange

/-- A session that is over: it lists nothing, and left the store as it found it and its channel
closed. -/
structure Gone (session : Session) (service : Service) (store : Store) (exchange : Exchange) :
    Prop where
  closed : session.stage = .closed
  nothing : session.keys = []
  store : service.store = store
  exchange : service.exchange = exchange.close session.channel

variable {session : Session} {service : Service} {store : Store} {exchange : Exchange}

/-- **A session that works lists what its client watches.** -/
theorem current_of_works (unknown : store.Unknown session.id)
    (works : session.Works service store exchange) :
    session.current service.store = session.keys := by
  have kept : ∀ keys : List String, (∀ key ∈ keys, key ∈ session.keys) →
      (session.prune service.store keys).1 = keys := by
    intro keys
    induction keys with
    | nil =>
      intro _
      rfl
    | cons key rest ih =>
      intro listed
      have watched : service.store.isWatched key session.id = .ok true := by
        rw [works.marks]
        refine (Store.isWatched_marked session.watcher unknown _ key).trans ?_
        rw [works.stored key (listed key (by simp))]
        show Except.ok (true && decide (key ∈ session.keys)) = _
        rw [decide_eq_true (listed key (by simp))]
        rfl
      have later := ih fun other member => listed other (List.mem_cons_of_mem _ member)
      unfold prune
      rw [watched]
      show key :: (session.prune service.store rest).1 = _
      rw [later]
  exact kept session.keys fun _ member => member

theorem settings_of_works (works : session.Works service store exchange) :
    service.store.settings = store.settings := by
  rw [works.marks]
  rfl

/-! ## One request -/

theorem respond_of_answering (session : Session) (answering : session.isAnswering = true)
    (response : Response) :
    session.respond response
      = ((session.responses.send response.encode).1.mapError .io,
          { session with responses := (session.responses.send response.encode).2 }) := by
  unfold respond
  rw [if_pos answering]

theorem answer_of_answering (session : Session) (answering : session.isAnswering = true)
    (service : Service) (response : Response) :
    session.answer service response
      = ((session.responses.send response.encode).1.isOk,
          { session with responses := (session.responses.send response.encode).2 }, service) := by
  unfold answer
  rw [respond_of_answering session answering]
  dsimp only
  cases (session.responses.send response.encode).1 <;> rfl

/-- Asking for a key has the reply that is due, and marks the key if it is granted. -/
theorem subscribe_of_works (unknown : store.Unknown session.id)
    (works : session.Works service store exchange) (key : String) :
    let reply := (Request.subscribe key).reply store session.maxKeys session.keys
    ∃ result after, session.subscribe service key = (result, { session with keys := reply.2 }, after)
      ∧ .subscribed (result.toOption.getD false) = reply.1
      ∧ Works { session with keys := reply.2 } after store exchange := by
  have current := current_of_works unknown works
  have settings := settings_of_works works
  have finds : service.store.finds key = store.finds key := by
    rw [works.marks, Store.finds_marked]
  obtain ⟨told, sameStore, sameExchange, cases⟩ := @subscribe_cases session service works.active key
  rw [current, finds] at cases
  unfold Request.reply
  rcases cases with ⟨absent, full, done⟩ | ⟨room, done⟩
  · have refused : ¬ (store.finds key = .ok true
        ∧ (key ∈ session.keys ∨ session.keys.length < session.maxKeys)) := by
      rintro ⟨-, here | free⟩
      · exact absent here
      · exact absurd free (Nat.not_lt.2 full)
    simp only [if_neg refused]
    refine ⟨_, _, done, rfl, works.active, works.answering, works.stored, ?_, ?_⟩
    · rw [sameStore]
      exact works.marks
    · rw [sameExchange]
      exact works.exchange
  · have exchanged : (told.after (service.store.settings.keyFault? key)
        [.watch key session.watcher]).exchange = exchange := by
      rw [told.after_exchange_of_quiet fun _ => rfl, sameExchange, works.exchange]
    have stored : (told.after (service.store.settings.keyFault? key)
        [.watch key session.watcher]).store
          = store.marked session.watcher
            (if store.finds key = .ok true then key :: session.keys else session.keys) := by
      rw [Service.after_store, sameStore, settings, works.marks]
      exact Store.after_watch_marked session.watcher unknown session.keys key
    by_cases granted : store.finds key = .ok true
    · simp only [granted, if_true, true_and, if_pos room] at done stored ⊢
      refine ⟨_, _, done, rfl, works.active, works.answering, fun other member => ?_, ?_, exchanged⟩
      · rcases (mem_noted _ _ _).1 member with listed | rfl
        · exact works.stored other listed
        · exact granted
      · rw [stored]
        refine Store.marked_congr _ (fun other => ?_) store
        rw [mem_noted, List.mem_cons, or_comm]
    · simp only [granted, if_false, false_and] at done stored ⊢
      refine ⟨_, _, done, ?_, works.active, works.answering, works.stored, stored, exchanged⟩
      cases found : store.finds key with
      | error error => rfl
      | ok existed =>
        cases existed with
        | false => rfl
        | true => exact absurd found granted

/-- Giving a key back has the reply that is due, and takes its mark away. -/
theorem unsubscribe_of_works (unknown : store.Unknown session.id)
    (works : session.Works service store exchange) (key : String) :
    let reply := (Request.unsubscribe key).reply store session.maxKeys session.keys
    ∃ result after,
      session.unsubscribe service key = (result, { session with keys := reply.2 }, after)
      ∧ .unsubscribed (result.toOption.getD false) = reply.1
      ∧ Works { session with keys := reply.2 } after store exchange := by
  let left := service.after (service.store.settings.keyFault? key) [.unwatch key session.id]
  have watched : service.store.isWatched key session.id
      = (store.finds key).map fun stored => stored && decide (key ∈ session.keys) := by
    rw [works.marks]
    exact Store.isWatched_marked session.watcher unknown session.keys key
  have remain : Works { session with keys := session.keys.filter (· != key) } left store exchange := by
    refine ⟨works.active, works.answering, fun other member => ?_, ?_, ?_⟩
    · exact works.stored other (List.mem_of_mem_filter member)
    · rw [Service.after_store, settings_of_works works, works.marks]
      exact Store.after_unwatch_marked session.watcher unknown session.keys
        works.stored key
    · rw [service.after_exchange_of_quiet fun _ => rfl, works.exchange]
  unfold Request.reply unsubscribe
  rw [if_neg (not_not.2 works.active), Service.apply_unwatch, watched]
  -- a key that is not stored was not listed
  have absent : store.finds key ≠ .ok true → key ∉ session.keys :=
    fun other member => other (works.stored key member)
  cases found : store.finds key with
  | error error =>
    have none : key ∉ session.keys := absent (by simp [found])
    have same := List.filter_bne_eq_self_of_not_mem none
    rw [same] at remain
    refine ⟨.error error, left, ?_, ?_, ?_⟩
    · simp only [same]
      rfl
    · simp [none, Except.toOption]
    · simp only [same]
      exact remain
  | ok stored =>
    refine ⟨.ok (stored && decide (key ∈ session.keys)), left, rfl, ?_, remain⟩
    cases stored with
    | true => simp [Except.toOption]
    | false =>
      have none : key ∉ session.keys := absent (by simp [found])
      simp [none, Except.toOption]

/-- **A request has its reply,** and the session works on. -/
theorem handle_of_works (unknown : store.Unknown session.id)
    (works : session.Works service store exchange) {request : Request}
    (goesOn : request ≠ .disconnect) :
    let reply := request.reply store session.maxKeys session.keys
    let sent := session.responses.send reply.1.encode
    ∃ after, session.handle service request
        = (sent.1.isOk, { session with keys := reply.2, responses := sent.2 }, after)
      ∧ Works { session with keys := reply.2, responses := sent.2 } after store exchange := by
  unfold handle
  rw [if_neg (not_not.2 works.active)]
  cases request with
  | disconnect => exact absurd rfl goesOn
  | subscribe key =>
    obtain ⟨result, after, done, answer, next⟩ := subscribe_of_works unknown works key
    refine ⟨after, ?_, next.active, next.answering, next.stored, next.marks, next.exchange⟩
    dsimp only
    rw [done]
    dsimp only
    rw [answer, answer_of_answering _ next.answering]
  | unsubscribe key =>
    obtain ⟨result, after, done, answer, next⟩ := unsubscribe_of_works unknown works key
    refine ⟨after, ?_, next.active, next.answering, next.stored, next.marks, next.exchange⟩
    dsimp only
    rw [done]
    dsimp only
    rw [answer, answer_of_answering _ next.answering]

/-! ## The end -/

/-- Giving up all marked keys takes every mark away. -/
theorem giveUp_marked (unknown : store.Unknown session.id) (keys marks : List String)
    (service : Service) (stored : ∀ key ∈ marks, store.finds key = .ok true)
    (among : ∀ key ∈ marks, key ∈ keys)
    (marked : service.store = store.marked session.watcher marks) :
    (session.giveUp service keys).store = store
      ∧ (session.giveUp service keys).exchange = service.exchange := by
  induction keys generalizing marks service with
  | nil =>
    have none : marks = [] := List.eq_nil_iff_forall_not_mem.2 fun key member => by
      cases among key member
    refine ⟨?_, rfl⟩
    show service.store = store
    rw [marked, none, Store.marked_nil]
  | cons key rest ih =>
    obtain ⟨next, sameStore, sameExchange, onward⟩ := session.giveUp_cons service key rest
    have fewer : next.store = store.marked session.watcher (marks.filter (· != key)) := by
      rw [sameStore, marked]
      exact Store.after_unwatch_marked session.watcher unknown marks stored key
    obtain ⟨restored, kept⟩ := ih (marks.filter (· != key)) next
      (fun other member => stored other (List.mem_of_mem_filter member))
      (fun other member => by
        obtain ⟨listed, apart⟩ := List.mem_filter.1 member
        exact (List.mem_cons.1 (among other listed)).resolve_left (bne_iff_ne.1 apart))
      fewer
    rw [onward]
    exact ⟨restored, kept.trans sameExchange⟩

/-- **A session that is closed while it works is gone.** -/
theorem close_of_marked (unknown : store.Unknown session.id) (running : session.stage ≠ .closed)
    (stored : ∀ key ∈ session.keys, store.finds key = .ok true)
    (marked : service.store = store.marked session.watcher session.keys) :
    ∃ after : Service, session.close service
        = (true, { session with stage := .closed, keys := [], isClosed := true }, after)
      ∧ after.store = store ∧ after.exchange = service.exchange.close session.channel := by
  obtain ⟨restored, kept⟩ := giveUp_marked unknown session.keys session.keys service stored
    (fun _ member => member) marked
  rw [close, if_neg running]
  refine ⟨_, rfl, restored, ?_⟩
  show (session.giveUp service session.keys).exchange.close session.channel = _
  rw [kept]

/-- **A goodbye closes the session, and is answered.** -/
theorem handle_disconnect (unknown : store.Unknown session.id)
    (works : session.Works service store exchange) :
    let sent := session.responses.send Response.farewell.encode
    let parted : Session :=
      { session with stage := .closed, keys := [], isClosed := true, responses := sent.2 }
    ∃ after, session.handle service .disconnect = (false, parted, after)
      ∧ Gone parted after store exchange := by
  let leaving : Session := { session with stage := .disconnecting }
  have running : leaving.stage ≠ .closed := by
    show Stage.disconnecting ≠ .closed
    decide
  obtain ⟨after, done, restored, closed⟩ :=
    @close_of_marked leaving service store unknown running works.stored works.marks
  have said := respond_of_answering
    { leaving with stage := .closed, keys := [], isClosed := true } works.answering .farewell
  refine ⟨after, ?_, rfl, rfl, restored, ?_⟩
  · unfold handle startLeaving
    rw [if_neg (not_not.2 works.active), if_pos works.active]
    show (false, ((leaving.close service).2.1.respond .farewell).2, (leaving.close service).2.2) = _
    rw [done, said]
  · rw [closed, works.exchange]

/-! ## The whole conversation -/

/-- What is left of a session to which some words are due: it said them from their front, and all of
them if its responses are taken, and it is gone. -/
structure Leaves (session : Session) (due : Bytes) (parted : Session) (left : Service)
    (store : Store) (exchange : Exchange) : Prop where
  id : parted.id = session.id
  slot : parted.slot = session.slot
  channel : parted.channel = session.channel
  said : ∃ front, front <+: due ∧ parted.responses.taken = session.responses.taken ++ front
    ∧ (session.responses.Healthy → front = due)
  gone : parted.Gone left store exchange

theorem leaves_of_works (unknown : store.Unknown session.id)
    (works : session.Works service store exchange) :
    session.Leaves [] (session.close service).2.1 (session.close service).2.2 store exchange := by
  have running : session.stage ≠ .closed := by
    rw [works.active]
    decide
  obtain ⟨after, done, restored, closed⟩ :=
    close_of_marked unknown running works.stored works.marks
  rw [done]
  refine ⟨rfl, rfl, rfl, ⟨[], List.prefix_refl _, by simp, fun _ => rfl⟩, rfl, rfl, restored, ?_⟩
  rw [closed, works.exchange]

/-- What is said after one answer is due after it. -/
theorem Leaves.of_answer {words due : Bytes} {keys : List String} {parted : Session} {left : Service}
    (sent : (session.responses.send words).1.isOk = true)
    (leaves : Leaves { session with keys, responses := (session.responses.send words).2 } due parted
      left store exchange) : session.Leaves (words ++ due) parted left store exchange := by
  obtain ⟨front, -, taken, whole⟩ := session.responses.send_taken words
  obtain ⟨rest, begins, joined, all⟩ := leaves.said
  refine ⟨leaves.id, leaves.slot, leaves.channel, ⟨words ++ rest, ?_, ?_, ?_⟩, leaves.gone⟩
  · exact (List.prefix_append_right_inj words).2 begins
  · rw [joined, taken, whole sent, List.append_assoc]
  · intro healthy
    refine congrArg (words ++ ·) (all ?_)
    show (session.responses.send words).2.Healthy
    rw [Sink.send_of_healthy healthy]
    exact healthy

/-- After an answer that failed nothing more is said. -/
theorem Leaves.of_failure {words due : Bytes} {keys : List String} {parted : Session} {left : Service}
    (failed : (session.responses.send words).1.isOk = false)
    (leaves : Leaves { session with keys, responses := (session.responses.send words).2 } [] parted
      left store exchange) : session.Leaves (words ++ due) parted left store exchange := by
  obtain ⟨front, begins, taken, -⟩ := session.responses.send_taken words
  obtain ⟨rest, none, joined, -⟩ := leaves.said
  rw [List.prefix_nil] at none
  refine ⟨leaves.id, leaves.slot, leaves.channel, ⟨front, ?_, ?_, ?_⟩, leaves.gone⟩
  · exact begins.trans (List.prefix_append _ _)
  · rw [joined, none, List.append_nil, taken]
  · intro healthy
    rw [Sink.send_of_healthy healthy] at failed
    cases failed

/-- **A session says what is due, and leaves the store as it found it.** It waits for more only where
the bytes end inside a request. -/
theorem serve_spec (unknown : store.Unknown session.id)
    (works : session.Works service store exchange) (bytes : Bytes) :
    let after := session.serve service bytes
    let closed := after.session.close after.service
    (after.goesOn = true → (Request.script bytes).2 = .cutShort)
      ∧ session.Leaves (Request.spoken store session.maxKeys session.keys bytes)
        closed.2.1 closed.2.2 store exchange := by
  fun_induction serve session service bytes with
  | case1 session service bytes reading =>
    have due : Request.spoken store session.maxKeys session.keys bytes = [] := by
      rw [Request.spoken, Request.script_of_cutShort reading]
      rfl
    rw [due]
    refine ⟨fun _ => ?_, leaves_of_works unknown works⟩
    rw [Request.script_of_cutShort reading]
  | case2 session service bytes fault rest reading =>
    have due : Request.spoken store session.maxKeys session.keys bytes = [] := by
      rw [Request.spoken, Request.script_of_refused reading]
      rfl
    rw [due]
    exact ⟨nofun, leaves_of_works unknown works⟩
  | case3 session service bytes request rest reading next after handled ih =>
    have goesOn : request ≠ .disconnect := by
      rintro rfl
      obtain ⟨_, done, _⟩ := handle_disconnect unknown works
      rw [done] at handled
      cases handled
    obtain ⟨left, done, still⟩ := handle_of_works unknown works goesOn
    simp only [done, Prod.mk.injEq] at handled
    obtain ⟨sent, rfl, rfl⟩ := handled
    obtain ⟨ending, leaves⟩ := ih unknown still
    rw [Request.script_of_message reading, if_neg goesOn,
      Request.spoken_of_message _ _ _ reading goesOn]
    exact ⟨ending, leaves.of_answer sent⟩
  | case4 session service bytes request rest reading next after handled =>
    refine ⟨nofun, ?_⟩
    by_cases goodbye : request = .disconnect
    · subst goodbye
      obtain ⟨left, done, gone⟩ := handle_disconnect unknown works
      simp only [done, Prod.mk.injEq] at handled
      obtain ⟨-, rfl, rfl⟩ := handled
      have due : Request.spoken store session.maxKeys session.keys bytes
          = Response.farewell.encode := by
        rw [Request.spoken, Request.script_of_message reading, if_pos rfl]
        rfl
      obtain ⟨front, begins, taken, -⟩ := session.responses.send_taken Response.farewell.encode
      rw [due, close, if_pos gone.closed]
      refine ⟨rfl, rfl, rfl, ⟨front, begins, taken, fun healthy => ?_⟩, gone⟩
      rw [Sink.send_of_healthy healthy] at taken
      exact (List.append_cancel_left taken).symm
    · obtain ⟨left, done, still⟩ := handle_of_works unknown works goodbye
      simp only [done, Prod.mk.injEq] at handled
      obtain ⟨failed, rfl, rfl⟩ := handled
      rw [Request.spoken_of_message _ _ _ reading goodbye]
      refine Leaves.of_failure failed (leaves_of_works ?_ still)
      exact unknown

end Session

end KeyWatch
