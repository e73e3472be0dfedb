/-
# Proofs.Registrar -- channels that are read in whole frames

The registration channel and the notification channels carry frames of one size each. Whoever reads
them takes whole blocks of that size (`blocks`), whatever is in them, so a block that is no message
does not shift the ones behind it. A registrar passes over such a block
(`Host.takeRegistrations_eq`), a listener stops at it (`Client.listen_spec`).

The queue of a host holds whatever is submitted, whereas whoever submits to a `Server` waits for
room. A `Clerk` reads the registration channel of a server, one step at a time, while workers and
resets go on. What it will have submitted and answered in the end stays the same with every step,
and its work gets less (`Clerk.of_next?`); so it ends, unless the queue stays full, and submits what
a registrar queues (`Clerk.settles`).
-/
import KeyWatch.Client.Listener
import KeyWatch.Proofs.Decoding
import KeyWatch.Proofs.ServerSlots

namespace KeyWatch

set_option autoImplicit false

/-! ## Blocks -/

/-- The whole blocks of a size that bytes consist of. What is left behind the last is none. -/
def blocks (size : Nat) (bytes : Bytes) : List Bytes :=
  (List.range (bytes.length / size)).map fun place => (bytes.drop (place * size)).take size

section Blocks

variable {size : Nat} {bytes : Bytes}

theorem length_of_mem_blocks : ∀ block ∈ blocks size bytes, block.length = size := by
  intro block member
  obtain ⟨place, among, rfl⟩ := List.mem_map.1 member
  have whole : (place + 1) * size ≤ bytes.length :=
    (Nat.mul_le_mul_right size (List.mem_range.1 among)).trans (Nat.div_mul_le_self _ _)
  rw [Nat.succ_mul] at whole
  rw [List.length_take, List.length_drop]
  omega

theorem blocks_of_short (short : bytes.length < size) : blocks size bytes = [] := by
  rw [blocks, Nat.div_eq_of_lt short]
  rfl

theorem blocks_of_whole (some : 0 < size) (whole : size ≤ bytes.length) :
    blocks size bytes = bytes.take size :: blocks size (bytes.drop size) := by
  have count : bytes.length / size = (bytes.drop size).length / size + 1 := by
    rw [List.length_drop, Nat.div_eq_sub_div some whole]
  unfold blocks
  rw [count, List.range_succ_eq_map, List.map_cons, List.map_map, Nat.zero_mul, List.drop_zero]
  congr 1
  refine List.map_congr_left fun place _ => ?_
  rw [List.drop_drop, Function.comp, Nat.succ_mul, Nat.add_comm]

end Blocks

/-- The messages of the frames that are sound, in order; the others are passed over. -/
inductive Kind.Picks (kind : Kind) : List Bytes → List kind.Message → Prop
  | nothing : Picks kind [] []
  | message {frame : Bytes} {message : kind.Message} {frames : List Bytes}
      {messages : List kind.Message} (means : kind.Means frame message)
      (more : Picks kind frames messages) : Picks kind (frame :: frames) (message :: messages)
  | pass {frame : Bytes} {frames : List Bytes} {messages : List kind.Message}
      (unsound : ¬ kind.Sound frame) (more : Picks kind frames messages) :
      Picks kind (frame :: frames) messages

/-! ## Connect requests -/

namespace Registration

/-- The requests among frames. -/
def requestsIn (frames : List Bytes) : List ConnectRequest :=
  frames.filterMap fun frame => (ConnectRequest.decode frame).toOption

/-- The warnings about the frames that are no requests. -/
def complaintsIn (frames : List Bytes) : List Warning :=
  frames.filterMap fun frame =>
    match ConnectRequest.decode frame with
    | .ok _ => none
    | .error fault => some (.malformedConnect fault)

/-- The frames that are dealt with: all, or those before the first request if none is accepted. -/
def dealtWith : Bool → List Bytes → List Bytes
  | true, frames => frames
  | false, frames => frames.takeWhile fun frame => !(ConnectRequest.decode frame).isOk

/-- What becomes of a registration channel of such frames. -/
def conclusion (isAccepting : Bool) (ending : IoFault) (frames : List Bytes) : Except Error Unit :=
  if isAccepting = false ∧ requestsIn frames ≠ [] then .error (.session .shutDown)
  else if ending = .endOfStream then .ok ()
  else .error (.io ending)

variable {isAccepting : Bool} {ending : IoFault} {frame : Bytes}

section Malformed

variable {fault : WireFault} (malformed : ConnectRequest.decode frame = .error fault)
  (rest : List Bytes)
include malformed

theorem requestsIn_cons_malformed : requestsIn (frame :: rest) = requestsIn rest := by
  rw [requestsIn, List.filterMap_cons, malformed]
  rfl

theorem complaintsIn_cons_malformed :
    complaintsIn (frame :: rest) = .malformedConnect fault :: complaintsIn rest := by
  rw [complaintsIn, List.filterMap_cons, malformed]
  rfl

theorem dealtWith_cons_malformed :
    dealtWith isAccepting (frame :: rest) = frame :: dealtWith isAccepting rest := by
  cases isAccepting with
  | true => rfl
  | false =>
    rw [dealtWith, dealtWith, List.takeWhile_cons_of_pos (by rw [malformed]; rfl)]

theorem conclusion_cons_malformed :
    conclusion isAccepting ending (frame :: rest) = conclusion isAccepting ending rest := by
  rw [conclusion, conclusion, requestsIn_cons_malformed malformed]

end Malformed

section Valid

variable {request : ConnectRequest} (valid : ConnectRequest.decode frame = .ok request)
  (rest : List Bytes)
include valid

theorem requestsIn_cons_valid : requestsIn (frame :: rest) = request :: requestsIn rest := by
  rw [requestsIn, List.filterMap_cons, valid]
  rfl

theorem complaintsIn_cons_valid : complaintsIn (frame :: rest) = complaintsIn rest := by
  rw [complaintsIn, List.filterMap_cons, valid]
  rfl

theorem dealtWith_cons_valid : dealtWith false (frame :: rest) = [] := by
  rw [dealtWith, List.takeWhile_cons_of_neg (by rw [valid]; exact Bool.noConfusion)]

theorem conclusion_cons_valid :
    conclusion false ending (frame :: rest) = .error (.session .shutDown) := by
  rw [conclusion, requestsIn_cons_valid valid, if_pos ⟨rfl, List.cons_ne_nil _ _⟩]

end Valid

theorem dealtWith_nil : dealtWith isAccepting [] = [] := by
  cases isAccepting <;> rfl

theorem conclusion_nil : conclusion isAccepting ending []
    = if ending = .endOfStream then .ok () else .error (.io ending) :=
  if_neg fun shut => shut.2 rfl

theorem conclusion_of_accepting (frames : List Bytes) :
    conclusion true ending frames = if ending = .endOfStream then .ok () else .error (.io ending) :=
  if_neg fun shut => Bool.noConfusion shut.1

/-- **A frame is a request or is complained of.** -/
theorem length_requestsIn_add_complaintsIn (frames : List Bytes) :
    (requestsIn frames).length + (complaintsIn frames).length = frames.length := by
  induction frames with
  | nil => rfl
  | cons frame rest ih =>
    cases decoded : ConnectRequest.decode frame with
    | error fault =>
      rw [requestsIn_cons_malformed decoded, complaintsIn_cons_malformed decoded]
      exact congrArg (· + 1) ih
    | ok request =>
      rw [requestsIn_cons_valid decoded, complaintsIn_cons_valid decoded, List.length_cons,
        List.length_cons, ← ih, Nat.add_right_comm]

theorem exists_decode_iff (whole : frame.length = connectSize) :
    (∃ request, ConnectRequest.decode frame = .ok request) ↔ Kind.connect.Sound frame := by
  rw [← Kind.exists_means_iff whole]
  exact exists_congr (ConnectRequest.decode_eq_ok_iff whole)

/-- **The requests among frames are the messages of the sound ones.** -/
theorem picks_requestsIn {frames : List Bytes}
    (whole : ∀ frame ∈ frames, frame.length = connectSize) :
    Kind.connect.Picks frames (requestsIn frames) := by
  induction frames with
  | nil => exact .nothing
  | cons frame rest ih =>
    obtain ⟨size, others⟩ := List.forall_mem_cons.1 whole
    cases decoded : ConnectRequest.decode frame with
    | error fault =>
      rw [requestsIn_cons_malformed decoded]
      refine .pass (fun sound => ?_) (ih others)
      obtain ⟨request, valid⟩ := (exists_decode_iff size).2 sound
      cases decoded.symm.trans valid
    | ok request =>
      rw [requestsIn_cons_valid decoded]
      exact .message ((ConnectRequest.decode_eq_ok_iff size request).1 decoded) (ih others)

/-- An open registrar deals with the whole channel, and so does one that finds no request. -/
theorem of_accepting {frames : List Bytes}
    (accepting : isAccepting = true ∨ requestsIn frames = []) :
    dealtWith isAccepting frames = frames
      ∧ conclusion isAccepting .endOfStream frames = .ok () := by
  cases isAccepting with
  | true => exact ⟨rfl, conclusion_of_accepting frames⟩
  | false =>
    have none : requestsIn frames = [] := accepting.resolve_left Bool.noConfusion
    refine ⟨List.takeWhile_eq_self_iff.2 fun frame member => ?_, if_neg fun shut => shut.2 none⟩
    cases decoded : ConnectRequest.decode frame with
    | error fault => rfl
    | ok request =>
      have found : request ∈ requestsIn frames :=
        List.mem_filterMap.2 ⟨frame, member, by rw [decoded]; rfl⟩
      rw [none] at found
      cases found

/-- After a shutdown, a channel is dealt with up to its first request. -/
theorem of_first {front : List Bytes} (whole : ∀ earlier ∈ front, earlier.length = connectSize)
    (unsound : ∀ earlier ∈ front, ¬ Kind.connect.Sound earlier) {request : ConnectRequest}
    (valid : ConnectRequest.decode frame = .ok request) (ending : IoFault) (rest : List Bytes) :
    dealtWith false (front ++ frame :: rest) = front ∧ requestsIn front = []
      ∧ conclusion false ending (front ++ frame :: rest) = .error (.session .shutDown) := by
  induction front with
  | nil => exact ⟨dealtWith_cons_valid valid rest, rfl, conclusion_cons_valid valid rest⟩
  | cons earlier front ih =>
    obtain ⟨size, whole⟩ := List.forall_mem_cons.1 whole
    obtain ⟨here, unsound⟩ := List.forall_mem_cons.1 unsound
    obtain ⟨dealt, none, shut⟩ := ih whole unsound
    cases decoded : ConnectRequest.decode earlier with
    | ok request => exact absurd ((exists_decode_iff size).1 ⟨request, decoded⟩) here
    | error fault =>
      rw [List.cons_append, dealtWith_cons_malformed decoded, requestsIn_cons_malformed decoded,
        conclusion_cons_malformed decoded, dealt]
      exact ⟨rfl, none, shut⟩

end Registration

open Registration

namespace Host

variable (host : Host)

/-- A host with more requests in its queue and more warnings. -/
def registered (requests : List ConnectRequest) (warnings : List Warning) : Host :=
  { host with
    queue := host.queue ++ requests
    service := { host.service with warnings := host.service.warnings ++ warnings } }

theorem registered_nil : host.registered [] [] = host := by
  rw [registered, List.append_nil, List.append_nil]

theorem registered_registered (requests requests' : List ConnectRequest)
    (warnings warnings' : List Warning) :
    (host.registered requests warnings).registered requests' warnings'
      = host.registered (requests ++ requests') (warnings ++ warnings') := by
  simp only [registered, List.append_assoc]

/-- What a registrar answers and leaves at the end of a channel of such frames. -/
def registration (ending : IoFault) (frames : List Bytes) : Except Error Unit × Host :=
  let dealt := dealtWith host.isAccepting frames
  (conclusion host.isAccepting ending frames,
    host.registered (requestsIn dealt) (complaintsIn dealt))

variable {ending : IoFault} {frame : Bytes} {host}

theorem registration_nil : host.registration ending []
    = (if ending = .endOfStream then .ok () else .error (.io ending), host) := by
  rw [registration, conclusion_nil, dealtWith_nil]
  exact Prod.ext rfl host.registered_nil

theorem registration_cons_malformed {fault : WireFault}
    (malformed : ConnectRequest.decode frame = .error fault) (rest : List Bytes) :
    host.registration ending (frame :: rest)
      = { host with service := host.service.warn (.malformedConnect fault) }.registration
          ending rest := by
  have warned : { host with service := host.service.warn (.malformedConnect fault) }
      = host.registered [] [.malformedConnect fault] := by
    rw [registered, List.append_nil]
    rfl
  rw [warned, registration, conclusion_cons_malformed malformed,
    dealtWith_cons_malformed malformed, requestsIn_cons_malformed malformed,
    complaintsIn_cons_malformed malformed, registration, registered_registered]
  rfl

theorem registration_cons_refused {request : ConnectRequest} {error : Error}
    (valid : ConnectRequest.decode frame = .ok request)
    (refused : host.submit request = .error error) (rest : List Bytes) :
    host.registration ending (frame :: rest) = (.error error, host) := by
  rw [registration]
  cases accepting : host.isAccepting with
  | true => simp [submit, accepting] at refused
  | false =>
    obtain rfl : Error.session .shutDown = error := by simpa [submit, accepting] using refused
    rw [conclusion_cons_valid valid, dealtWith_cons_valid valid]
    exact Prod.ext rfl host.registered_nil

theorem registration_cons_accepted {request : ConnectRequest} {after : Host}
    (valid : ConnectRequest.decode frame = .ok request)
    (accepted : host.submit request = .ok after) (rest : List Bytes) :
    host.registration ending (frame :: rest) = after.registration ending rest := by
  rw [registration]
  cases accepting : host.isAccepting with
  | false => simp [submit, accepting] at accepted
  | true =>
    obtain rfl : host.registered [request] [] = after := by
      simpa [submit, accepting, registered] using accepted
    have same : (host.registered [request] []).isAccepting = true := accepting
    rw [registration, same, conclusion_of_accepting, conclusion_of_accepting,
      registered_registered, dealtWith, dealtWith, requestsIn_cons_valid valid,
      complaintsIn_cons_valid valid]
    rfl

/-- **A registrar deals with one block after another.** -/
theorem takeRegistrations_eq (host : Host) (ending : IoFault) (bytes : Bytes) :
    host.takeRegistrations ending bytes
      = host.registration ending (blocks connectSize bytes) := by
  have some : 0 < connectSize := by decide
  fun_induction takeRegistrations host ending bytes with
  | case1 host bytes short ended => rw [blocks_of_short short, registration_nil, if_pos ended]
  | case2 host bytes short broken => rw [blocks_of_short short, registration_nil, if_neg broken]
  | case3 host bytes long fault malformed _ ih =>
    rw [blocks_of_whole some (Nat.le_of_not_lt long), registration_cons_malformed malformed]
    exact ih
  | case4 host bytes long request valid error refused =>
    rw [blocks_of_whole some (Nat.le_of_not_lt long), registration_cons_refused valid refused]
  | case5 host bytes long request valid after accepted ih =>
    rw [blocks_of_whole some (Nat.le_of_not_lt long), registration_cons_accepted valid accepted]
    exact ih

end Host

/-! ## A queue with an end -/

/-- Whoever reads the registration channel of a server. -/
inductive Clerk where
  | reading (bytes : Bytes)
  /-- It has a request in its hands, and waits until the queue has room for it. -/
  | holding (request : ConnectRequest) (bytes : Bytes)
  | done (result : Except Error Unit)

namespace Clerk

/-- What a clerk does next, and the steps that this takes in the server, unless it is done. -/
def next? (isAccepting : Bool) (ending : IoFault) (server : Server) :
    Clerk → Option (Clerk × List Server.Step)
  | reading bytes =>
    if bytes.length < connectSize then
      some (done (if ending = .endOfStream then .ok () else .error (.io ending)), [])
    else
      match ConnectRequest.decode (bytes.take connectSize) with
      | .error fault =>
        some (reading (bytes.drop connectSize),
          [.elsewhere (server.service.warn (.malformedConnect fault))])
      | .ok request =>
        if isAccepting then some (holding request (bytes.drop connectSize), [])
        else some (done (.error (.session .shutDown)), [])
  | holding request bytes => some (reading bytes, [.submit request])
  | done _ => none

/-- What may have happened in a server since a clerk began to read: it has gone on a number of times,
and what else has been done in the server submits nothing. -/
inductive Runs (isAccepting : Bool) (ending : IoFault) (bytes : Bytes) (start : Server) :
    Nat → List Server.Step → Server → Clerk → Prop
  | start : Runs isAccepting ending bytes start 0 [] start (reading bytes)
  | own {count : Nat} {steps taken : List Server.Step} {server after : Server} {clerk next : Clerk}
      (ran : Runs isAccepting ending bytes start count steps server clerk)
      (goes : clerk.next? isAccepting ending server = some (next, taken))
      (moved : server.run taken = some after) :
      Runs isAccepting ending bytes start (count + 1) (steps ++ taken) after next
  | other {count : Nat} {steps : List Server.Step} {server after : Server} {clerk : Clerk}
      {step : Server.Step} (ran : Runs isAccepting ending bytes start count steps server clerk)
      (quiet : step.request? = none) (moved : server.step? step = some after) :
      Runs isAccepting ending bytes start count (steps ++ [step]) after clerk

/-! ### What is still to come -/

/-- The requests that a clerk will still submit. -/
def ahead (isAccepting : Bool) : Clerk → List ConnectRequest
  | reading bytes => requestsIn (dealtWith isAccepting (blocks connectSize bytes))
  | holding request bytes =>
    request :: requestsIn (dealtWith isAccepting (blocks connectSize bytes))
  | done _ => []

/-- What a clerk will answer. -/
def outcome (isAccepting : Bool) (ending : IoFault) : Clerk → Except Error Unit
  | reading bytes => conclusion isAccepting ending (blocks connectSize bytes)
  | holding _ bytes => conclusion isAccepting ending (blocks connectSize bytes)
  | done result => result

/-- How often a clerk can still go on, at most. -/
def work : Clerk → Nat
  | reading bytes => 2 * (blocks connectSize bytes).length + 1
  | holding _ bytes => 2 * (blocks connectSize bytes).length + 2
  | done _ => 0

variable {isAccepting : Bool} {ending : IoFault} {bytes : Bytes} {start server after : Server}
  {clerk next : Clerk} {count : Nat} {steps taken : List Server.Step}

/-- **A clerk that goes on has less to do,** and in the end it will have submitted and answered the
same. -/
theorem of_next? (goes : clerk.next? isAccepting ending server = some (next, taken)) :
    taken.filterMap Server.Step.request? ++ next.ahead isAccepting = clerk.ahead isAccepting
      ∧ next.outcome isAccepting ending = clerk.outcome isAccepting ending
      ∧ next.work < clerk.work := by
  cases clerk with
  | reading bytes =>
    rw [next?] at goes
    split at goes
    · next short =>
      cases goes
      rw [ahead, outcome, work, blocks_of_short short, dealtWith_nil, conclusion_nil]
      exact ⟨rfl, rfl, Nat.zero_lt_one⟩
    · next long =>
      rw [ahead, outcome, work, blocks_of_whole (by decide) (Nat.le_of_not_lt long)]
      split at goes
      · next fault malformed =>
        cases goes
        rw [dealtWith_cons_malformed malformed, requestsIn_cons_malformed malformed,
          conclusion_cons_malformed malformed]
        exact ⟨rfl, rfl, by simp only [work, List.length_cons]; omega⟩
      · next request valid =>
        cases isAccepting with
        | true =>
          cases goes
          rw [dealtWith, requestsIn_cons_valid valid, conclusion_of_accepting]
          exact ⟨rfl, conclusion_of_accepting _, by simp only [work, List.length_cons]; omega⟩
        | false =>
          cases goes
          rw [dealtWith_cons_valid valid, conclusion_cons_valid valid]
          exact ⟨rfl, rfl, by simp only [work]; omega⟩
  | holding request bytes =>
    cases goes
    exact ⟨rfl, rfl, Nat.lt_succ_self _⟩
  | done result => cases goes

/-- Where a clerk has a request in its hands, and the queue has no room for it. -/
def Waits (server : Server) (clerk : Clerk) : Prop :=
  (∃ request bytes, clerk = holding request bytes) ∧ server.states.length ≤ server.queue.length

/-- A clerk that is not done goes on, unless it waits. -/
theorem exists_next (isAccepting : Bool) (ending : IoFault) (clerk : Clerk) (server : Server) :
    (∃ result, clerk = done result) ∨ clerk.Waits server ∨ ∃ next taken after,
      clerk.next? isAccepting ending server = some (next, taken) ∧ server.run taken = some after := by
  cases clerk with
  | reading bytes =>
    refine .inr (.inr ?_)
    rw [next?]
    split
    · exact ⟨_, _, _, rfl, rfl⟩
    · split
      · exact ⟨_, _, _, rfl, rfl⟩
      · split
        · exact ⟨_, _, _, rfl, rfl⟩
        · exact ⟨_, _, _, rfl, rfl⟩
  | holding request bytes =>
    by_cases room : server.queue.length < server.states.length
    · exact .inr (.inr ⟨_, _, _, rfl, by rw [Server.run_cons, Server.step?, if_pos room]; rfl⟩)
    · exact .inr (.inl ⟨⟨request, bytes, rfl⟩, Nat.le_of_not_lt room⟩)
  | done result => exact .inl ⟨result, rfl⟩

/-- All that happens in the server is a run of it. -/
theorem Runs.run_eq (ran : Runs isAccepting ending bytes start count steps server clerk) :
    start.run steps = some server := by
  induction ran with
  | start => rfl
  | own _ _ moved ih => rw [Server.run_append, ih, Option.bind_some, moved]
  | other _ _ moved ih =>
    rw [Server.run_append, ih, Option.bind_some, Server.run_cons, moved]
    rfl

/-- **What a clerk has submitted and will still submit are the requests that a registrar queues,**
and what it has done and has left to do is bounded. -/
theorem Runs.ahead_eq (ran : Runs isAccepting ending bytes start count steps server clerk) :
    steps.filterMap Server.Step.request? ++ clerk.ahead isAccepting
        = (reading bytes).ahead isAccepting
      ∧ clerk.outcome isAccepting ending = (reading bytes).outcome isAccepting ending
      ∧ count + clerk.work ≤ (reading bytes).work := by
  induction ran with
  | start => exact ⟨rfl, rfl, (Nat.zero_add _).le⟩
  | own ran goes moved ih =>
    obtain ⟨submitted, answer, bounded⟩ := ih
    obtain ⟨ahead, outcome, less⟩ := of_next? goes
    refine ⟨?_, outcome.trans answer, by omega⟩
    rw [List.filterMap_append, List.append_assoc, ahead, submitted]
  | other ran quiet moved ih =>
    obtain ⟨submitted, answer, bounded⟩ := ih
    refine ⟨?_, answer, bounded⟩
    rw [List.filterMap_append, List.filterMap_cons_none quiet, List.filterMap_nil,
      List.append_nil, submitted]

/-- Whatever has happened since a clerk began to read a channel in a server: it has gone on a bounded
number of times, and has submitted the first ones of these requests, in their order. Unless it is
done, or waits for room in the queue, it goes on. Once it is done, it has submitted them all, and
answers with this result. -/
structure Settles (isAccepting : Bool) (ending : IoFault) (bytes : Bytes) (start : Server)
    (requests : List ConnectRequest) (result : Except Error Unit) : Prop where
  bounded : ∀ {count steps server clerk},
    Runs isAccepting ending bytes start count steps server clerk →
      count ≤ 2 * (blocks connectSize bytes).length + 1
  submitted : ∀ {count steps server clerk},
    Runs isAccepting ending bytes start count steps server clerk →
      start.run steps = some server ∧ steps.filterMap Server.Step.request? <+: requests
  goesOn : ∀ {count steps server clerk},
    Runs isAccepting ending bytes start count steps server clerk →
      clerk = done result ∨ clerk.Waits server ∨ ∃ next taken after,
        clerk.next? isAccepting ending server = some (next, taken) ∧ server.run taken = some after
  complete : ∀ {count steps server answer},
    Runs isAccepting ending bytes start count steps server (done answer) →
      answer = result ∧ steps.filterMap Server.Step.request? = requests

theorem settles (isAccepting : Bool) (ending : IoFault) (bytes : Bytes) (start : Server) :
    Settles isAccepting ending bytes start
      (requestsIn (dealtWith isAccepting (blocks connectSize bytes)))
      (conclusion isAccepting ending (blocks connectSize bytes)) where
  bounded ran := (Nat.le_add_right _ _).trans ran.ahead_eq.2.2
  submitted ran := ⟨ran.run_eq, _, ran.ahead_eq.1⟩
  goesOn {_ _ server clerk} ran := by
    rcases exists_next isAccepting ending clerk server with ⟨result, rfl⟩ | onward
    · exact .inl (congrArg done ran.ahead_eq.2.1)
    · exact .inr onward
  complete ran := ⟨ran.ahead_eq.2.1, (List.append_nil _).symm.trans ran.ahead_eq.1⟩

end Clerk

/-! ## Notifications -/

/-- **A listener hears the messages of the frames before the first one that is none,** and stops
there without having heard anything else. -/
theorem Client.listen_spec (bytes : Bytes) :
    ∃ front rest, blocks notificationSize bytes = front ++ rest
      ∧ List.Forall₂ Kind.notification.Means front (listen bytes).notifications
      ∧ (∀ frame ∈ rest.head?, ¬ Kind.notification.Sound frame)
      ∧ ((listen bytes).trouble.isNone = true ↔ rest = []) := by
  have some : 0 < notificationSize := by decide
  fun_induction listen bytes with
  | case1 bytes short =>
    rw [blocks_of_short short]
    exact ⟨[], [], rfl, .nil, nofun, by simp⟩
  | case2 bytes long fault broken =>
    have size := List.length_take_of_le (Nat.le_of_not_lt long)
    rw [blocks_of_whole some (Nat.le_of_not_lt long)]
    refine ⟨[], _, rfl, .nil, fun frame first sound => ?_, by simp⟩
    cases first
    obtain ⟨notification, means⟩ := (Kind.exists_means_iff size).2 sound
    rw [(Notification.decode_eq_ok_iff size notification).2 means] at broken
    cases broken
  | case3 bytes long notification read later ih =>
    have size := List.length_take_of_le (Nat.le_of_not_lt long)
    obtain ⟨front, rest, split, heard, stopped, quiet⟩ := ih
    refine ⟨bytes.take notificationSize :: front, rest, ?_, .cons ?_ heard, stopped, quiet⟩
    · rw [blocks_of_whole some (Nat.le_of_not_lt long), split]
      rfl
    · exact (Notification.decode_eq_ok_iff size notification).1 read

/-! ## Both channels -/

/-- **Whole frames are taken, whatever is in them.** Take a registration channel and its blocks of
the size of a connect message. A registrar of an open host queues the messages of those that are
connect messages, in their order, and answers that all went well; the others cost a warning each,
and what is left behind the last is nothing. Where the queue may be full, it submits these same
requests as there is room for them, and is done after a bounded number of steps. After a shutdown it
answers so at the first connect message, and has submitted nothing.

Of a notification channel, a listener hears the messages of the blocks before the first one that is
no notification, in their order, and nothing more. -/
theorem whole_frames_are_taken (host : Host) (server : Server) (bytes : Bytes) :
    let frames := blocks connectSize bytes
    (∃ requests warnings, Kind.connect.Picks frames requests
      ∧ requests.length + warnings.length = frames.length
      ∧ ∀ isAccepting, isAccepting = true ∨ requests = [] →
        (host.isAccepting = isAccepting →
          host.takeRegistrations .endOfStream bytes = (.ok (), host.registered requests warnings))
        ∧ Clerk.Settles isAccepting .endOfStream bytes server requests (.ok ()))
    ∧ (∀ front frame rest, frames = front ++ frame :: rest →
      (∀ earlier ∈ front, ¬ Kind.connect.Sound earlier) → Kind.connect.Sound frame →
      ∃ warnings, warnings.length = front.length ∧ ∀ ending,
        (host.isAccepting = false → host.takeRegistrations ending bytes
          = (.error (.session .shutDown), host.registered [] warnings))
        ∧ Clerk.Settles false ending bytes server [] (.error (.session .shutDown)))
    ∧ ∃ front rest, blocks notificationSize bytes = front ++ rest
      ∧ List.Forall₂ Kind.notification.Means front (Client.listen bytes).notifications
      ∧ (∀ frame ∈ rest.head?, ¬ Kind.notification.Sound frame)
      ∧ ((Client.listen bytes).trouble.isNone = true ↔ rest = []) := by
  intro frames
  have whole : ∀ frame ∈ frames, frame.length = connectSize := length_of_mem_blocks
  have settles (isAccepting : Bool) (ending : IoFault) :
      Clerk.Settles isAccepting ending bytes server (requestsIn (dealtWith isAccepting frames))
        (conclusion isAccepting ending frames) :=
    Clerk.settles isAccepting ending bytes server
  have registration (ending : IoFault) : host.takeRegistrations ending bytes
      = (conclusion host.isAccepting ending frames,
        host.registered (requestsIn (dealtWith host.isAccepting frames))
          (complaintsIn (dealtWith host.isAccepting frames))) :=
    host.takeRegistrations_eq ending bytes
  refine ⟨⟨requestsIn frames, complaintsIn frames, picks_requestsIn whole,
    length_requestsIn_add_complaintsIn frames, fun isAccepting accepting => ?_⟩, ?_,
    Client.listen_spec bytes⟩
  · have settled := settles isAccepting .endOfStream
    obtain ⟨dealt, answer⟩ := of_accepting accepting
    rw [dealt, answer] at settled
    refine ⟨?_, settled⟩
    rintro rfl
    rw [registration, dealt, answer]
  · intro front frame rest split unsound sound
    rw [split] at whole
    obtain ⟨request, valid⟩ := (exists_decode_iff (whole frame (by simp))).2 sound
    have earlier : ∀ frame ∈ front, frame.length = connectSize := fun frame member =>
      whole frame (List.mem_append_left _ member)
    have none := (of_first earlier unsound valid .endOfStream rest).2.1
    have length := length_requestsIn_add_complaintsIn front
    rw [none, List.length_nil, Nat.zero_add] at length
    refine ⟨complaintsIn front, length, fun ending => ?_⟩
    obtain ⟨dealt, -, answer⟩ := of_first earlier unsound valid ending rest
    have settled := settles false ending
    rw [split, dealt, none, answer] at settled
    refine ⟨fun shut => ?_, settled⟩
    rw [registration, shut, split, dealt, none, answer]

/-- A block that is no message, a connect message with bytes behind its zeros, and half a block,
before and after a shutdown. -/
theorem whole_frames_are_taken_after_shutdown :
    let path (c : UInt8) : Bytes := c :: 0 :: List.replicate 38 7
    let message : Bytes := 1 :: (path 97 ++ path 98 ++ path 99)
    let bytes := List.replicate 121 255 ++ message ++ 1 :: path 97
    let host := Host.ofService { store := .ofSettings {} }
    (∃ warnings, warnings.length = 1 ∧ host.takeRegistrations .endOfStream bytes
        = (.ok (), host.registered [⟨"a", "b", "c"⟩] warnings))
      ∧ ∃ warnings, warnings.length = 1 ∧ host.shutdown.takeRegistrations .endOfStream bytes
        = (.error (.session .shutDown), host.shutdown.registered [] warnings) := by
  intro path message bytes host
  let server := Server.ofService { store := .ofSettings {} }
  have frames : blocks connectSize bytes = [List.replicate 121 255] ++ message :: [] := by
    decide +kernel
  constructor
  · obtain ⟨requests, warnings, -, counted, accepted⟩ := (whole_frames_are_taken host server bytes).1
    have taken := (accepted true (.inl rfl)).1 rfl
    have queued : (host.takeRegistrations .endOfStream bytes).2.queue = [⟨"a", "b", "c"⟩] := by
      decide +kernel
    rw [taken] at queued
    obtain rfl : requests = [⟨"a", "b", "c"⟩] := queued
    rw [frames] at counted
    exact ⟨warnings, Nat.add_left_cancel counted, taken⟩
  · have noise : ConnectRequest.decode (List.replicate 121 255) = .error (.connectExpected 255) := by
      decide +kernel
    have valid : ConnectRequest.decode message = .ok ⟨"a", "b", "c"⟩ := by decide +kernel
    have sound : Kind.connect.Sound message := (exists_decode_iff rfl).1 ⟨_, valid⟩
    have unsound : ∀ earlier ∈ [List.replicate 121 255], ¬ Kind.connect.Sound earlier := by
      intro earlier member sound
      obtain rfl := List.mem_singleton.1 member
      obtain ⟨request, decoded⟩ := (exists_decode_iff List.length_replicate).2 sound
      cases noise.symm.trans decoded
    obtain ⟨warnings, one, stopped⟩ := (whole_frames_are_taken host.shutdown server bytes).2.1
      [List.replicate 121 255] message [] frames unsound sound
    exact ⟨warnings, one, (stopped .endOfStream).1 rfl⟩

end KeyWatch
