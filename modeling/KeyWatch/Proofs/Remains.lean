/-
# Proofs.Remains -- what a client leaves behind

A client makes three pipes when it connects, and it has a listener once it is connected. Removing
pipes leaves none of them whatever goes wrong on the way (`removePipes_spec`), so what is left is
told by where a client removes them: when the server turns it away, when its disconnect was
answered, and when it abandons a session. Every other way out leaves the pipes that were made as
they are, and a disconnect that fails leaves its listener too (`remains`).

`Client.connect`, `Client.disconnect` and `Client.abandon` are a client on its own, whatever it
hears from its server. A client of a server of this project does the same (`Network.connect_eq`,
`Network.disconnect_eq`, `Network.abandon_eq`).
-/
import KeyWatch.Client.Call
import KeyWatch.Client.Connect
import KeyWatch.Client.Pipes
import KeyWatch.Network.Pipes
import KeyWatch.Proofs.Pipes

namespace KeyWatch

set_option autoImplicit false

/-! ## The pipes of a client -/

namespace Client

variable {files : Files}

/-- The paths at which pipes are made, up to the first one at which it cannot be done. -/
def made (files : Files) : List String → List String
  | [] => []
  | path :: rest =>
    match files.makePipe path with
    | .error _ => []
    | .ok files => path :: made files rest

/-- **All pipes stand that were made.** -/
theorem makePipes_spec (files : Files) (paths : List String) :
    files.Within (makePipes files paths).2
      ∧ (∀ path ∈ made files paths, (makePipes files paths).2.IsPipe path)
      ∧ ((makePipes files paths).1 = .ok () → made files paths = paths) := by
  induction paths generalizing files with
  | nil => exact ⟨.refl files, List.forall_mem_nil _, fun _ => rfl⟩
  | cons path rest ih =>
    unfold makePipes made
    cases first : files.makePipe path with
    | error fault => exact ⟨.refl files, List.forall_mem_nil _, nofun⟩
    | ok next =>
      obtain ⟨within, stands⟩ := Files.of_makePipe first
      obtain ⟨onward, others, all⟩ := ih next
      exact ⟨within.trans onward, List.forall_mem_cons.2 ⟨onward.isPipe stands, others⟩,
        fun done => congrArg (path :: ·) (all done)⟩

theorem files_removePipes_cons (files : Files) (path : String) (rest : List String) :
    (removePipes files (path :: rest)).2 = (removePipes (files.withoutPipe path) rest).2 := by
  rw [removePipes, Files.withoutPipe]
  cases files.removePipe path <;> rfl

/-- **None of the pipes is left that are removed,** whatever else there is. -/
theorem removePipes_spec (files : Files) (paths : List String) :
    (removePipes files paths).2.Within files
      ∧ ∀ path ∈ paths, ¬ (removePipes files paths).2.IsPipe path := by
  induction paths generalizing files with
  | nil => exact ⟨.refl files, List.forall_mem_nil _⟩
  | cons path rest ih =>
    obtain ⟨within, gone⟩ := files.withoutPipe_spec path
    obtain ⟨onward, others⟩ := ih (files.withoutPipe path)
    rw [files_removePipes_cons]
    exact ⟨onward.trans within, List.forall_mem_cons.2 ⟨mt onward.isPipe gone, others⟩⟩

/-! ## Coming and going -/

/-- How connecting goes on behind the registration pipe: whether the message is written and the
client's own pipes can be opened, what is read of the server's answer, and whether a listener can be
started. -/
structure Course where
  written : Except IoFault Unit := .ok ()
  opened : Except IoFault Unit := .ok ()
  answer : Bytes
  started : Except IoFault Unit := .ok ()

/-- What there is of a client outside of it: pipes among the files, and maybe a listener. -/
structure Traces where
  files : Files
  listens : Bool := false

/-- Connect. The listener is the last thing that a client gets. -/
def connect (files : Files) (registry : String) (pipes : ConnectRequest) (course : Course) :
    Except Error Unit × Traces :=
  match announce files registry pipes with
  | (.error error, files) => (.error error, { files })
  | (.ok _, files) =>
    match course.written >>= fun _ => course.opened with
    | .error fault => (.error (.io fault), { files })
    | .ok () =>
      match greet files pipes course.answer with
      | (.error error, _, files) => (.error error, { files })
      | (.ok (), _, files) =>
        match course.started with
        | .error fault => (.error (.io fault), { files })
        | .ok () => (.ok (), { files, listens := true })

/-- The listener is waited for, and the pipes go. -/
def Traces.release (traces : Traces) (pipes : ConnectRequest) : Traces where
  files := (Client.release traces.files pipes).2

/-- Leave a session that the server has ended. -/
def abandon (traces : Traces) (pipes : ConnectRequest) : Traces := traces.release pipes

/-- Say goodbye, and let go of everything if that was answered. -/
def disconnect {σ : Type} (talk : σ → Bytes → Bytes × σ) (server : σ) (traces : Traces)
    (pipes : ConnectRequest) (line : Line) : Except Error Unit × Traces :=
  let (result, _, _) := line.request talk server .disconnect
  (result.map fun _ => (),
    { files := (retire traces.files pipes result).2, listens := traces.listens && !result.isOk })

/-- Nothing is left: no listener, and no pipe at any of the client's paths. -/
def Traces.Cleared (traces : Traces) (pipes : ConnectRequest) : Prop :=
  traces.listens = false ∧ ∀ path ∈ pipes.paths, ¬ traces.files.IsPipe path

instance (traces : Traces) (pipes : ConnectRequest) : Decidable (traces.Cleared pipes) :=
  inferInstanceAs (Decidable (_ ∧ _))

/-- The paths at which a client that connects makes its pipes: none if they do not fit a message. -/
def madeBy (files : Files) (pipes : ConnectRequest) : List String :=
  match pipes.encode with
  | .error _ => []
  | .ok _ => made files pipes.paths

theorem cleared_release (traces : Traces) (pipes : ConnectRequest) :
    (traces.release pipes).Cleared pipes :=
  ⟨rfl, (removePipes_spec traces.files pipes.paths).2⟩

/-- An announcement leaves the pipes that were made, and it makes all of them to succeed. -/
theorem announce_spec (files : Files) (registry : String) (pipes : ConnectRequest) :
    (∀ path ∈ madeBy files pipes, (announce files registry pipes).2.IsPipe path)
      ∧ (∀ message, (announce files registry pipes).1 = .ok message →
        madeBy files pipes = pipes.paths)
      ∧ ∀ fault, (announce files registry pipes).1 ≠ .error (.session fault) := by
  obtain ⟨-, stand, all⟩ := makePipes_spec files pipes.paths
  unfold announce madeBy
  cases pipes.encode with
  | error fault => exact ⟨List.forall_mem_nil _, nofun, nofun⟩
  | ok message =>
    dsimp only
    cases ran : makePipes files pipes.paths with
    | mk result after =>
      rw [ran] at stand all
      cases result with
      | error fault => exact ⟨stand, nofun, nofun⟩
      | ok _ =>
        dsimp only
        cases after.openForWriting registry with
        | error fault => exact ⟨stand, nofun, nofun⟩
        | ok _ => exact ⟨stand, fun _ _ => all rfl, nofun⟩

/-- An answer is a welcome, a refusal, or none that can be understood. -/
theorem greet_cases (files : Files) (pipes : ConnectRequest) (answer : Bytes) :
    greet files pipes answer = (.ok (), [], files)
      ∨ (∃ fault, greet files pipes answer = (.error (.session fault), release files pipes))
      ∨ ∃ error, (∀ fault, error ≠ .session fault)
        ∧ greet files pipes answer = (.error error, [], files) := by
  cases answered : welcomed answer with
  | ok _ => exact .inl (by rw [greet, answered])
  | error error =>
    by_cases refusal : ∃ fault, error = .session fault
    · obtain ⟨fault, rfl⟩ := refusal
      exact .inr (.inl ⟨fault, by rw [greet, answered]⟩)
    · have other := not_exists.1 refusal
      exact .inr (.inr ⟨error, other, greet_eq_error files pipes answer error answered other⟩)

/-- **What connecting can come to.** A client is taken in or fails on the way, and keeps its pipes
either way, or it is turned away and lets go of them. -/
theorem connect_cases (files : Files) (registry : String) (pipes : ConnectRequest)
    (course : Course) :
    ∃ after : Files, (∀ path ∈ madeBy files pipes, after.IsPipe path)
      ∧ ((connect files registry pipes course = (.ok (), { files := after, listens := true })
          ∧ madeBy files pipes = pipes.paths)
        ∨ (∃ fault, connect files registry pipes course
          = (.error (.session fault), ({ files := after } : Traces).release pipes))
        ∨ ∃ error, (∀ fault, error ≠ .session fault)
          ∧ connect files registry pipes course = (.error error, { files := after })) := by
  obtain ⟨stand, all, other⟩ := announce_spec files registry pipes
  unfold connect
  cases announced : announce files registry pipes with
  | mk result after =>
    rw [announced] at stand all other
    refine ⟨after, stand, ?_⟩
    cases result with
    | error error => exact .inr (.inr ⟨error, fun fault same => other fault (same ▸ rfl), rfl⟩)
    | ok message =>
      dsimp only
      cases course.written >>= fun _ => course.opened with
      | error fault => exact .inr (.inr ⟨.io fault, nofun, rfl⟩)
      | ok _ =>
        rcases greet_cases after pipes course.answer with
          welcome | ⟨fault, refused⟩ | ⟨error, unlike, failed⟩
        · rw [welcome]
          dsimp only
          cases course.started with
          | error fault => exact .inr (.inr ⟨.io fault, nofun, rfl⟩)
          | ok _ => exact .inl ⟨rfl, all message rfl⟩
        · rw [refused]
          exact .inr (.inl ⟨fault, rfl⟩)
        · rw [failed]
          exact .inr (.inr ⟨error, unlike, rfl⟩)

/-- **What a client leaves behind.** One that was taken in has its three pipes and a listener. When
connecting fails, nothing is left if the server turned the client away, and every pipe that was made
if anything else went wrong. Nothing is left by a disconnect that was answered, and all that there
was by one that failed. Nothing is left by abandoning a session. -/
theorem remains {σ : Type} (talk : σ → Bytes → Bytes × σ) (server : σ) (line : Line)
    (files : Files) (registry : String) (pipes : ConnectRequest) (course : Course)
    (traces : Traces) :
    (match connect files registry pipes course with
      | (.ok (), after) => after.listens = true ∧ ∀ path ∈ pipes.paths, after.files.IsPipe path
      | (.error (.session _), after) => after.Cleared pipes
      | (.error _, after) =>
        after.listens = false ∧ ∀ path ∈ madeBy files pipes, after.files.IsPipe path)
    ∧ (match disconnect talk server traces pipes line with
      | (.ok (), after) => after.Cleared pipes
      | (.error _, after) => after = traces)
    ∧ (abandon traces pipes).Cleared pipes := by
  refine ⟨?_, ?_, cleared_release traces pipes⟩
  · obtain ⟨after, stand, ⟨taken, all⟩ | ⟨fault, refused⟩ | ⟨error, unlike, failed⟩⟩ :=
      connect_cases files registry pipes course
    · rw [taken]
      exact ⟨rfl, all ▸ stand⟩
    · rw [refused]
      exact cleared_release _ pipes
    · rw [failed]
      cases error with
      | session fault => exact absurd rfl (unlike fault)
      | _ => exact ⟨rfl, stand⟩
  · unfold disconnect
    cases line.request talk server .disconnect with
    | mk result rest =>
      cases result with
      | ok granted =>
        refine ⟨Bool.and_false _, (removePipes_spec traces.files pipes.paths).2⟩
      | error error => exact congrArg _ (Bool.and_true _)

/-- A client that finds no registration pipe leaves its three pipes; one whose disconnect is not
answered leaves them too, and its listener. -/
theorem left_behind :
    let pipes := Client.pipes "1"
    let bare : Files := { nodes := [(["tmp"], .directory)] }
    let files : Files := { nodes := [(["tmp"], .directory), (["reg"], .pipe)] }
    let failed := connect bare "reg" pipes { answer := [] }
    let connected := connect files "reg" pipes { answer := Response.welcome.encode }
    let left := disconnect (fun _ _ => ([], ())) () connected.2 pipes {}
    failed.1 = .error (.io (.system .noEntry)) ∧ madeBy bare pipes = pipes.paths
      ∧ (∀ path ∈ pipes.paths, failed.2.files.IsPipe path) ∧ ¬ failed.2.Cleared pipes
      ∧ connected.1 = .ok () ∧ left.1 = .error (.io .endOfStream) ∧ left.2.listens = true
      ∧ (∀ path ∈ pipes.paths, left.2.files.IsPipe path) ∧ ¬ left.2.Cleared pipes := by
  decide +kernel

end Client

/-! ## Clients of a server

Serving clients touches no file, so what a client of a server does to the files is what it does
alone.
-/

namespace Client.Line

/-- A request leaves the server as it is once it has heard what was written. -/
theorem server_request {σ : Type} (line : Line) (talk : σ → Bytes → Bytes × σ) (server : σ)
    (request : Request) :
    (line.request talk server request).2.2
      = (talk server ((line.ask request).2.requests.taken.drop line.requests.taken.length)).2 := by
  unfold Line.request call
  dsimp only
  split <;> rfl

end Client.Line

theorem Service.files_of_apply {α : Type} {service after : Service} {answer : Except Error α}
    {decided : Except Error (Update Store α)} (ran : service.apply decided = (answer, after)) :
    after.files = service.files :=
  (congrArg (·.2.files) ran).symm.trans (service.apply_beside decided).1

namespace Session

variable (session : Session) (service : Service)

/-- Nothing that is asked of a session touches a file. -/
theorem files_subscribe (key : String) :
    (session.subscribe service key).2.2.files = service.files := by
  unfold subscribe
  split
  · rfl
  dsimp only
  split
  · rfl
  split
  · next ran => exact (Service.files_of_apply ran :)
  · next ran => exact (Service.files_of_apply ran :)

theorem files_unsubscribe (key : String) :
    (session.unsubscribe service key).2.2.files = service.files := by
  unfold unsubscribe
  split
  · rfl
  split
  · next ran => exact (Service.files_of_apply ran :)
  · next ran => exact (Service.files_of_apply ran :)

theorem files_giveUp (keys : List String) :
    (session.giveUp service keys).files = service.files := by
  induction keys generalizing service with
  | nil => rfl
  | cons key rest ih =>
    unfold giveUp
    split
    · next ran => exact (ih _).trans (Service.files_of_apply ran :)
    · next ran => exact (ih _).trans (Service.files_of_apply ran :)

theorem files_close : (session.close service).2.2.files = service.files := by
  unfold close
  split
  · rfl
  · exact files_giveUp session service session.keys

theorem files_handle (request : Request) :
    (session.handle service request).2.2.files = service.files := by
  unfold handle
  split
  · rfl
  · cases request with
    | disconnect => exact files_close _ service
    | subscribe key => exact files_subscribe session service key
    | unsubscribe key => exact files_unsubscribe session service key

theorem files_serve (bytes : Bytes) :
    (session.serve service bytes).service.files = service.files := by
  fun_induction serve session service bytes with
  | case1 => rfl
  | case2 => rfl
  | case3 session service bytes request rest _ next after ran ih =>
    exact ih.trans ((congrArg (·.2.2.files) ran).symm.trans (files_handle session service request))
  | case4 session service bytes request rest _ next after ran =>
    exact (congrArg (·.2.2.files) ran).symm.trans (files_handle session service request)

end Session

namespace Host

variable (host : Host)

theorem files_depart (visit : Visit) : (host.depart visit).service.files = host.service.files :=
  Session.files_close visit.session host.service

theorem files_welcome (routes : Routes) (slot : Nat) (request : ConnectRequest) :
    (host.welcome routes slot request).2.service.files = host.service.files := by
  unfold welcome
  dsimp only
  split
  · rfl
  dsimp only [Session.connect]
  split
  · rfl
  · exact files_depart _ _

theorem files_attend (visit : Visit) :
    (host.attend visit).2.service.files = host.service.files := by
  unfold attend
  split
  · exact files_depart host visit
  dsimp only
  split
  · exact Session.files_serve _ _ _
  · exact (files_depart _ _).trans (Session.files_serve _ _ _)

/-- **No step of a worker touches a file.** -/
theorem files_step (routes : Routes) (slot : Nat) :
    (host.step routes slot).service.files = host.service.files := by
  unfold step
  split
  · rfl
  · split <;> rfl
  · exact files_welcome host routes slot _
  · exact files_attend host _

theorem files_takeRegistrations (ending : IoFault) (bytes : Bytes) :
    (host.takeRegistrations ending bytes).2.service.files = host.service.files := by
  fun_induction takeRegistrations host ending bytes with
  | case1 => rfl
  | case2 => rfl
  | case3 host bytes _ fault _ next ih => exact ih
  | case4 => rfl
  | case5 host bytes _ request _ next queued ih =>
    unfold submit at queued
    split at queued
    · cases queued
      exact ih
    · cases queued

end Host

namespace Network

variable (network : Network)

theorem files_round : network.round.files = network.files := by
  unfold round
  induction List.range network.host.workers.length generalizing network with
  | nil => rfl
  | cons slot rest ih =>
    exact (ih _).trans (network.host.files_step _ slot)

theorem files_rounds (count : Nat) : (rounds count network).files = network.files := by
  induction count generalizing network with
  | zero => rfl
  | succ count ih => exact (ih network.round).trans (files_round network)

theorem files_settle : network.settle.files = network.files :=
  files_rounds { network with host := network.host } _

theorem files_close (id : PeerId) (path : String) :
    (network.close id path).files = network.files := by
  unfold close
  split
  · rfl
  dsimp only
  split
  · exact files_settle _
  · exact files_settle _

theorem files_vanish (id : PeerId) : (network.vanish id).files = network.files := by
  unfold vanish
  show (List.foldl _ network _).files = _
  generalize ((network.peer? id).map (·.paths.paths)).getD [] = paths
  induction paths generalizing network with
  | nil => rfl
  | cons path rest ih => exact (ih _).trans (network.files_close id path)

theorem files_join (paths : ConnectRequest) (missing closed : List String) :
    (network.join paths missing closed).files = network.files :=
  files_vanish network paths.requests

theorem files_register (ending : IoFault) (bytes : Bytes) :
    (network.register ending bytes).2.files = network.files :=
  (files_settle _).trans (network.host.files_takeRegistrations ending bytes)

theorem files_request (id : PeerId) (request : Request) :
    (network.request id request).2.files = network.files := by
  have talked (peer : Peer) (host : Host) (bytes : Bytes) :
      (network.talk peer host bytes).2.service.files = host.service.files := by
    refine (files_settle { network with host := peer.deliver host bytes }).trans ?_
    show (peer.deliver host bytes).service.files = _
    unfold Peer.deliver
    dsimp only
    split <;> rfl
  unfold Network.request
  split
  · rfl
  · next peer found =>
    have same := (peer.currentLine network.host).server_request (network.talk peer)
      network.host request
    exact (congrArg (·.service.files) same).trans (talked peer network.host _)

/-- **A client of a server connects like any other one,** to the answer that it reads. -/
theorem connect_eq (registry : String) (pipes : ConnectRequest) :
    ∃ course,
      let ran := network.connect registry pipes
      let alone := Client.connect network.files registry pipes course
      ran.result.map (fun _ => ()) = alone.1 ∧ ran.network.files = alone.2.files := by
  unfold Network.connect Client.connect
  cases Client.announce network.files registry pipes with
  | mk announced files =>
    cases announced with
    | error error => exact ⟨{ answer := [] }, rfl, rfl⟩
    | ok message =>
      let joined := (network.withFiles ([], files)).join pipes [] []
      let read := (joined.register .endOfStream message).2.readWelcome pipes.requests
      have same : read.2.files = files :=
        (files_register joined .endOfStream message).trans (files_join _ _ _ _)
      refine ⟨{ answer := read.1 }, ?_⟩
      dsimp only
      rw [show (readWelcome _ _).2.files = files from same]
      cases Client.greet files pipes read.1 with
      | mk result after =>
        cases result with
        | ok _ => exact ⟨rfl, rfl⟩
        | error error => exact ⟨rfl, files_vanish _ _⟩

/-- **A client of a server says goodbye like any other one,** over its line. -/
theorem disconnect_eq {id : PeerId} {peer : Peer} (found : network.peer? id = some peer)
    (listens : Bool) :
    let left := network.disconnect id
    let alone := Client.disconnect (network.talk peer) network.host
      { files := network.files, listens } peer.paths (peer.currentLine network.host)
    left.1 = alone.1 ∧ left.2.files = alone.2.files := by
  have same := network.files_request id .disconnect
  have answered : (network.request id .disconnect).1 = ((peer.currentLine network.host).request
      (network.talk peer) network.host .disconnect).1 := by
    unfold Network.request
    rw [found]
    rfl
  unfold Network.disconnect Client.disconnect
  rw [found]
  dsimp only
  rw [same, answered]
  exact ⟨rfl, files_vanish _ id⟩

theorem abandon_eq {id : PeerId} {peer : Peer} (found : network.peer? id = some peer)
    (listens : Bool) :
    (network.abandon id).files
      = (Client.abandon { files := network.files, listens } peer.paths).files := by
  unfold Network.abandon
  rw [found]
  exact files_vanish _ id

end Network

end KeyWatch
