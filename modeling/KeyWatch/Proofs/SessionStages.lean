/-
# Proofs.SessionStages -- the life of one session

A session is asked to move, to answer its client and to fall silent, and meanwhile anything may
happen to the service. Whatever comes, its stage only advances (`Stage.rank_after`), and one thing
alone closes it (`Stage.after_eq_closed_iff`), so that all it does once is done at a known place of
its life. The rest is one invariant, `Session.Sound`: the close signal is given together with the
last stage, and a closed session has no key and no open channel. A closed channel takes nothing more:
`Exchange.Holds` follows a channel through every event, for any law of channels that is
`Channel.Stable`.
-/
import KeyWatch.Proofs.Clientele
import KeyWatch.Proofs.Feed

namespace KeyWatch

set_option autoImplicit false

/-! ## Laws of a channel -/

/-- A law that a channel keeps when it is written to while open, closed, deserted or disowned. -/
structure Channel.Stable (law : Channel → Prop) : Prop where
  written : ∀ channel sink, channel.isOpen = true → law channel → law { channel with sink }
  closed : ∀ channel, law channel → law { channel with isOpen := false }
  deserted : ∀ channel, law channel → law { channel with sink := channel.sink.desert }
  disowned : ∀ channel, law channel → law { channel with isOwned := false }

/-- **A closed channel takes nothing more.** -/
theorem Channel.stable_shut (taken : Bytes) :
    Channel.Stable fun channel => channel.isOpen = false ∧ channel.sink.taken = taken where
  written := by
    rintro channel sink isOpen ⟨shut, -⟩
    rw [isOpen] at shut
    cases shut
  closed := by
    rintro channel ⟨-, same⟩
    exact ⟨rfl, same⟩
  deserted := by
    rintro channel ⟨shut, same⟩
    exact ⟨shut, same⟩
  disowned := by
    rintro channel ⟨shut, same⟩
    exact ⟨shut, same⟩

/-- A channel that has to be closed stays so. -/
theorem Channel.stable_closed_of (due : Prop) :
    Channel.Stable fun channel => due → channel.isOpen = false where
  written := by
    intro channel sink _ shut
    exact shut
  closed := by
    intro channel _ _
    rfl
  deserted := by
    intro channel shut
    exact shut
  disowned := by
    intro channel shut
    exact shut

namespace Exchange

/-- There is a channel with this number, and the law is true of it. -/
def Holds (exchange : Exchange) (id : ChannelId) (law : Channel → Prop) : Prop :=
  ∃ channel, exchange.channel? id = some channel ∧ law channel

variable {exchange : Exchange} {id : ChannelId} {law : Channel → Prop}

theorem holds_modify (holds : exchange.Holds id law) (other : ChannelId)
    (change : Channel → Channel) (keeps : ∀ channel, law channel → law (change channel)) :
    (exchange.modify other change).Holds id law := by
  obtain ⟨channel, here, lawful⟩ := holds
  by_cases ours : other = id
  · refine ⟨change channel, ?_, keeps channel lawful⟩
    rw [channel?_modify, if_pos ours, here]
    rfl
  · refine ⟨channel, ?_, lawful⟩
    rw [channel?_modify, if_neg ours]
    exact here

theorem holds_openChannel (holds : exchange.Holds id law) (client : ClientId) (sink : Sink) :
    (exchange.openChannel client sink).2.Holds id law := by
  obtain ⟨channel, here, lawful⟩ := holds
  have inside : id < exchange.channels.size := (Array.getElem?_eq_some_iff.1 here).1
  refine ⟨channel, ?_, lawful⟩
  rw [channel?_openChannel, if_neg (Nat.ne_of_lt inside)]
  exact here

theorem holds_send (stable : Channel.Stable law) (holds : exchange.Holds id law)
    (other : ChannelId) (notification : Notification) :
    (exchange.send other notification).2.Holds id law := by
  unfold send
  cases notification.encode with
  | error fault => exact holds
  | ok frame =>
    dsimp only
    cases there : exchange.channel? other with
    | none => exact holds
    | some receiver =>
      dsimp only
      split
      · next isOpen =>
        obtain ⟨channel, here, lawful⟩ := holds
        by_cases ours : other = id
        · subst ours
          -- the channel that is written to is the one of the law
          have same : receiver = channel := Option.some.inj (there.symm.trans here)
          subst same
          refine ⟨_, ?_, stable.written receiver (receiver.sink.send frame).2 isOpen lawful⟩
          rw [channel?_modify, if_pos rfl, here]
          rfl
        · refine ⟨channel, ?_, lawful⟩
          rw [channel?_modify, if_neg ours]
          exact here
      · exact holds

/-- **Notices keep every stable law.** -/
theorem holds_postAll (stable : Channel.Stable law) (holds : exchange.Holds id law)
    (notices : List Notice) : (exchange.postAll notices).2.Holds id law := by
  induction notices generalizing exchange with
  | nil => exact holds
  | cons notice rest ih =>
    rw [postAll_cons]
    apply ih
    unfold post
    split
    · have sent := holds_send stable holds notice.watcher.channel
        ⟨notice.key, notice.change.text⟩
      rcases done : exchange.send notice.watcher.channel ⟨notice.key, notice.change.text⟩
        with ⟨result, after⟩
      rw [done] at sent
      cases result with
      | ok _ => exact sent
      | error error => exact sent
    · exact holds

/-- **So does everything else that happens to a service.** -/
theorem holds_undergo {service : Service} (stable : Channel.Stable law)
    (holds : service.exchange.Holds id law) (event : Event) :
    (service.undergo event).exchange.Holds id law := by
  cases event with
  | action action =>
    show (service.act action).exchange.Holds id law
    rw [(service.act_effect action).2]
    exact holds_postAll stable holds _
  | openChannel client sink => exact holds_openChannel holds client sink
  | close other => exact holds_modify holds other _ stable.closed
  | disown other => exact holds_modify holds other _ stable.disowned
  | desert other => exact holds_modify holds other _ stable.deserted

end Exchange

/-! ## Stages -/

/-- The place of a stage in a life. -/
def Stage.rank : Stage → Nat
  | .connecting => 0
  | .active => 1
  | .disconnecting => 2
  | .closed => 3

theorem Stage.rank_le_closed (stage : Stage) : stage.rank ≤ Stage.closed.rank := by
  cases stage <;> decide

theorem Stage.eq_closed_of_rank {stage : Stage} (last : Stage.closed.rank ≤ stage.rank) :
    stage = .closed := by
  cases stage with
  | closed => rfl
  | _ => exact absurd last (by decide)

namespace Session

/-! ## Turns -/

/-- What comes next in a life: the session is asked for something, or something happens to the
service. -/
inductive Turn where
  | move (move : Move)
  | respond (response : Response)
  | silence
  | event (event : Event)

/-- The session and the service after a turn. -/
def turn (session : Session) (service : Service) : Turn → Session × Service
  | .move move => session.move service move
  | .respond response => ((session.respond response).2, service)
  | .silence => (session.silence, service)
  | .event event => (session, service.undergo event)

/-- The session and the service after turns in order. -/
def live (now : Session × Service) (turns : List Turn) : Session × Service :=
  turns.foldl (fun now turn => now.1.turn now.2 turn) now

theorem live_append (now : Session × Service) (first second : List Turn) :
    live now (first ++ second) = live (live now first) second :=
  List.foldl_append

variable (session : Session) (service : Service)

/-! ## What a subscription leaves alone -/

theorem subscribe_of_idle (idle : session.stage ≠ .active) (key : String) :
    session.subscribe service key
      = (.error (.session (.notActive session.id)), session, service) :=
  if_pos idle

theorem unsubscribe_of_idle (idle : session.stage ≠ .active) (key : String) :
    session.unsubscribe service key
      = (.error (.session (.notActive session.id)), session, service) :=
  if_pos idle

/-- To subscribe changes the list alone, and sends nothing. -/
theorem subscribe_frame (key : String) :
    (∃ keys, (session.subscribe service key).2.1 = { session with keys })
      ∧ (session.subscribe service key).2.2.exchange = service.exchange := by
  by_cases active : session.stage = .active
  · obtain ⟨told, -, quiet, ⟨-, -, done⟩ | ⟨-, done⟩⟩ := subscribe_cases active key
    · rw [done]
      exact ⟨⟨_, rfl⟩, quiet⟩
    · rw [done]
      exact ⟨⟨_, rfl⟩, (told.after_exchange_of_quiet (fun _ => rfl) _).trans quiet⟩
  · rw [session.subscribe_of_idle service active]
    exact ⟨⟨session.keys, rfl⟩, rfl⟩

/-- And so does to unsubscribe. -/
theorem unsubscribe_frame (key : String) :
    (∃ keys, (session.unsubscribe service key).2.1 = { session with keys })
      ∧ (session.unsubscribe service key).2.2.exchange = service.exchange := by
  by_cases active : session.stage = .active
  · have quiet : (service.after (service.store.settings.keyFault? key)
        [.unwatch key session.id]).exchange = service.exchange :=
      service.after_exchange_of_quiet (fun _ => rfl) _
    unfold unsubscribe
    rw [if_neg (not_not.2 active), Service.apply_unwatch]
    cases service.store.isWatched key session.id with
    | error error => exact ⟨⟨session.keys, rfl⟩, quiet⟩
    | ok removed => exact ⟨⟨_, rfl⟩, quiet⟩
  · rw [session.unsubscribe_of_idle service active]
    exact ⟨⟨session.keys, rfl⟩, rfl⟩

theorem giveUp_exchange (keys : List String) :
    (session.giveUp service keys).exchange = service.exchange := by
  induction keys generalizing service with
  | nil => rfl
  | cons key rest ih =>
    obtain ⟨next, -, quiet, onward⟩ := session.giveUp_cons service key rest
    rw [onward, ih, quiet]

theorem respond_frame (response : Response) :
    ∃ responses, (session.respond response).2 = { session with responses } := by
  unfold respond
  split
  · exact ⟨_, rfl⟩
  · exact ⟨session.responses, rfl⟩

/-! ## One turn -/

end Session

/-- **The stage after a turn:** it depends on the stage alone. -/
def Stage.after (stage : Stage) : Session.Turn → Stage
  | .move .activate => if stage = .connecting then .active else stage
  | .move .startLeaving => if stage = .active then .disconnecting else stage
  | .move .close => .closed
  | _ => stage

theorem Stage.rank_after (stage : Stage) (turn : Session.Turn) :
    stage.rank ≤ (stage.after turn).rank := by
  unfold after
  split
  · split
    · next first =>
      rw [first]
      decide
    · exact Nat.le_refl _
  · split
    · next active =>
      rw [active]
      decide
    · exact Nat.le_refl _
  · exact stage.rank_le_closed
  · exact Nat.le_refl _

/-- Only closing leads to the last stage. -/
theorem Stage.after_eq_closed_iff (stage : Stage) (turn : Session.Turn) :
    stage.after turn = .closed ↔ stage = .closed ∨ turn = .move .close := by
  unfold after
  split
  · split
    · next first => simp [first]
    · simp
  · split
    · next active => simp [active]
    · simp
  · simp
  · next _ _ other => exact (or_iff_left other).symm

namespace Session

variable (session : Session) (service : Service)

/-- Once a session is closed, the signal is given, no key is left, and the channel, which it always
has, is closed. -/
structure Sound (session : Session) (service : Service) : Prop where
  signal : session.isClosed = true ↔ session.stage = .closed
  keys : session.stage = .closed → session.keys = []
  channel : service.exchange.Holds session.channel fun channel =>
    session.stage = .closed → channel.isOpen = false

/-- What a session and a service are after a turn. -/
structure Turned (session : Session) (service : Service) (turn : Turn)
    (after : Session × Service) : Prop where
  watcher : after.1.watcher = session.watcher
  stage : after.1.stage = session.stage.after turn
  sound : session.Sound service → after.1.Sound after.2
  stable : ∀ {id law}, Channel.Stable law → service.exchange.Holds id law →
    after.2.exchange.Holds id law

variable {session service} in
/-- A turn that does not close a session leaves the signal alone, and the list of a closed one. -/
theorem turned_of_ne_close {turn : Turn} {after : Session × Service}
    (keys : List String) (responses : Sink) (isAnswering : Bool) (other : turn ≠ .move .close)
    (same : after.1
      = { session with stage := session.stage.after turn, keys, responses, isAnswering })
    (kept : session.stage = .closed → keys = session.keys)
    (stable : ∀ {id law}, Channel.Stable law → service.exchange.Holds id law →
      after.2.exchange.Holds id law) :
    session.Turned service turn after := by
  have still : session.stage.after turn = .closed ↔ session.stage = .closed := by
    rw [Stage.after_eq_closed_iff, or_iff_left other]
  obtain ⟨_, next⟩ := after
  subst same
  refine ⟨rfl, rfl, fun sound => ⟨?_, ?_, ?_⟩, stable⟩
  · exact sound.signal.trans still.symm
  · intro closed
    have before := still.1 closed
    exact (kept before).trans (sound.keys before)
  · have channel := stable (Channel.stable_closed_of _) sound.channel
    dsimp only
    rw [still]
    exact channel

theorem turned_close : session.Turned service (.move .close) (session.close service).2 := by
  by_cases closed : session.stage = .closed
  · have same : (session.close service).2 = (session, service) := by
      rw [close, if_pos closed]
    rw [same]
    exact ⟨rfl, closed, fun sound => sound, fun _ holds => holds⟩
  · have quiet := session.giveUp_exchange service session.keys
    rw [close, if_neg closed]
    refine ⟨rfl, rfl, fun sound => ⟨by simp, fun _ => rfl, ?_⟩, fun stable holds => ?_⟩
    · obtain ⟨channel, here, -⟩ := sound.channel
      refine ⟨{ channel with isOpen := false }, ?_, fun _ => rfl⟩
      show ((session.giveUp service session.keys).exchange.modify _ _).channel? _ = _
      rw [quiet, Exchange.channel?_modify, if_pos rfl, here]
      rfl
    · show ((session.giveUp service session.keys).exchange.modify _ _).Holds _ _
      rw [quiet]
      exact Exchange.holds_modify holds _ _ stable.closed

/-- **Every turn advances the stage as `Stage.after` says,** and keeps a session sound. -/
theorem turned_turn (turn : Turn) :
    session.Turned service turn (session.turn service turn) := by
  cases turn with
  | move move =>
    cases move with
    | activate =>
      refine turned_of_ne_close session.keys session.responses session.isAnswering (by simp) ?_
        (fun _ => rfl) (fun _ holds => holds)
      show session.activate = _
      unfold activate Stage.after
      split <;> rfl
    | startLeaving =>
      refine turned_of_ne_close session.keys session.responses session.isAnswering (by simp) ?_
        (fun _ => rfl) (fun _ holds => holds)
      show session.startLeaving.2 = _
      unfold startLeaving Stage.after
      split <;> rfl
    | subscribe key =>
      obtain ⟨⟨keys, same⟩, quiet⟩ := session.subscribe_frame service key
      refine turned_of_ne_close keys _ _ (by simp) same (fun closed => ?_) (fun _ holds => ?_)
      · have idle := session.subscribe_of_idle service (by rw [closed]; decide) key
        rw [idle] at same
        exact (congrArg Session.keys same).symm
      · exact quiet ▸ holds
    | unsubscribe key =>
      obtain ⟨⟨keys, same⟩, quiet⟩ := session.unsubscribe_frame service key
      refine turned_of_ne_close keys _ _ (by simp) same (fun closed => ?_) (fun _ holds => ?_)
      · have idle := session.unsubscribe_of_idle service (by rw [closed]; decide) key
        rw [idle] at same
        exact (congrArg Session.keys same).symm
      · exact quiet ▸ holds
    | close => exact session.turned_close service
  | respond response =>
    obtain ⟨responses, same⟩ := session.respond_frame response
    exact turned_of_ne_close _ responses _ (by simp) same (fun _ => rfl) (fun _ holds => holds)
  | silence =>
    exact turned_of_ne_close session.keys session.responses false (by simp) rfl (fun _ => rfl)
      (fun _ holds => holds)
  | event event =>
    exact turned_of_ne_close session.keys session.responses session.isAnswering (by simp) rfl
      (fun _ => rfl) fun stable holds => Exchange.holds_undergo stable holds event

/-! ## A whole life -/

/-- **Turn after turn:** the stage advances, closing alone makes it the last, and soundness and the
laws of channels go on. -/
theorem live_spec (now : Session × Service) (turns : List Turn) :
    let later := live now turns
    later.1.watcher = now.1.watcher ∧ now.1.stage.rank ≤ later.1.stage.rank
      ∧ (later.1.stage = .closed ↔ now.1.stage = .closed ∨ .move .close ∈ turns)
      ∧ (now.1.Sound now.2 → later.1.Sound later.2)
      ∧ ∀ {id law}, Channel.Stable law → now.2.exchange.Holds id law →
          later.2.exchange.Holds id law := by
  induction turns generalizing now with
  | nil => exact ⟨rfl, Nat.le_refl _, by simp [live], fun sound => sound, fun _ holds => holds⟩
  | cons turn rest ih =>
    have first := turned_turn now.1 now.2 turn
    obtain ⟨watcher, rank, closed, sound, stable⟩ := ih (now.1.turn now.2 turn)
    refine ⟨watcher.trans first.watcher, ?_, ?_, fun before => sound (first.sound before),
      fun lawful holds => stable lawful (first.stable lawful holds)⟩
    · have step := Stage.rank_after now.1.stage turn
      rw [← first.stage] at step
      exact step.trans rank
    · refine closed.trans ?_
      rw [first.stage, Stage.after_eq_closed_iff, List.mem_cons, or_assoc, eq_comm (a := turn)]

/-- A session that has just been connected is sound. -/
theorem sound_connect (service : Service) (id : ClientId) (slot maxKeys : Nat)
    (notifications responses : Sink) :
    let start := connect service id slot maxKeys notifications responses
    start.1.Sound start.2 := by
  refine ⟨by simp [connect], fun _ => rfl, { client := id, sink := notifications }, ?_, ?_⟩
  · show (service.exchange.openChannel id notifications).2.channel?
      service.exchange.channels.size = _
    rw [Exchange.channel?_openChannel, if_pos rfl]
  · rintro ⟨⟩

/-- To close succeeds unless the session is closed. -/
theorem close_answer (session : Session) (service : Service) :
    (session.close service).1 = true ↔ session.stage ≠ .closed := by
  unfold close
  split
  · next closed => simp [closed]
  · next running => simp [running]

theorem startLeaving_answer (session : Session) :
    session.startLeaving.1 = true ↔ session.stage = .active := by
  unfold startLeaving
  split
  · next active => simp [active]
  · next idle => simp [idle]

/-- **The life of a session,** at any time of it and at any later one. Its stage never goes back. It
is closed exactly if it was asked to close, whenever that was; then it stays closed, the next
closing says no, and the close signal tells just this. A closed session lists nothing, and the
notification channel that it has from its beginning is closed and takes nothing more. A session that
is not active refuses to subscribe and to unsubscribe, and nothing comes of it. Once the client has
begun to leave, it cannot begin again. -/
theorem life_of_session (service : Service) (id : ClientId) (slot maxKeys : Nat)
    (notifications responses : Sink) (before meanwhile : List Turn) :
    let start := connect service id slot maxKeys notifications responses
    let now := live start before
    let later := live now meanwhile
    later = live start (before ++ meanwhile)
      ∧ now.1.channel = start.1.channel
      ∧ now.1.stage.rank ≤ later.1.stage.rank
      ∧ (now.1.stage = .closed ↔ .move .close ∈ before)
      ∧ ((now.1.close now.2).1 = true ↔ .move .close ∉ before)
      ∧ (now.1.stage = .closed → later.1.stage = .closed)
      ∧ (now.1.isClosed = true ↔ now.1.stage = .closed)
      ∧ (now.1.stage = .closed →
          now.1.keys = [] ∧ now.2.exchange.isClosed start.1.channel = true
          ∧ ∃ taken,
              (now.2.exchange.channel? start.1.channel).map (·.sink.taken) = some taken
              ∧ (later.2.exchange.channel? start.1.channel).map (·.sink.taken) = some taken)
      ∧ (now.1.stage ≠ .active → ∀ key,
          now.1.subscribe now.2 key = (.error (.session (.notActive id)), now)
          ∧ now.1.unsubscribe now.2 key = (.error (.session (.notActive id)), now))
      ∧ (now.1.startLeaving.1 = true →
          (live (now.1.turn now.2 (.move .startLeaving)) meanwhile).1.startLeaving.1 = false) := by
  intro start now later
  obtain ⟨watcher, -, closed, sound, -⟩ := live_spec start before
  obtain ⟨-, rank, -, -, stable⟩ := live_spec now meanwhile
  have sane : now.1.Sound now.2 := sound (sound_connect service id slot maxKeys _ _)
  have ours : now.1.id = id := congrArg Watcher.client watcher
  have channel : now.1.channel = start.1.channel := congrArg Watcher.channel watcher
  have fresh : start.1.stage ≠ .closed := by
    intro already
    cases already
  rw [or_iff_right fresh] at closed
  refine ⟨(live_append start before meanwhile).symm, channel, rank, closed, ?_, ?_, sane.signal,
    ?_, ?_, ?_⟩
  · rw [close_answer, Ne, closed]
  · intro shut
    rw [shut] at rank
    exact Stage.eq_closed_of_rank rank
  · intro shut
    obtain ⟨own, here, closes⟩ := sane.channel
    have isShut := closes shut
    rw [channel] at here
    obtain ⟨still, there, -, same⟩ :=
      stable (Channel.stable_shut own.sink.taken) ⟨own, here, isShut, rfl⟩
    refine ⟨sane.keys shut, ?_, own.sink.taken, ?_, ?_⟩
    · rw [Exchange.isClosed, here, Option.map_some, Option.getD_some, isShut]
      rfl
    · rw [here]
      rfl
    · rw [there, Option.map_some, same]
  · intro idle key
    rw [← ours]
    exact ⟨now.1.subscribe_of_idle now.2 idle key, now.1.unsubscribe_of_idle now.2 idle key⟩
  · intro began
    have active := (startLeaving_answer now.1).1 began
    have left := (turned_turn now.1 now.2 (.move .startLeaving)).stage
    obtain ⟨-, onward, -⟩ := live_spec (now.1.turn now.2 (.move .startLeaving)) meanwhile
    rw [left, active] at onward
    rw [← Bool.not_eq_true, startLeaving_answer]
    intro again
    rw [again] at onward
    exact absurd onward (by decide)

/-- One frame is taken while the session is active, and nothing after it is closed. -/
example :
    let start := connect { store := .ofSettings {} } 1 0 4 {} {}
    let put (value : String) : Turn := .event (.action (.perform (.put "a" value)))
    let reached := live start
      [.move .activate, put "1", .move (.subscribe "a"), put "2", .move .close, put "3"]
    reached.1.stage = .closed
      ∧ (reached.2.exchange.channel? 0).map (·.sink.taken.length) = some 82 := by
  decide +kernel

end Session

end KeyWatch
