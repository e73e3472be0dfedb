/-
# Proofs.SessionClose -- what a closed session leaves of the store

A session that is closed walks through its own list of keys and no further. If the list misses no
record of its client (`Session.Mirrors`), this is enough: what is left is the store without the
records of that client (`Store.forgetting`), every entry in its place, with its key, its value and
the records of the others in their order. Keys that are listed and carry no record any more, since
their entry was deleted or made again, are given up to no effect.

A reset does the same for one session after another (`Host.reset_eq`). Nobody is told: the channels
of the sessions are closed, and no sink is touched.
-/
import KeyWatch.Proofs.Quota
import KeyWatch.Proofs.SessionStages
import KeyWatch.Session.Host

namespace KeyWatch

set_option autoImplicit false

/-! ## Forgetting clients -/

/-- An entry without the records of clients. -/
def Entry.forgetting (clients : List ClientId) (entry : Entry) : Entry :=
  { entry with watchers := entry.watchers.filter (·.client ∉ clients) }

/-- **A store without the records of clients:** every entry in its place, with its key, its value, and
its other watchers in their order. -/
def Store.forgetting (clients : List ClientId) (store : Store) : Store :=
  store.mapEntries (Entry.forgetting clients)

theorem Entry.forgetting_of_unknown {entry : Entry} {clients : List ClientId}
    (unknown : ∀ client ∈ clients, entry.watchers.has client = false) :
    entry.forgetting clients = entry := by
  refine congrArg (Entry.mk entry.key entry.value) (List.filter_eq_self.2 fun watcher member => ?_)
  rw [decide_eq_true_iff]
  intro forgotten
  have known : entry.watchers.has watcher.client = true :=
    List.any_eq_true.2 ⟨watcher, member, by simp⟩
  rw [unknown watcher.client forgotten] at known
  cases known

theorem Entry.unwatchedBy_eq_forgetting (client : ClientId) (entry : Entry) :
    entry.unwatchedBy client = entry.forgetting [client] := by
  refine congrArg (Entry.mk entry.key entry.value) (List.filter_congr fun watcher _ => ?_)
  simp [bne, BEq.beq]

namespace Store

variable {store : Store}

theorem forgetting_forgetting (first second : List ClientId) (store : Store) :
    (store.forgetting first).forgetting second = store.forgetting (first ++ second) := by
  refine (store.mapEntries_mapEntries _ _).trans (mapEntries_congr fun entry _ => ?_)
  refine congrArg (Entry.mk entry.key entry.value) ?_
  show (entry.watchers.filter _).filter _ = _
  rw [List.filter_filter]
  refine List.filter_congr fun watcher _ => ?_
  simp [Bool.and_comm]

/-- The clients of no record are forgotten to no effect. -/
theorem forgetting_of_unknown {clients : List ClientId}
    (unknown : ∀ entry ∈ store.entries, ∀ client ∈ clients, entry.watchers.has client = false) :
    store.forgetting clients = store :=
  (mapEntries_congr fun entry stored => Entry.forgetting_of_unknown (unknown entry stored)).trans
    store.mapEntries_id

end Store

/-! ## Channels closed in their places -/

/-- An exchange with some channels closed; whatever they have taken, they keep. -/
def Exchange.shut (ids : List ChannelId) (exchange : Exchange) : Exchange :=
  ⟨exchange.channels.mapIdx fun id channel =>
    if id ∈ ids then { channel with isOpen := false } else channel⟩

namespace Exchange

variable (exchange : Exchange)

theorem ext_channel? {first second : Exchange}
    (same : ∀ id, first.channel? id = second.channel? id) : first = second := by
  obtain ⟨firsts⟩ := first
  obtain ⟨seconds⟩ := second
  exact congrArg Exchange.mk (Array.ext_getElem? same)

theorem channel?_shut (ids : List ChannelId) (id : ChannelId) :
    (exchange.shut ids).channel? id = (exchange.channel? id).map fun channel =>
      if id ∈ ids then { channel with isOpen := false } else channel :=
  Array.getElem?_mapIdx

theorem isClosed_shut {ids : List ChannelId} {id : ChannelId} (given : id ∈ ids) :
    (exchange.shut ids).isClosed id = true := by
  unfold isClosed
  rw [channel?_shut, Option.map_map]
  cases exchange.channel? id with
  | none => rfl
  | some channel => simp [given]

theorem shut_nil : exchange.shut [] = exchange :=
  ext_channel? fun id => by simp [channel?_shut]

theorem shut_shut (first second : List ChannelId) :
    (exchange.shut first).shut second = exchange.shut (first ++ second) := by
  refine ext_channel? fun id => ?_
  rw [channel?_shut, channel?_shut, channel?_shut, Option.map_map]
  refine congrArg (fun change => (exchange.channel? id).map change) (funext fun channel => ?_)
  by_cases former : id ∈ first <;> by_cases latter : id ∈ second <;>
    simp [former, latter]

theorem close_eq_shut (id : ChannelId) : exchange.close id = exchange.shut [id] := by
  refine ext_channel? fun other => ?_
  rw [close, channel?_modify, channel?_shut]
  by_cases same : id = other
  · simp [same]
  · simp [same, Ne.symm same]

/-- A channel that is closed already is closed to no effect. -/
theorem shut_of_holds {id : ChannelId} (holds : exchange.Holds id (·.isOpen = false)) :
    exchange.shut [id] = exchange := by
  obtain ⟨channel, here, shut⟩ := holds
  refine ext_channel? fun other => ?_
  rw [channel?_shut]
  by_cases same : other = id
  · rw [same, here, Option.map_some, if_pos (List.mem_singleton.2 rfl), ← shut]
  · simp [same]

end Exchange

/-- **A service that sessions have left:** without their records, and with their channels closed. -/
def Service.leftBy (sessions : List Session) (warnings : List Warning) (service : Service) :
    Service :=
  { service with
    store := service.store.forgetting (sessions.map (·.id))
    exchange := service.exchange.shut (sessions.map (·.channel))
    warnings }

namespace Service

variable (service : Service) (warnings : List Warning)

theorem leftBy_nil : service.leftBy [] service.warnings = service := by
  have store : service.store.forgetting [] = service.store :=
    Store.forgetting_of_unknown fun _ _ _ none => absurd none List.not_mem_nil
  rw [leftBy, List.map_nil, List.map_nil, store, Exchange.shut_nil]

theorem leftBy_leftBy (first second : List Session) (passing : List Warning) :
    (service.leftBy first passing).leftBy second warnings
      = service.leftBy (first ++ second) warnings := by
  simp only [leftBy, Store.forgetting_forgetting, Exchange.shut_shut, List.map_append]

end Service

/-- Unwatched for one key and then for others is unwatched for all of them. -/
theorem Entry.unwatchedBy_unwatchedBy (client : ClientId) (key : String) (rest : List String)
    (entry : Entry) :
    (let first := if entry.key = key then entry.unwatchedBy client else entry
      if first.key ∈ rest then first.unwatchedBy client else first)
      = if entry.key ∈ key :: rest then entry.unwatchedBy client else entry := by
  by_cases hit : entry.key = key
  · -- the same key once more in the rest changes nothing more
    have twice : (entry.unwatchedBy client).unwatchedBy client = entry.unwatchedBy client :=
      congrArg (Entry.mk entry.key entry.value) (Watchers.remove_remove entry.watchers client)
    simp [hit, twice]
  · simp [hit]

/-! ## One session -/

namespace Session

variable {session : Session} {service : Service}

/-- Giving up keys takes the client from the entries of these keys. -/
theorem giveUp_eq (session : Session) (service : Service) (orderly : service.store.Orderly)
    (keys : List String) :
    (session.giveUp service keys).store
      = service.store.mapEntries fun entry =>
          if entry.key ∈ keys then entry.unwatchedBy session.id else entry := by
  induction keys generalizing service with
  | nil =>
    refine service.store.mapEntries_id.symm.trans (Store.mapEntries_congr fun entry _ => ?_)
    exact (if_neg List.not_mem_nil).symm
  | cons key rest ih =>
    obtain ⟨next, same, -, onward⟩ := session.giveUp_cons service key rest
    have first := Store.after_of_modifies orderly (Edit.modifies_unwatch key session.id)
    have kept : next.store.Orderly := by
      rw [same]
      exact Store.orderly_onStore orderly _
        ((Action.unwatch key session.id).admitted_effect service.store.settings)
    rw [onward, ih next kept, same]
    refine (congrArg (Store.mapEntries _) first).trans ?_
    rw [Store.mapEntries_mapEntries]
    refine Store.mapEntries_congr fun entry _ => ?_
    exact entry.unwatchedBy_unwatchedBy session.id key rest

/-- Of a service, giving up keys changes the store and the warnings only. -/
theorem giveUp_frame (session : Session) (service : Service) (keys : List String) :
    ∃ store warnings, session.giveUp service keys = { service with store, warnings } := by
  induction keys generalizing service with
  | nil => exact ⟨service.store, service.warnings, rfl⟩
  | cons key rest ih =>
    have quiet : service.store.owed (service.store.settings.keyFault? key)
        [.unwatch key session.id] = [] := Store.owed_of_quiet _ (fun _ => rfl) _
    rw [giveUp, Service.apply_unwatch, Service.after, quiet, Service.announce_nil]
    cases service.store.isWatched key session.id with
    | error error => exact ih _
    | ok removed => exact ih _

/-- The list of a session misses no record, and its stage, its signal and its channel agree. -/
structure InOrder (session : Session) (service : Service) : Prop where
  mirrors : session.Mirrors service.store
  sound : session.Sound service

/-- A session stays in order while others change neither its records nor its channel. -/
theorem InOrder.elsewhere {after : Service} (inOrder : session.InOrder service)
    (records : ∀ key, after.store.Carries key session.id → service.store.Carries key session.id)
    (stable : ∀ {id law}, Channel.Stable law → service.exchange.Holds id law →
      after.exchange.Holds id law) : session.InOrder after where
  mirrors := ⟨inOrder.mirrors.distinct, inOrder.mirrors.within, fun key carries =>
    inOrder.mirrors.listed key (records key carries)⟩
  sound := ⟨inOrder.sound.signal, inOrder.sound.keys,
    stable (Channel.stable_closed_of _) inOrder.sound.channel⟩

/-- A session when it is closed. -/
def shut (session : Session) : Session :=
  { session with stage := .closed, keys := [], isClosed := true }

/-- **To close a session takes its records and its channel, and nothing else:** it answers whether it
was open, leaves the service as `Service.leftBy` has it, and writes nothing. -/
theorem close_eq (orderly : service.store.Orderly) (inOrder : session.InOrder service) :
    ∃ warnings, session.close service
      = (decide (session.stage ≠ .closed), session.shut, service.leftBy [session] warnings) := by
  have listed : ∀ entry ∈ service.store.entries, entry.watchers.has session.id = true →
      entry.key ∈ session.keys ∧ session.stage ≠ .closed := fun entry stored has =>
    inOrder.mirrors.listed entry.key
      ((Store.carries_iff_mem_entries orderly _ _).2 ⟨entry, stored, rfl, has⟩)
  by_cases closed : session.stage = .closed
  · -- no record, no key and no channel is left from the first time
    have store : service.store.forgetting [session.id] = service.store :=
      Store.forgetting_of_unknown fun entry stored client same => by
        rw [List.mem_singleton.1 same, ← Bool.not_eq_true]
        exact fun has => (listed entry stored has).2 closed
    obtain ⟨channel, here, shut⟩ := inOrder.sound.channel
    have exchange := service.exchange.shut_of_holds ⟨channel, here, shut closed⟩
    have still : session.shut = session := by
      rw [Session.shut, ← inOrder.sound.keys closed, ← inOrder.sound.signal.2 closed, ← closed]
    refine ⟨service.warnings, ?_⟩
    rw [close, if_pos closed, still, Service.leftBy, List.map_singleton, List.map_singleton, store,
      exchange]
    simp [closed]
  · obtain ⟨store, warnings, gaveUp⟩ := session.giveUp_frame service session.keys
    have left : store = service.store.forgetting [session.id] := by
      refine (congrArg Service.store gaveUp).symm.trans
        ((giveUp_eq session service orderly session.keys).trans
          (Store.mapEntries_congr fun entry stored => ?_))
      split
      · exact entry.unwatchedBy_eq_forgetting session.id
      · next absent =>
        refine (Entry.forgetting_of_unknown fun client same => ?_).symm
        rw [List.mem_singleton.1 same, ← Bool.not_eq_true]
        exact fun has => absent (listed entry stored has).1
    refine ⟨warnings, ?_⟩
    rw [close, if_neg closed, gaveUp, left]
    simp [closed, Service.leftBy, Session.shut, Exchange.close_eq_shut]

end Session

/-! ## All sessions that are being served -/

/-- What a worker does once its session is closed and silenced by somebody else. -/
def Worker.dismissed : Worker → Worker
  | .serving visit => .serving { visit with session := visit.session.shut.silence }
  | worker => worker

namespace Host

theorem resetWorkers_serving (service : Service) (visit : Visit) (rest : List Worker) :
    resetWorkers service (.serving visit :: rest)
      = (let closed := visit.session.close service
        let later := resetWorkers closed.2.2 rest
        (later.1 + closed.1.toNat,
          .serving { visit with session := closed.2.1.silence } :: later.2.1, later.2.2)) := rfl

/-- **A reset takes the records and the channels of the sessions that are being served, and nothing
else.** It counts those that were not closed, and leaves every worker where it is. -/
theorem resetWorkers_eq {service : Service} {workers : List Worker}
    (orderly : service.store.Orderly)
    (inOrder : ∀ visit ∈ workers.filterMap visit?, visit.session.InOrder service)
    (distinct : ((workers.filterMap visit?).map (·.session.id)).Nodup) :
    ∃ warnings, resetWorkers service workers
      = ((workers.filterMap visit?).countP (·.session.stage ≠ .closed),
          workers.map Worker.dismissed,
          service.leftBy ((workers.filterMap visit?).map (·.session)) warnings) := by
  induction workers generalizing service with
  | nil => exact ⟨service.warnings, congrArg (fun after => (0, [], after)) service.leftBy_nil.symm⟩
  | cons worker rest ih =>
    cases worker with
    | serving visit =>
      obtain ⟨first, others⟩ := List.forall_mem_cons.1 inOrder
      obtain ⟨fresh, apart⟩ := List.nodup_cons.1 distinct
      have moved := Session.moved_close orderly first.mirrors
      have turned := visit.session.turned_close service
      have unlike : ∀ other ∈ rest.filterMap visit?, other.session.id ≠ visit.session.id :=
        fun other member same => fresh (List.mem_map.2 ⟨other, member, same⟩)
      obtain ⟨warnings, later⟩ := ih moved.orderly
        (fun other member => (others other member).elsewhere
          (fun key => (moved.others key other.session.id (unlike other member)).1) turned.stable)
        apart
      obtain ⟨passing, closing⟩ := Session.close_eq orderly first
      refine ⟨warnings, ?_⟩
      rw [resetWorkers_serving]
      dsimp only
      have seen : (Worker.serving visit :: rest).filterMap visit? = visit :: rest.filterMap visit? :=
        rfl
      rw [later, closing, Service.leftBy_leftBy, seen, List.countP_cons, Bool.toNat,
        Bool.cond_eq_ite]
      rfl
    | idle =>
      obtain ⟨warnings, later⟩ := ih orderly inOrder distinct
      refine ⟨warnings, ?_⟩
      simp only [resetWorkers, later]
      rfl
    | admitting request =>
      obtain ⟨warnings, later⟩ := ih orderly inOrder distinct
      refine ⟨warnings, ?_⟩
      simp only [resetWorkers, later]
      rfl

/-- **A reset, as a whole.** -/
theorem reset_eq {host : Host} (orderly : host.service.store.Orderly)
    (inOrder : ∀ visit ∈ host.visits, visit.session.InOrder host.service)
    (distinct : (host.visits.map (·.session.id)).Nodup) :
    ∃ warnings, host.reset
      = (host.visits.countP (·.session.stage ≠ .closed),
          { host with
            workers := host.workers.map Worker.dismissed
            service := host.service.leftBy (host.visits.map (·.session)) warnings }) := by
  obtain ⟨warnings, done⟩ := resetWorkers_eq orderly inOrder distinct
  exact ⟨warnings, by rw [reset, done]; rfl⟩

theorem visits_dismissed (workers : List Worker) :
    (workers.map Worker.dismissed).filterMap visit?
      = (workers.filterMap visit?).map fun visit =>
          { visit with session := visit.session.shut.silence } := by
  rw [List.filterMap_map, List.map_filterMap]
  refine List.filterMap_congr fun worker _ => ?_
  cases worker <;> rfl

end Host

end KeyWatch
