/-
# Proofs.Clientele -- what a session lists and what the entries record

A session lists the keys that its client watches, and the entries record their watchers; each is
changed without the other. Entries come and go behind the back of a session, so the list may name
keys that carry no record any more. It never misses one: `Session.Mirrors` is kept by every move of
the session (`moved_move`), by the moves of other sessions, which touch no record but their own,
and by every action on the store. A subscription prunes the list first, and leaves it exact
(`Session.mem_keys_subscribe`).
-/
import KeyWatch.Proofs.Watching
import KeyWatch.Session.Basic

namespace KeyWatch

set_option autoImplicit false

namespace Session

/-! ## Pruning -/

variable (session : Session) (store : Store)

theorem prune_sublist (keys : List String) : (session.prune store keys).1.Sublist keys := by
  induction keys with
  | nil => exact List.Sublist.refl _
  | cons key rest ih =>
    unfold prune
    cases store.isWatched key session.id with
    | error error => exact ih.cons key
    | ok watched =>
      cases watched with
      | true => exact ih.cons_cons key
      | false => exact ih.cons key

theorem mem_prune (keys : List String) (wanted : String) :
    wanted ∈ (session.prune store keys).1
      ↔ wanted ∈ keys ∧ store.isWatched wanted session.id = .ok true := by
  induction keys with
  | nil => simp [prune]
  | cons key rest ih =>
    unfold prune
    rw [List.mem_cons]
    cases asked : store.isWatched key session.id with
    | error error =>
      refine ih.trans ⟨fun ⟨member, watched⟩ => ⟨.inr member, watched⟩, ?_⟩
      rintro ⟨rfl | member, watched⟩
      · rw [asked] at watched
        cases watched
      · exact ⟨member, watched⟩
    | ok watched =>
      cases watched with
      | true =>
        show wanted ∈ key :: (session.prune store rest).1 ↔ _
        rw [List.mem_cons, ih]
        constructor
        · rintro (rfl | ⟨member, watched⟩)
          · exact ⟨.inl rfl, asked⟩
          · exact ⟨.inr member, watched⟩
        · rintro ⟨rfl | member, watched⟩
          · exact .inl rfl
          · exact .inr ⟨member, watched⟩
      | false =>
        refine ih.trans ⟨fun ⟨member, watched⟩ => ⟨.inr member, watched⟩, ?_⟩
        rintro ⟨rfl | member, watched⟩
        · rw [asked] at watched
          cases watched
        · exact ⟨member, watched⟩

/-! ## Giving keys up -/

/-- Giving up keys goes on after the first one is unwatched, whether or not the store refuses. -/
theorem giveUp_cons (service : Service) (key : String) (rest : List String) :
    ∃ next : Service,
      next.store = service.store.after (service.store.settings.keyFault? key)
        [.unwatch key session.id]
      ∧ next.exchange = service.exchange
      ∧ session.giveUp service (key :: rest) = session.giveUp next rest := by
  have quiet : (service.after (service.store.settings.keyFault? key)
      [.unwatch key session.id]).exchange = service.exchange :=
    service.after_exchange_of_quiet (fun _ => rfl) _
  rw [giveUp, Service.apply_unwatch]
  cases service.store.isWatched key session.id with
  | error error =>
    refine ⟨_, ?_, ?_, rfl⟩
    · rfl
    · exact quiet
  | ok removed =>
    refine ⟨_, ?_, ?_, rfl⟩
    · rfl
    · exact quiet

/-- What is left of the store when a client gives up keys. -/
theorem giveUp_store (service : Service) (orderly : service.store.Orderly) (keys : List String) :
    (session.giveUp service keys).store.Orderly
      ∧ (session.giveUp service keys).store.settings = service.store.settings
      ∧ ∀ key client, (session.giveUp service keys).store.Carries key client
        ↔ service.store.Carries key client ∧ ¬ (key ∈ keys ∧ client = session.id) := by
  induction keys generalizing service with
  | nil => exact ⟨orderly, rfl, fun key client => by simp [giveUp]⟩
  | cons first rest ih =>
    obtain ⟨next, same, -, onward⟩ := session.giveUp_cons service first rest
    have kept : next.store.Orderly := by
      rw [same]
      exact Store.orderly_onStore orderly _
        ((Action.unwatch first session.id).admitted_effect service.store.settings)
    obtain ⟨orderly', settings, records⟩ := ih next kept
    rw [onward]
    refine ⟨orderly', ?_, fun key client => ?_⟩
    · rw [settings, same, Store.after_settings]
    · rw [records, same, Store.carries_unwatch orderly, List.mem_cons]
      constructor
      · rintro ⟨⟨carries, notFirst⟩, notRest⟩
        refine ⟨carries, ?_⟩
        rintro ⟨rfl | member, ours⟩
        · exact notFirst ⟨rfl, ours⟩
        · exact notRest ⟨member, ours⟩
      · rintro ⟨carries, others⟩
        exact ⟨⟨carries, fun ⟨hit, ours⟩ => others ⟨.inl hit, ours⟩⟩,
          fun ⟨member, ours⟩ => others ⟨.inr member, ours⟩⟩

/-! ## What a session lists -/

/-- The list of a session has no key twice, keeps its limit, and misses no record of its client; a
closed session has none. -/
structure Mirrors (session : Session) (store : Store) : Prop where
  distinct : session.keys.Nodup
  within : session.keys.length ≤ session.maxKeys
  listed : ∀ key, store.Carries key session.id → key ∈ session.keys ∧ session.stage ≠ .closed

variable {session : Session} {service : Service}

theorem mirrors_connecting (store : Store) (none : session.keys = [])
    (unknown : ∀ key, ¬ store.Carries key session.id) : session.Mirrors store where
  distinct := by
    rw [none]
    exact List.nodup_nil
  within := by
    rw [none]
    exact Nat.zero_le _
  listed := fun key carries => absurd carries (unknown key)

/-! ## Subscribing -/

/-- A list of keys with one more, unless it is there. -/
def noted (keys : List String) (key : String) : List String :=
  if key ∈ keys then keys else keys ++ [key]

theorem mem_noted (keys : List String) (key other : String) :
    other ∈ noted keys key ↔ other ∈ keys ∨ other = key := by
  unfold noted
  split
  · next here =>
    constructor
    · intro member
      exact .inl member
    · rintro (member | rfl)
      · exact member
      · exact here
  · rw [List.mem_append, List.mem_singleton]

theorem nodup_noted {keys : List String} (distinct : keys.Nodup) (key : String) :
    (noted keys key).Nodup := by
  unfold noted
  split
  · exact distinct
  · next absent =>
    refine List.nodup_append.2 ⟨distinct, List.nodup_singleton _, ?_⟩
    intro first old second new same
    rw [List.mem_singleton.1 new] at same
    exact absent (same ▸ old)

/-- The keys of a session that its client still watches. -/
def current (session : Session) (store : Store) : List String :=
  (session.prune store session.keys).1

theorem mem_current (session : Session) {store : Store} (orderly : store.Orderly) (key : String) :
    key ∈ session.current store ↔ key ∈ session.keys ∧ store.Carries key session.id := by
  rw [current, mem_prune, Store.isWatched_eq_ok_true_iff orderly]

/-- **What an active session does to subscribe:** it drops what is watched no more, and then watches
the key unless it is at its limit. -/
theorem subscribe_cases (active : session.stage = .active) (key : String) :
    let kept := session.current service.store
    ∃ told : Service, told.store = service.store ∧ told.exchange = service.exchange
      ∧ ((key ∉ kept ∧ session.maxKeys ≤ kept.length
          ∧ session.subscribe service key = (.ok false, { session with keys := kept }, told))
        ∨ ((key ∈ kept ∨ kept.length < session.maxKeys)
          ∧ session.subscribe service key
            = (service.store.finds key,
                { session with
                  keys := if service.store.finds key = .ok true then noted kept key else kept },
                told.after (service.store.settings.keyFault? key)
                  [.watch key session.watcher]))) := by
  unfold subscribe current
  rw [if_neg (not_not.2 active)]
  cases pruned : session.prune service.store session.keys with
  | mk kept warnings =>
    dsimp only
    let told : Service := { service with warnings := service.warnings ++ warnings }
    by_cases full : key ∉ kept ∧ session.maxKeys ≤ kept.length
    · rw [if_pos full]
      exact ⟨told.warn (.subscriptionLimit session.id session.maxKeys), rfl, rfl,
        .inl ⟨full.1, full.2, rfl⟩⟩
    · rw [if_neg full]
      refine ⟨told, rfl, rfl, .inr ⟨?_, ?_⟩⟩
      · by_cases here : key ∈ kept
        · exact .inl here
        · exact .inr (Nat.lt_of_not_le fun least => full ⟨here, least⟩)
      · have applied : told.apply (service.store.watch key session.watcher)
            = (service.store.finds key,
                told.after (service.store.settings.keyFault? key) [.watch key session.watcher]) := by
          exact told.apply_watch key session.watcher
        split
        · next error after done =>
          have same := applied.symm.trans done
          simp only [Prod.mk.injEq] at same
          rw [same.1, ← same.2]
          rfl
        · next existed after done =>
          have same := applied.symm.trans done
          simp only [Prod.mk.injEq] at same
          rw [same.1, ← same.2]
          cases existed with
          | false => rfl
          | true => simp [noted]

/-- **A subscription watches its key or changes no record,** and the session then lists its current
keys and this one. -/
theorem subscribe_spec (orderly : service.store.Orderly) (active : session.stage = .active)
    (distinct : session.keys.Nodup) (within : session.keys.length ≤ session.maxKeys) (key : String) :
    let after := session.subscribe service key
    after.2.2.store.Orderly
      ∧ (∃ keys, after.2.1 = { session with keys } ∧ keys.Nodup ∧ keys.length ≤ session.maxKeys)
      ∧ ∃ granted : Prop,
        (∀ other client, after.2.2.store.Carries other client
          ↔ service.store.Carries other client ∨ granted ∧ other = key ∧ client = session.id)
        ∧ ∀ other, other ∈ after.2.1.keys
          ↔ (other ∈ session.keys ∧ service.store.Carries other session.id)
            ∨ granted ∧ other = key := by
  have known := session.mem_current orderly
  have shorter : (session.current service.store).Sublist session.keys :=
    session.prune_sublist service.store session.keys
  have apart := shorter.nodup distinct
  have fewer : (session.current service.store).length ≤ session.maxKeys :=
    shorter.length_le.trans within
  intro after
  obtain ⟨told, sameStore, -, ⟨-, -, done⟩ | ⟨room, done⟩⟩ := subscribe_cases active key
  · have result : after = _ := done
    rw [result]
    dsimp only
    rw [sameStore]
    refine ⟨orderly, ⟨_, rfl, apart, fewer⟩, False, fun other client => ?_, fun other => ?_⟩
    · rw [false_and, or_false]
    · rw [known, false_and, or_false]
  · have result : after = _ := done
    rw [result]
    dsimp only
    rw [Service.after_store, sameStore]
    refine ⟨?_, ⟨_, rfl, ?_⟩, _, Store.carries_watch key session.watcher, fun other => ?_⟩
    · exact Store.orderly_onStore orderly _
        ((Action.watch key session.watcher).admitted_effect service.store.settings)
    · split
      · refine ⟨nodup_noted apart key, ?_⟩
        unfold noted
        rcases room with here | free
        · rw [if_pos here]
          exact fewer
        · split
          · exact fewer
          · rw [List.length_append, List.length_singleton]
            exact free
      · exact ⟨apart, fewer⟩
    · split
      · next granted => rw [mem_noted, known, and_iff_right granted]
      · next refused => rw [known, iff_false_intro refused, false_and, or_false]

/-- **After a subscription the list is exact,** whatever the answer. -/
theorem mem_keys_subscribe (orderly : service.store.Orderly) (mirrors : session.Mirrors service.store)
    (key : String) (active : (session.subscribe service key).2.1.stage = .active) (other : String) :
    other ∈ (session.subscribe service key).2.1.keys
      ↔ (session.subscribe service key).2.2.store.Carries other session.id := by
  have before : session.stage = .active := by
    by_contra idle
    rw [subscribe, if_pos idle] at active
    exact idle active
  obtain ⟨-, -, granted, records, listed⟩ :=
    subscribe_spec orderly before mirrors.distinct mirrors.within key
  rw [records, listed]
  constructor
  · rintro (⟨-, carries⟩ | ⟨given, rfl⟩)
    · exact .inl carries
    · exact .inr ⟨given, rfl, rfl⟩
  · rintro (carries | ⟨given, rfl, -⟩)
    · exact .inl ⟨(mirrors.listed other carries).1, carries⟩
    · exact .inr ⟨given, rfl⟩

/-! ## Moves -/

/-- What a session does on its own or for its client. -/
inductive Move where
  | activate
  | startLeaving
  | subscribe (key : String)
  | unsubscribe (key : String)
  | close
  deriving Repr, DecidableEq

/-- The session and the service after a move. -/
def move (session : Session) (service : Service) : Move → Session × Service
  | .activate => (session.activate, service)
  | .startLeaving => (session.startLeaving.2, service)
  | .subscribe key => (session.subscribe service key).2
  | .unsubscribe key => (session.unsubscribe service key).2
  | .close => (session.close service).2

/-- What a session and a service are after a move of the session: an orderly store, a list that
misses nothing, and no other client's record changed. -/
structure Moved (session : Session) (service : Service) (after : Session × Service) : Prop where
  orderly : after.2.store.Orderly
  id : after.1.id = session.id
  maxKeys : after.1.maxKeys = session.maxKeys
  mirrors : after.1.Mirrors after.2.store
  others : ∀ key client, client ≠ session.id →
    (after.2.store.Carries key client ↔ service.store.Carries key client)

theorem moved_subscribe (orderly : service.store.Orderly) (mirrors : session.Mirrors service.store)
    (key : String) : session.Moved service (session.subscribe service key).2 := by
  by_cases active : session.stage = .active
  · obtain ⟨kept, ⟨keys, same, distinct, within⟩, granted, records, listed⟩ :=
      subscribe_spec orderly active mirrors.distinct mirrors.within key
    have id : (session.subscribe service key).2.1.id = session.id := by rw [same]
    refine ⟨kept, id, by rw [same], ⟨?_, ?_, ?_⟩, fun other client apart => ?_⟩
    · rw [same]
      exact distinct
    · rw [same]
      exact within
    · intro other carries
      have stage : (session.subscribe service key).2.1.stage = .active := by rw [same, active]
      refine ⟨?_, by rw [stage]; decide⟩
      rw [id] at carries
      exact (mem_keys_subscribe orderly mirrors key stage other).2 carries
    · rw [records]
      constructor
      · rintro (carries | ⟨-, -, ours⟩)
        · exact carries
        · exact absurd ours apart
      · intro carries
        exact .inl carries
  · rw [subscribe, if_pos active]
    exact ⟨orderly, rfl, rfl, mirrors, fun _ _ _ => Iff.rfl⟩

theorem moved_unsubscribe (orderly : service.store.Orderly)
    (mirrors : session.Mirrors service.store) (key : String) :
    session.Moved service (session.unsubscribe service key).2 := by
  by_cases active : session.stage = .active
  · have records := Store.carries_unwatch orderly key session.id
    have kept := Store.orderly_onStore orderly _
      ((Action.unwatch key session.id).admitted_effect service.store.settings)
    rw [unsubscribe, if_neg (not_not.2 active), Service.apply_unwatch]
    have others : ∀ other client, client ≠ session.id →
        ((service.after (service.store.settings.keyFault? key)
          [.unwatch key session.id]).store.Carries other client
            ↔ service.store.Carries other client) := by
      intro other client apart
      rw [Service.after_store, records, and_iff_left]
      rintro ⟨-, ours⟩
      exact apart ours
    cases service.store.isWatched key session.id with
    | error error =>
      refine ⟨kept, rfl, rfl, ⟨mirrors.distinct, mirrors.within, fun other carries => ?_⟩, others⟩
      exact mirrors.listed other ((records other session.id).1 carries).1
    | ok removed =>
      refine ⟨kept, rfl, rfl, ⟨mirrors.distinct.filter _, ?_, fun other carries => ?_⟩, others⟩
      · exact (List.length_filter_le _ _).trans mirrors.within
      · obtain ⟨before, apart⟩ := (records other session.id).1 carries
        obtain ⟨member, running⟩ := mirrors.listed other before
        refine ⟨List.mem_filter.2 ⟨member, ?_⟩, running⟩
        rw [bne_iff_ne]
        rintro rfl
        exact apart ⟨rfl, rfl⟩
  · rw [unsubscribe, if_pos active]
    exact ⟨orderly, rfl, rfl, mirrors, fun _ _ _ => Iff.rfl⟩

/-- **A closed session has no record left.** -/
theorem moved_close (orderly : service.store.Orderly) (mirrors : session.Mirrors service.store) :
    session.Moved service (session.close service).2 := by
  by_cases closed : session.stage = .closed
  · rw [close, if_pos closed]
    exact ⟨orderly, rfl, rfl, mirrors, fun _ _ _ => Iff.rfl⟩
  · obtain ⟨kept, -, records⟩ := session.giveUp_store service orderly session.keys
    rw [close, if_neg closed]
    refine ⟨kept, rfl, rfl, mirrors_connecting _ rfl fun key carries => ?_,
      fun key client apart => ?_⟩
    · obtain ⟨before, gone⟩ := (records key session.id).1 carries
      exact gone ⟨(mirrors.listed key before).1, rfl⟩
    · refine (records key client).trans (and_iff_left ?_)
      rintro ⟨-, ours⟩
      exact apart ours

/-- **Every move keeps the list of the session without a gap.** -/
theorem moved_move (orderly : service.store.Orderly) (mirrors : session.Mirrors service.store)
    (move : Move) : session.Moved service (session.move service move) := by
  -- a session that only changes its stage, and does not close, lists what it listed
  have staged : ∀ stage, stage ≠ Stage.closed →
      session.Moved service ({ session with stage }, service) := by
    intro stage running
    refine ⟨orderly, rfl, rfl, ⟨mirrors.distinct, mirrors.within, fun key carries => ?_⟩,
      fun _ _ _ => Iff.rfl⟩
    exact ⟨(mirrors.listed key carries).1, running⟩
  have still : session.Moved service (session, service) :=
    ⟨orderly, rfl, rfl, mirrors, fun _ _ _ => Iff.rfl⟩
  cases move with
  | activate =>
    show session.Moved service (session.activate, service)
    unfold activate
    split
    · exact staged .active (by decide)
    · exact still
  | startLeaving =>
    show session.Moved service (session.startLeaving.2, service)
    unfold startLeaving
    split
    · exact staged .disconnecting (by decide)
    · exact still
  | subscribe key => exact moved_subscribe orderly mirrors key
  | unsubscribe key => exact moved_unsubscribe orderly mirrors key
  | close => exact moved_close orderly mirrors

end Session

/-! ## Many sessions over one store -/

/-- Sessions that share a service. -/
structure Clientele where
  service : Service
  sessions : List Session

namespace Clientele

/-- Either a session moves, or something is asked of the store directly. -/
inductive Step where
  | session (place : Nat) (move : Session.Move)
  | store (action : Action)

/-- What is asked directly does not let a client with one of these numbers watch. -/
def Step.Outside (ids : List ClientId) : Step → Prop
  | .store (.watch _ watcher) => watcher.client ∉ ids
  | _ => True

/-- The numbers of the sessions. -/
def ids (clientele : Clientele) : List ClientId := clientele.sessions.map (·.id)

/-- The clientele after a step; there is nothing to move at a place without a session. -/
def step (clientele : Clientele) : Step → Clientele
  | .session place move =>
    match clientele.sessions[place]? with
    | none => clientele
    | some session =>
      { service := (session.move clientele.service move).2
        sessions := clientele.sessions.set place (session.move clientele.service move).1 }
  | .store action => { clientele with service := clientele.service.act action }

/-- The clientele after steps in order. -/
def run (clientele : Clientele) (steps : List Step) : Clientele := steps.foldl step clientele

/-- The store is orderly, no two sessions have the same number, and no list misses a record. -/
structure Coherent (clientele : Clientele) : Prop where
  orderly : clientele.service.store.Orderly
  distinct : clientele.ids.Nodup
  mirrors : ∀ session ∈ clientele.sessions, session.Mirrors clientele.service.store

/-- Sessions that have just been made, over a store that has just been made. -/
structure Fresh (clientele : Clientele) : Prop where
  table : clientele.service.store.table = none
  distinct : clientele.ids.Nodup
  connecting : ∀ session ∈ clientele.sessions, session.stage = .connecting
  nothing : ∀ session ∈ clientele.sessions, session.keys = []

theorem coherent_of_fresh {clientele : Clientele} (fresh : clientele.Fresh) :
    clientele.Coherent where
  orderly := Store.orderly_of_table_eq_none fresh.table
  distinct := fresh.distinct
  mirrors := fun session member =>
    Session.mirrors_connecting _ (fresh.nothing session member)
      (fun key => Store.not_carries_of_table_eq_none fresh.table key session.id)

variable {clientele : Clientele}

theorem step_nobody {place : Nat} (nobody : clientele.sessions[place]? = none)
    (move : Session.Move) : clientele.step (.session place move) = clientele := by
  unfold step
  dsimp only
  rw [nobody]

theorem step_session {place : Nat} {session : Session}
    (here : clientele.sessions[place]? = some session) (move : Session.Move) :
    clientele.step (.session place move)
      = { service := (session.move clientele.service move).2
          sessions := clientele.sessions.set place (session.move clientele.service move).1 } := by
  unfold step
  dsimp only
  rw [here]

/-- Number and limit of each session. -/
def profile (clientele : Clientele) : List (ClientId × Nat) :=
  clientele.sessions.map fun session => (session.id, session.maxKeys)

theorem ids_eq (clientele : Clientele) : clientele.ids = clientele.profile.map Prod.fst := by
  rw [ids, profile, List.map_map]
  rfl

/-- A step keeps every number and every limit. -/
theorem profile_step (coherent : clientele.Coherent) (step : Step) :
    (clientele.step step).profile = clientele.profile := by
  cases step with
  | session place move =>
    cases here : clientele.sessions[place]? with
    | none => rw [step_nobody here]
    | some session =>
      have moved := Session.moved_move coherent.orderly
        (coherent.mirrors session (List.mem_of_getElem? here)) move
      rw [step_session here]
      unfold profile
      rw [List.map_set, moved.id, moved.maxKeys]
      obtain ⟨inside, rfl⟩ := List.getElem?_eq_some_iff.1 here
      refine List.ext_getElem (by simp) ?_
      intro other _ there
      rw [List.getElem_set]
      split
      · next same => simp [same]
      · rfl
  | store action => rfl

/-- Two places with the same number are one place. -/
theorem place_eq (distinct : clientele.ids.Nodup) {first second : Nat} {one other : Session}
    (here : clientele.sessions[first]? = some one) (there : clientele.sessions[second]? = some other)
    (same : one.id = other.id) : first = second := by
  have inside : first < clientele.ids.length := by
    rw [ids, List.length_map]
    exact (List.getElem?_eq_some_iff.1 here).1
  refine (List.getElem?_inj inside distinct).1 ?_
  rw [ids, List.getElem?_map, List.getElem?_map, here, there, Option.map_some, Option.map_some, same]

/-- **A step keeps a clientele coherent.** -/
theorem coherent_step (coherent : clientele.Coherent) (step : Step)
    (outside : step.Outside clientele.ids) : (clientele.step step).Coherent := by
  have distinct : (clientele.step step).ids.Nodup := by
    rw [ids_eq, profile_step coherent, ← ids_eq]
    exact coherent.distinct
  cases step with
  | session place move =>
    cases here : clientele.sessions[place]? with
    | none =>
      rw [step_nobody here]
      exact coherent
    | some mover =>
      have moved := Session.moved_move coherent.orderly
        (coherent.mirrors mover (List.mem_of_getElem? here)) move
      rw [step_session here] at distinct ⊢
      refine ⟨moved.orderly, distinct, fun session member => ?_⟩
      obtain ⟨other, there⟩ := List.mem_iff_getElem?.1 member
      by_cases same : place = other
      · -- the session that moved
        subst same
        obtain ⟨inside, _⟩ := List.getElem?_eq_some_iff.1 here
        rw [List.getElem?_set_self inside] at there
        cases there
        exact moved.mirrors
      · -- another one has another number, and its records are as they were
        rw [List.getElem?_set_ne same] at there
        have mirrors := coherent.mirrors session (List.mem_of_getElem? there)
        have apart : session.id ≠ mover.id := fun equal =>
          same (place_eq coherent.distinct here there equal.symm)
        refine ⟨mirrors.distinct, mirrors.within, fun key carries => mirrors.listed key ?_⟩
        exact (moved.others key session.id apart).1 carries
  | store action =>
    refine ⟨Service.orderly_act coherent.orderly action, distinct, fun session member => ?_⟩
    have mirrors := coherent.mirrors session member
    have known : session.id ∈ clientele.ids := List.mem_map_of_mem member
    refine ⟨mirrors.distinct, mirrors.within, fun key carries => mirrors.listed key ?_⟩
    refine Service.carries_of_act coherent.orderly action key session.id ?_ carries
    rintro other watcher rfl ours
    exact outside (ours ▸ known)

theorem coherent_run (coherent : clientele.Coherent) (steps : List Step)
    (outside : ∀ step ∈ steps, step.Outside clientele.ids) :
    (clientele.run steps).Coherent ∧ (clientele.run steps).profile = clientele.profile := by
  induction steps generalizing clientele with
  | nil => exact ⟨coherent, rfl⟩
  | cons step rest ih =>
    have profile := profile_step coherent step
    have ids : (clientele.step step).ids = clientele.ids := by rw [ids_eq, profile, ← ids_eq]
    obtain ⟨later, same⟩ := ih (coherent_step coherent step (outside step (by simp)))
      fun other member => by
        rw [ids]
        exact outside other (List.mem_cons_of_mem _ member)
    exact ⟨later, same.trans profile⟩

/-- **Lists and records agree, whatever happens and in whatever order.** The sessions keep their
numbers and limits; each lists no key twice, not more than its limit, and every key whose present
entry has a record of its client, which a closed session has nowhere. And whenever a session that is
active after it subscribed has its answer, it lists exactly the keys with such a record. -/
theorem lists_follow_records (clientele : Clientele) (fresh : clientele.Fresh) (steps : List Step)
    (outside : ∀ step ∈ steps, step.Outside clientele.ids) :
    let reached := clientele.run steps
    reached.profile = clientele.profile ∧ ∀ session ∈ reached.sessions,
      session.keys.Nodup ∧ session.keys.length ≤ session.maxKeys
      ∧ (∀ table entry, reached.service.store.table = some table → entry ∈ table.entries →
          entry.watchers.has session.id = true →
          entry.key ∈ session.keys ∧ session.stage ≠ .closed)
      ∧ ∀ wanted, (session.subscribe reached.service wanted).2.1.stage = .active →
          ∀ key, key ∈ (session.subscribe reached.service wanted).2.1.keys
            ↔ ∃ table entry, (session.subscribe reached.service wanted).2.2.store.table = some table
              ∧ entry ∈ table.entries ∧ entry.key = key
              ∧ entry.watchers.has session.id = true := by
  intro reached
  obtain ⟨coherent, profile⟩ := coherent_run (coherent_of_fresh fresh) steps outside
  refine ⟨profile, fun session member => ?_⟩
  have mirrors := coherent.mirrors session member
  refine ⟨mirrors.distinct, mirrors.within, ?_, ?_⟩
  · intro table entry there stored has
    refine mirrors.listed entry.key ?_
    exact (Store.carries_iff_exists_entry coherent.orderly _ _).2
      ⟨table, entry, there, stored, rfl, has⟩
  · intro wanted active key
    have after := (Session.moved_subscribe coherent.orderly mirrors wanted).orderly
    rw [← Store.carries_iff_exists_entry after]
    exact Session.mem_keys_subscribe coherent.orderly mirrors wanted active key

/-- Two sessions with room for one key each; one of the keys is deleted and made again. -/
theorem lists_follow_records_recreated_key :
    let first : Session := { id := 1, slot := 0, channel := 0, responses := {}, maxKeys := 1 }
    let second : Session := { id := 2, slot := 1, channel := 1, responses := {}, maxKeys := 1 }
    let clientele : Clientele := ⟨{ store := { settings := {} } }, [first, second]⟩
    let steps : List Step :=
      [.store (.perform .init), .store (.perform (.put "a" "1")), .session 0 .activate,
        .session 1 .activate, .session 0 (.subscribe "a"), .store (.watch "a" ⟨3, 2⟩),
        .session 1 (.subscribe "a"), .store (.perform (.erase "a")),
        .store (.perform (.put "a" "2")), .session 0 (.subscribe "a"), .session 1 .close]
    clientele.Fresh ∧ (∀ step ∈ steps, step.Outside clientele.ids)
      ∧ ∀ session ∈ (clientele.run steps).sessions, session.keys.length ≤ session.maxKeys := by
  intro first second clientele steps
  have fresh : clientele.Fresh := by
    refine ⟨rfl, by decide, ?_, ?_⟩
    · intro session member
      rcases List.mem_cons.1 member with rfl | member
      · rfl
      · rw [List.mem_singleton.1 member]
    · intro session member
      rcases List.mem_cons.1 member with rfl | member
      · rfl
      · rw [List.mem_singleton.1 member]
  have outside : ∀ step ∈ steps, step.Outside clientele.ids := by
    intro step member
    simp only [steps, List.mem_cons, List.not_mem_nil, or_false] at member
    rcases member with rfl | rfl | rfl | rfl | rfl | rfl | rfl | rfl | rfl | rfl | rfl
    all_goals try trivial
    show 3 ∉ [1, 2]
    decide
  refine ⟨fresh, outside, fun session member => ?_⟩
  exact ((lists_follow_records clientele fresh steps outside).2 session member).2.1

end Clientele

end KeyWatch
