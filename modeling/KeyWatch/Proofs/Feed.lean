/-
# Proofs.Feed -- what one client hears

A feed follows what happens with one watcher in mind: keys and values, the entries that it is
registered on, and whether its channel carries anything. `Feed.frames` says what the watcher hears
of an event: an accepted write tells the last value of each key that was stored and that the watcher
is registered on, in ascending order, and a deletion tells that such an entry goes. Everything else
is silent.

`Feed.Tracks` ties a feed to a service. It is kept by every event (`tracks_undergo`), and in each the
channel of the watcher is offered the frames of the feed (`channel?_undergo`); so after a run its
sink has taken as much of them all as it has room for.
-/
import KeyWatch.Proofs.Delivery
import KeyWatch.Proofs.Watching

namespace KeyWatch

set_option autoImplicit false

/-! ## Events and feeds -/

/-- Something that happens to a service and its channels. -/
inductive Event where
  | action (action : Action)
  | openChannel (client : ClientId) (sink : Sink)
  | close (id : ChannelId)
  | disown (id : ChannelId)
  | desert (id : ChannelId)

/-- The service after an event. -/
def Service.undergo (service : Service) : Event → Service
  | .action action => service.act action
  | .openChannel client sink =>
    { service with exchange := (service.exchange.openChannel client sink).2 }
  | .close id => { service with exchange := service.exchange.close id }
  | .disown id => { service with exchange := service.exchange.disown id }
  | .desert id => { service with exchange := service.exchange.desert id }

/-- What a watcher may know: the contents, the keys whose present entry has it among its watchers,
and whether its channel is open and owned. -/
structure Feed where
  contents : Option Contents := none
  watched : Finset String := ∅
  isLive : Bool

namespace Feed

/-- A key is stored. -/
def stores (feed : Feed) (key : String) : Bool :=
  feed.contents.any fun contents => decide (key ∈ contents)

/-- The frames that tell of keys, each once and in ascending order, if they are stored and
watched. -/
def tell (feed : Feed) (keys : List String) (text : String → String) : Bytes :=
  (Ordered.byBytes keys.dedup).flatMap fun key =>
    if feed.stores key = true ∧ key ∈ feed.watched then Notification.frame key (text key) else []

/-- The frames that tell of a batch of pairs. -/
def updates (settings : Settings) (feed : Feed) (pairs : List (String × String)) : Bytes :=
  if settings.pairsFault? pairs = none then
    feed.tell (pairs.map Prod.fst) fun key => (Contents.lastValue? pairs key).getD ""
  else []

/-- The frames that tell of keys that are deleted, unless there is a fault. -/
def deletions (feed : Feed) (fault? : Option Error) (keys : List String) : Bytes :=
  if fault? = none then feed.tell keys fun _ => "DELETE" else []

/-- **What an event owes a watcher.** -/
def frames (settings : Settings) (feed : Feed) : Event → Bytes
  | .action (.perform (.put key value)) => feed.updates settings [(key, value)]
  | .action (.perform (.write pairs)) => feed.updates settings pairs
  | .action (.perform (.erase key)) => feed.deletions (settings.keyFault? key) [key]
  | .action (.perform (.delete keys _)) => feed.deletions (settings.keysFault? keys) keys
  | _ => []

/-- What an event owes, if the channel of the watcher carries anything. -/
def heard (settings : Settings) (feed : Feed) (event : Event) : Bytes :=
  if feed.isLive then feed.frames settings event else []

/-- The keys that the watcher is registered on after an event. -/
def watchedAfter (settings : Settings) (watcher : Watcher) (feed : Feed) : Event → Finset String
  | .action (.perform operation) =>
    feed.watched.filter fun key => operation.removes settings key = false
  | .action (.watch key other) =>
    if other.client = watcher.client ∧ settings.keyFault? key = none ∧ feed.stores key = true then
      insert key feed.watched
    else feed.watched
  | .action (.unwatch key client) =>
    if client = watcher.client then feed.watched.erase key else feed.watched
  | _ => feed.watched

/-- The contents after an event. -/
def contentsAfter (settings : Settings) (feed : Feed) : Event → Option Contents
  | .action (.perform operation) => Reference.next settings feed.contents operation
  | _ => feed.contents

/-- Whether the channel carries anything after an event. -/
def liveAfter (watcher : Watcher) (feed : Feed) : Event → Bool
  | .close id => feed.isLive && id != watcher.channel
  | .disown id => feed.isLive && id != watcher.channel
  | _ => feed.isLive

/-- The feed after an event. -/
def next (settings : Settings) (watcher : Watcher) (feed : Feed) (event : Event) : Feed where
  contents := feed.contentsAfter settings event
  watched := feed.watchedAfter settings watcher event
  isLive := feed.liveAfter watcher event

/-- **Everything that a watcher is owed,** in order: the frames of each event that finds its channel
open and owned. -/
def bytes (settings : Settings) (watcher : Watcher) (feed : Feed) : List Event → Bytes
  | [] => []
  | event :: rest =>
    feed.heard settings event ++ bytes settings watcher (feed.next settings watcher event) rest

end Feed

/-! ## The records of one watcher -/

/-- Among these watchers a client and a channel belong together, and the watcher is there once if it
is registered, and else not at all. -/
structure Pinned (watcher : Watcher) (watchers : Watchers) (registered : Prop) : Prop where
  faithful : ∀ other ∈ watchers, other.client = watcher.client ↔ other.channel = watcher.channel
  once : registered → watchers.filter (fun other => other.channel = watcher.channel) = [watcher]
  absent : ¬ registered → watchers.filter (fun other => other.channel = watcher.channel) = []

namespace Pinned

variable {watcher : Watcher} {watchers : Watchers} {registered : Prop}

theorem nil (watcher : Watcher) (unknown : ¬ registered) : Pinned watcher [] registered where
  faithful := by
    intro other member
    cases member
  once := fun known => absurd known unknown
  absent := fun _ => rfl

theorem of_iff {registered' : Prop} (pinned : Pinned watcher watchers registered)
    (same : registered ↔ registered') : Pinned watcher watchers registered' :=
  (propext same) ▸ pinned

theorem ne_nil (pinned : Pinned watcher watchers registered) (known : registered) :
    watchers ≠ [] := by
  rintro rfl
  have once := pinned.once known
  cases once

/-- The client of the watcher is among the watchers exactly if the watcher is. -/
theorem has_iff (pinned : Pinned watcher watchers registered) :
    watchers.has watcher.client = true ↔ registered := by
  constructor
  · intro has
    by_contra unknown
    obtain ⟨other, member, same⟩ := List.any_eq_true.1 has
    have channel := (pinned.faithful other member).1 (by simpa using same)
    have kept : other ∈ watchers.filter fun other => other.channel = watcher.channel :=
      List.mem_filter.2 ⟨member, by simpa using channel⟩
    rw [pinned.absent unknown] at kept
    cases kept
  · intro known
    have kept : watcher ∈ watchers.filter fun other => other.channel = watcher.channel := by
      rw [pinned.once known]
      exact List.mem_singleton.2 rfl
    exact List.any_eq_true.2 ⟨watcher, (List.mem_filter.1 kept).1, by simp⟩

theorem add (pinned : Pinned watcher watchers registered) (other : Watcher)
    (faithful : other.client = watcher.client ↔ other.channel = watcher.channel) :
    Pinned watcher (watchers.add other) (registered ∨ other.client = watcher.client) := by
  unfold Watchers.add
  by_cases known : watchers.has other.client = true
  · rw [if_pos known]
    have same : (registered ∨ other.client = watcher.client) ↔ registered := by
      constructor
      · rintro (already | ours)
        · exact already
        · rw [ours] at known
          exact pinned.has_iff.1 known
      · intro already
        exact .inl already
    exact ⟨pinned.faithful, fun r => pinned.once (same.1 r), fun r => pinned.absent fun q => r (same.2 q)⟩
  · rw [if_neg known]
    refine ⟨fun one member => ?_, fun now => ?_, fun never => ?_⟩
    · rcases List.mem_append.1 member with old | new
      · exact pinned.faithful one old
      · rw [List.mem_singleton.1 new]
        exact faithful
    · rw [List.filter_append]
      by_cases ours : other.client = watcher.client
      · have unknown : ¬ registered := fun already => known (by rw [ours]; exact pinned.has_iff.2 already)
        have channel := faithful.1 ours
        have whole : other = watcher := by
          obtain ⟨client, id⟩ := other
          obtain ⟨client', id'⟩ := watcher
          exact congrArg₂ Watcher.mk ours channel
        rw [pinned.absent unknown, whole]
        simp
      · have already : registered := now.resolve_right ours
        have elsewhere : ¬ other.channel = watcher.channel := fun same => ours (faithful.2 same)
        rw [pinned.once already]
        simp [elsewhere]
    · rw [not_or] at never
      have elsewhere : ¬ other.channel = watcher.channel := fun same => never.2 (faithful.2 same)
      rw [List.filter_append, pinned.absent never.1]
      simp [elsewhere]

theorem remove (pinned : Pinned watcher watchers registered) (client : ClientId) :
    Pinned watcher (watchers.remove client) (registered ∧ client ≠ watcher.client) := by
  unfold Watchers.remove
  have swapped : (watchers.filter (·.client != client)).filter
        (fun other => other.channel = watcher.channel)
      = (watchers.filter fun other => other.channel = watcher.channel).filter (·.client != client) :=
    List.filter_comm _ _ _
  refine ⟨fun other member => pinned.faithful other (List.mem_filter.1 member).1, fun now => ?_,
    fun never => ?_⟩
  · rw [swapped, pinned.once now.1]
    simp [now.2.symm]
  · rw [swapped]
    by_cases known : registered
    · have ours : client = watcher.client := by
        by_contra apart
        exact never ⟨known, apart⟩
      rw [pinned.once known, ours]
      simp
    · rw [pinned.absent known]
      rfl

/-- The records on the channel of the watcher: its own if it is registered, and no other. -/
theorem own (pinned : Pinned watcher watchers registered) [Decidable registered] :
    watchers.filter (fun other => other.channel = watcher.channel)
      = if registered then [watcher] else [] := by
  by_cases known : registered
  · rw [if_pos known, pinned.once known]
  · rw [if_neg known, pinned.absent known]

end Pinned

/-- **The notices of a change are for a watcher once if it is registered.** -/
theorem Watchers.framesOn_notices {watchers : Watchers} {watcher : Watcher} {registered : Prop}
    [Decidable registered]
    (own : watchers.filter (fun other => other.channel = watcher.channel)
      = if registered then [watcher] else []) (key : String) (change : Change) :
    Exchange.framesOn watcher.channel (watchers.notices key change)
      = if registered then Notification.frame key change.text else [] := by
  have frames : Exchange.framesOn watcher.channel (watchers.notices key change)
      = (watchers.filter fun other => other.channel = watcher.channel).flatMap
          fun _ => Notification.frame key change.text := by
    unfold Exchange.framesOn notices
    rw [List.filter_map, List.flatMap_map]
    rfl
  rw [frames, own]
  split
  · exact List.append_nil _
  · rfl

/-! ## Batches in ascending order -/

/-- A batch of keys deletes each of them once, in the order of bytes. -/
theorem deletes_eq (keys : List String) :
    deletes keys = (Ordered.byBytes keys.dedup).map Edit.delete := by
  have all := filter_eachOnce keys fun _ => true
  rw [List.filter_true, List.filter_true] at all
  rw [deletes, all]

/-- A batch of pairs writes each of its keys once, in the order of bytes and with its last value. -/
theorem puts_eq (pairs : List (String × String)) :
    puts pairs = (Ordered.byBytes (pairs.map Prod.fst).dedup).map fun key =>
      Edit.put key ((Contents.lastValue? pairs key).getD "") := by
  have ascending : ((lastPairs pairs).map Prod.fst).Pairwise (· < ·) :=
    List.pairwise_map.2 (pairwise_lastPairs pairs)
  have keys : (lastPairs pairs).map Prod.fst = Ordered.byBytes (pairs.map Prod.fst).dedup := by
    refine Ordered.eq_of_ascending ascending (Ordered.pairwise_byBytes (List.nodup_dedup _))
      fun key => ?_
    rw [mem_keys_lastPairs, Ordered.mem_byBytes, List.mem_dedup]
  have values : ∀ pair ∈ lastPairs pairs, Contents.lastValue? pairs pair.1 = some pair.2 := by
    intro pair kept
    have alone := Ordered.filter_eq_singleton Prod.fst (pairwise_lastPairs pairs) kept
    rw [← Contents.lastValue?_lastPairs]
    unfold Contents.lastValue?
    rw [alone]
    rfl
  rw [puts, ← keys, List.map_map]
  apply List.map_congr_left
  intro pair kept
  show Edit.put pair.1 pair.2 = Edit.put pair.1 ((Contents.lastValue? pairs pair.1).getD "")
  rw [values pair kept]
  rfl

/-- **Of edits of distinct keys a watcher hears in their order,** of each what it is registered on. -/
theorem framesOn_noticesOf {watcher : Watcher} {table : Table} {watched : Finset String}
    (keys : List String) (distinct : keys.Nodup) (edit : String → Edit) (change : String → Change)
    (named : ∀ key, (edit key).key = key)
    (owes : ∀ key found, (edit key).notices found = (watchersAt found).notices key (change key))
    (placed : ∀ key ∈ keys, (bucketOf? key).isSome = true)
    (own : ∀ key ∈ keys, (watchersAt (table.find? key)).filter
        (fun other => other.channel = watcher.channel) = if key ∈ watched then [watcher] else []) :
    Exchange.framesOn watcher.channel (table.noticesOf (keys.map edit))
      = keys.flatMap fun key =>
          if key ∈ watched then Notification.frame key (change key).text else [] := by
  induction keys generalizing table with
  | nil => rfl
  | cons first rest ih =>
    obtain ⟨fresh, distinct⟩ := List.nodup_cons.1 distinct
    have later := @ih (table.edit (edit first)) distinct
      (fun key member => placed key (List.mem_cons_of_mem _ member)) fun key member => by
        -- the later keys are others, so their watchers are still those of the table before
        have apart : key ≠ (edit first).key := by
          rw [named]
          rintro rfl
          exact fresh member
        rw [Table.find?_edit _ _ (by rw [named]; exact placed first (by simp)), if_neg apart]
        exact own key (List.mem_cons_of_mem _ member)
    have now := Watchers.framesOn_notices (own first (by simp)) first (change first)
    have split : ∀ ours others : List Notice,
        Exchange.framesOn watcher.channel (ours ++ others)
          = Exchange.framesOn watcher.channel ours ++ Exchange.framesOn watcher.channel others := by
      intro ours others
      unfold Exchange.framesOn
      rw [List.filter_append, List.flatMap_append]
    rw [List.map_cons, Table.noticesOf, split, later, owes, named, now, List.flatMap_cons]

/-! ## A feed beside a service -/

/-- A watcher's client and its channel go together in everything that is asked, and its channel is
not deserted. -/
def Event.Faithful (watcher : Watcher) : Event → Prop
  | .action (.watch _ other) => other.client = watcher.client ↔ other.channel = watcher.channel
  | .desert id => id ≠ watcher.channel
  | _ => True

namespace Feed

/-- The feed knows the contents of the store, and where its watcher is registered. -/
structure Tracks (feed : Feed) (watcher : Watcher) (store : Store) : Prop where
  orderly : store.Orderly
  refines : store.Refines feed.contents
  pinned : ∀ key, Pinned watcher (store.watchersOf key) (key ∈ feed.watched)

variable {feed : Feed} {watcher : Watcher}

theorem stores_iff {store : Store} (refines : store.Refines feed.contents) (key : String) :
    feed.stores key = true
      ↔ ∃ table, store.table = some table ∧ (table.find? key).isSome = true := by
  obtain ⟨contents?, watched, isLive⟩ := feed
  obtain ⟨settings, table?⟩ := store
  cases refines with
  | none => simp [stores]
  | @some table contents holds => simp [stores, holds.isSome_find?]

theorem finds_iff {store : Store} (refines : store.Refines feed.contents) (key : String) :
    store.finds key = .ok true
      ↔ store.settings.keyFault? key = none ∧ feed.stores key = true := by
  rw [stores_iff refines]
  exact Store.given_eq_ok_iff _ _ _

theorem stores_of_watched {store : Store} (tracks : feed.Tracks watcher store) {key : String}
    (watched : key ∈ feed.watched) : feed.stores key = true := by
  have some := (tracks.pinned key).ne_nil watched
  obtain ⟨table, entry, there, found, -⟩ := Store.exists_of_watchersOf some
  refine (stores_iff tracks.refines key).2 ⟨table, there, ?_⟩
  rw [found]
  rfl

/-- An edit that changes no contents is not seen in them. -/
theorem refines_of_unseen {store : Store} (refines : store.Refines feed.contents)
    {fault? : Option Error} {edit : Edit}
    (same : ∀ contents : Contents, contents.edit edit = contents)
    (placed : fault? = none → (bucketOf? edit.key).isSome = true) :
    (store.after fault? [edit]).Refines feed.contents := by
  have after := refines.after fault? [edit] id fun admitted table contents holds => by
    have held := Table.holds_edit holds edit (placed admitted)
    rw [same] at held
    exact held
  unfold Reference.changed at after
  rw [Option.map_id, id, ite_self] at after
  exact after

variable {service : Service}

theorem tracks_perform (tracks : feed.Tracks watcher service.store) (operation : Operation) :
    (feed.next service.store.settings watcher (.action (.perform operation))).Tracks watcher
      (service.perform operation).2.store := by
  have watching := Service.watchersOf_act tracks.orderly (.perform operation)
  refine ⟨Service.orderly_act tracks.orderly (.perform operation),
    (Service.perform_onward tracks.refines operation).1, fun key => ?_⟩
  have here : (service.perform operation).2.store.watchersOf key = _ := watching key
  rw [here]
  show Pinned watcher (if _ then [] else _) (key ∈ feed.watched.filter _)
  rw [Finset.mem_filter]
  by_cases gone : operation.removes service.store.settings key = true
  · rw [if_pos gone]
    refine Pinned.nil watcher ?_
    rintro ⟨_, stays⟩
    rw [gone] at stays
    cases stays
  · rw [if_neg gone, and_iff_left (by simpa using gone)]
    exact tracks.pinned key

theorem tracks_watch (tracks : feed.Tracks watcher service.store) (key : String) (other : Watcher)
    (faithful : other.client = watcher.client ↔ other.channel = watcher.channel) :
    (feed.next service.store.settings watcher (.action (.watch key other))).Tracks watcher
      (service.act (.watch key other)).store := by
  have granted := finds_iff tracks.refines key
  refine ⟨Service.orderly_act tracks.orderly _, ?_, fun one => ?_⟩
  · rw [(service.act_effect (.watch key other)).1]
    exact refines_of_unseen tracks.refines (fun _ => rfl) Settings.placed_of_keyFault?
  · rw [Service.watchersOf_act tracks.orderly (.watch key other) one]
    show Pinned watcher (if _ then _ else _) (one ∈ if _ then _ else _)
    simp only [← granted]
    by_cases both : one = key ∧ service.store.finds key = .ok true
    · rw [if_pos both, both.1]
      refine ((tracks.pinned key).add other faithful).of_iff ?_
      by_cases ours : other.client = watcher.client
      · rw [if_pos ⟨ours, both.2⟩]
        simp [ours]
      · rw [if_neg fun all => ours all.1]
        simp [ours]
    · rw [if_neg both]
      refine (tracks.pinned one).of_iff ?_
      split
      · next all =>
        have apart : one ≠ key := fun hit => both ⟨hit, all.2⟩
        rw [Finset.mem_insert, or_iff_right apart]
      · rfl

theorem tracks_unwatch (tracks : feed.Tracks watcher service.store) (key : String)
    (client : ClientId) :
    (feed.next service.store.settings watcher (.action (.unwatch key client))).Tracks watcher
      (service.act (.unwatch key client)).store := by
  refine ⟨Service.orderly_act tracks.orderly _, ?_, fun one => ?_⟩
  · rw [(service.act_effect (.unwatch key client)).1]
    exact refines_of_unseen tracks.refines (fun _ => rfl) Settings.placed_of_keyFault?
  · rw [Service.watchersOf_act tracks.orderly (.unwatch key client) one]
    show Pinned watcher (if _ then _ else _) (one ∈ if _ then _ else _)
    by_cases hit : one = key
    · rw [if_pos hit]
      refine ((tracks.pinned one).remove client).of_iff ?_
      split
      · next ours => simp [ours, hit]
      · next apart => simp [apart]
    · rw [if_neg hit]
      refine (tracks.pinned one).of_iff ?_
      split
      · rw [Finset.mem_erase, and_iff_right hit]
      · rfl

/-- **An action keeps a feed beside the store.** -/
theorem tracks_act (tracks : feed.Tracks watcher service.store) (action : Action)
    (faithful : Event.Faithful watcher (.action action)) :
    (feed.next service.store.settings watcher (.action action)).Tracks watcher
      (service.act action).store := by
  cases action with
  | perform operation => exact tracks_perform tracks operation
  | watch key other => exact tracks_watch tracks key other faithful
  | unwatch key client => exact tracks_unwatch tracks key client
  | isWatched key client => exact ⟨tracks.orderly, tracks.refines, tracks.pinned⟩
  | showAll sink => exact ⟨tracks.orderly, tracks.refines, tracks.pinned⟩
  | backup path =>
    have same : (service.act (.backup path)).store = service.store :=
      (service.act_effect (.backup path)).1
    rw [same]
    exact tracks
  | finishBackup =>
    have same : (service.act .finishBackup).store = service.store :=
      (service.act_effect .finishBackup).1
    rw [same]
    exact tracks

/-! ## What is sent -/

/-- Edits of keys in ascending order, told of by a feed that tracks the store. -/
theorem framesOn_tell {store : Store} (tracks : feed.Tracks watcher store) {table : Table}
    (there : store.table = some table) (keys : List String)
    (placed : ∀ key ∈ keys, (bucketOf? key).isSome = true) (edit : String → Edit)
    (change : String → Change) (named : ∀ key, (edit key).key = key)
    (owes : ∀ key found, (edit key).notices found = (watchersAt found).notices key (change key)) :
    Exchange.framesOn watcher.channel (table.noticesOf ((Ordered.byBytes keys.dedup).map edit))
      = feed.tell keys fun key => (change key).text := by
  have distinct : (Ordered.byBytes keys.dedup).Nodup :=
    (Ordered.pairwise_byBytes (List.nodup_dedup keys)).imp ne_of_lt
  have homes : ∀ key ∈ Ordered.byBytes keys.dedup, (bucketOf? key).isSome = true := by
    intro key member
    exact placed key (List.mem_dedup.1 ((Ordered.mem_byBytes _ _).1 member))
  have own : ∀ key ∈ Ordered.byBytes keys.dedup, (watchersAt (table.find? key)).filter
      (fun other => other.channel = watcher.channel)
        = if key ∈ feed.watched then [watcher] else [] := by
    intro key _
    have here := (tracks.pinned key).own
    rwa [Store.watchersOf_of_table there] at here
  rw [framesOn_noticesOf _ distinct edit change named owes homes own]
  apply List.flatMap_congr
  intro key _
  by_cases watched : key ∈ feed.watched
  · rw [if_pos watched, if_pos ⟨stores_of_watched tracks watched, watched⟩]
  · rw [if_neg watched, if_neg fun both => watched both.2]

/-- There is nothing to tell of a store without a table. -/
theorem tell_of_contents_eq_none (none : feed.contents = none) (keys : List String)
    (text : String → String) : feed.tell keys text = [] := by
  apply List.flatMap_eq_nil_iff.2
  intro key _
  rw [if_neg]
  rintro ⟨stored, _⟩
  unfold stores at stored
  rw [none] at stored
  cases stored

theorem contents_eq_none {store : Store} (tracks : feed.Tracks watcher store)
    (gone : store.table = none) : feed.contents = none := by
  have refines := tracks.refines
  unfold Store.Refines at refines
  rw [gone] at refines
  generalize feed.contents = contents? at refines
  cases refines
  rfl

theorem framesOn_puts {store : Store} (tracks : feed.Tracks watcher store)
    (pairs : List (String × String)) :
    Exchange.framesOn watcher.channel
        (store.owed (store.settings.pairsFault? pairs) (puts pairs))
      = feed.updates store.settings pairs := by
  unfold updates Store.owed
  cases admitted : store.settings.pairsFault? pairs with
  | some fault => rfl
  | none =>
    rw [if_pos rfl]
    cases there : store.table with
    | none => exact (tell_of_contents_eq_none (contents_eq_none tracks there) _ _).symm
    | some table =>
      rw [puts_eq]
      refine framesOn_tell tracks there (pairs.map Prod.fst) (fun key member => ?_) _
        (fun key => .updated ((Contents.lastValue? pairs key).getD "")) (fun _ => rfl)
        (fun _ _ => rfl)
      obtain ⟨pair, given, rfl⟩ := List.mem_map.1 member
      exact Settings.placed_of_pairsFault? admitted pair given

theorem framesOn_deletes {store : Store} (tracks : feed.Tracks watcher store)
    (fault? : Option Error) (keys : List String)
    (placed : fault? = none → ∀ key ∈ keys, (bucketOf? key).isSome = true) :
    Exchange.framesOn watcher.channel (store.owed fault? (deletes keys))
      = feed.deletions fault? keys := by
  unfold deletions Store.owed
  cases fault? with
  | some fault => rfl
  | none =>
    rw [if_pos rfl]
    cases there : store.table with
    | none => exact (tell_of_contents_eq_none (contents_eq_none tracks there) _ _).symm
    | some table =>
      rw [deletes_eq]
      exact framesOn_tell tracks there keys (placed rfl) _ (fun _ => .deleted) (fun _ => rfl)
        (fun _ _ => rfl)

/-- **An action sends a watcher what its feed is owed,** and nothing else. -/
theorem framesOn_owed {store : Store} (tracks : feed.Tracks watcher store) (action : Action) :
    Exchange.framesOn watcher.channel ((action.effect store.settings).owed store)
      = feed.frames store.settings (.action action) := by
  -- an edit that only watches owes nothing
  have silent : ∀ fault? edit, (∀ found, edit.notices found = []) →
      Exchange.framesOn watcher.channel (store.owed fault? [edit]) = [] := by
    intro fault? edit quiet
    rw [store.owed_of_quiet quiet]
    rfl
  cases action with
  | perform operation =>
    cases operation with
    | put key value => exact framesOn_puts tracks [(key, value)]
    | write pairs => exact framesOn_puts tracks pairs
    | erase key =>
      have single := framesOn_deletes tracks (store.settings.keyFault? key) [key]
        fun admitted other member => by
          rw [List.mem_singleton.1 member]
          exact Settings.placed_of_keyFault? admitted
      rw [deletes_singleton] at single
      exact single
    | delete keys sink =>
      exact framesOn_deletes tracks _ keys Settings.placed_of_keysFault?
    | _ => rfl
  | watch key other => exact silent _ (.watch key other) fun _ => rfl
  | unwatch key client => exact silent _ (.unwatch key client) fun _ => rfl
  | _ => rfl

end Feed

/-! ## What fits -/

theorem Watchers.fits_notices (watchers : Watchers) {key : String} {change : Change}
    (keyFits : key.utf8ByteSize ≤ keyWidth) (textFits : change.text.utf8ByteSize ≤ keyWidth) :
    ∀ notice ∈ watchers.notices key change, notice.Fits := by
  intro notice member
  obtain ⟨watcher, _, rfl⟩ := List.mem_map.1 member
  exact ⟨keyFits, textFits⟩

theorem Table.fits_noticesOf (table : Table) (edits : List Edit)
    (each : ∀ edit ∈ edits, ∀ found, ∀ notice ∈ edit.notices found, notice.Fits) :
    ∀ notice ∈ table.noticesOf edits, notice.Fits := by
  induction edits generalizing table with
  | nil =>
    intro notice member
    cases member
  | cons edit rest ih =>
    intro notice member
    rcases List.mem_append.1 member with now | later
    · exact each edit (by simp) _ notice now
    · exact ih (table.edit edit) (fun other behind => each other (List.mem_cons_of_mem _ behind))
        notice later

namespace Store

variable {store : Store}

theorem fits_owed (fault? : Option Error) (edits : List Edit)
    (each : fault? = none → ∀ edit ∈ edits, ∀ found, ∀ notice ∈ edit.notices found, notice.Fits) :
    ∀ notice ∈ store.owed fault? edits, notice.Fits := by
  intro notice member
  unfold owed at member
  cases fault? with
  | some fault => cases member
  | none =>
    cases there : store.table with
    | none =>
      rw [there] at member
      cases member
    | some table =>
      rw [there] at member
      exact table.fits_noticesOf edits (each rfl) notice member

theorem keyFits_of_short (short : store.settings.maxKeyLength ≤ keyWidth) {key : String}
    (admitted : store.settings.keyFault? key = none) : key.utf8ByteSize ≤ keyWidth :=
  ((store.settings.keyFault?_eq_none_iff key).1 admitted).1.trans short

theorem fits_puts (short : store.settings.maxKeyLength ≤ keyWidth)
    (pairs : List (String × String)) :
    ∀ notice ∈ store.owed (store.settings.pairsFault? pairs) (puts pairs), notice.Fits := by
  refine fits_owed _ _ ?_
  intro admitted edit member found
  obtain ⟨pair, kept, rfl⟩ := List.mem_map.1 member
  obtain ⟨key, value⟩ :=
    Settings.pairFault?_of_pairsFault? admitted pair (mem_of_mem_lastPairs kept)
  have valueFits := (store.settings.valueFault?_eq_none_iff pair.1 pair.2).1 value
  exact Watchers.fits_notices _ (keyFits_of_short short key) (valueFits.trans short)

theorem fits_deletes (short : store.settings.maxKeyLength ≤ keyWidth) (fault? : Option Error)
    (keys : List String)
    (admitted : fault? = none → ∀ key ∈ keys, store.settings.keyFault? key = none) :
    ∀ notice ∈ store.owed fault? (deletes keys), notice.Fits := by
  have textFits : deletedText.utf8ByteSize ≤ keyWidth := by decide
  refine fits_owed _ _ ?_
  intro given edit member found
  obtain ⟨key, kept, rfl⟩ := List.mem_map.1 member
  have ours := admitted given key ((mem_eachOnce keys key).1 kept)
  exact Watchers.fits_notices _ (keyFits_of_short short ours) textFits

end Store

/-- **Everything that is owed fits its frame** if keys and values are short enough for one. -/
theorem Action.fits_owed (store : Store) (short : store.settings.maxKeyLength ≤ keyWidth)
    (action : Action) :
    ∀ notice ∈ (action.effect store.settings).owed store, notice.Fits := by
  cases action with
  | perform operation =>
    cases operation with
    | put key value => exact Store.fits_puts short [(key, value)]
    | write pairs => exact Store.fits_puts short pairs
    | erase key =>
      have single := Store.fits_deletes short (store.settings.keyFault? key) [key]
        fun admitted other member => by rwa [List.mem_singleton.1 member]
      rwa [deletes_singleton] at single
    | delete keys sink =>
      exact Store.fits_deletes short _ keys Settings.keyFault?_of_keysFault?
    | _ =>
      intro notice member
      cases member
  | watch key watcher =>
    refine Store.fits_owed _ [.watch key watcher] ?_
    intro _ edit member found notice owes
    rw [List.mem_singleton.1 member] at owes
    cases owes
  | unwatch key client =>
    refine Store.fits_owed _ [.unwatch key client] ?_
    intro _ edit member found notice owes
    rw [List.mem_singleton.1 member] at owes
    cases owes
  | _ =>
    intro notice member
    cases member

/-! ## Runs -/

/-- The service after events in order. -/
def Service.undergoAll (service : Service) (events : List Event) : Service :=
  events.foldl Service.undergo service

/-- Whether an event can matter to a watcher: what changes keys and values, its own watching, and
what becomes of its own channel. -/
def Event.Concerns (watcher : Watcher) : Event → Bool
  | .action (.perform _) => true
  | .action (.watch _ other) => other.client == watcher.client
  | .action (.unwatch _ client) => client == watcher.client
  | .close id => id == watcher.channel
  | .disown id => id == watcher.channel
  | _ => false

theorem Service.settings_undergo (service : Service) (event : Event) :
    (service.undergo event).store.settings = service.store.settings := by
  cases event with
  | action action =>
    show (service.act action).store.settings = _
    rw [(service.act_effect action).1, Effect.settings_onStore]
  | _ => rfl

namespace Feed

variable {feed : Feed} {watcher : Watcher} {service : Service}

/-- **Every event keeps a feed beside the store.** -/
theorem tracks_undergo (tracks : feed.Tracks watcher service.store) (event : Event)
    (faithful : event.Faithful watcher) :
    (feed.next service.store.settings watcher event).Tracks watcher
      (service.undergo event).store := by
  cases event with
  | action action => exact tracks_act tracks action faithful
  | _ => exact ⟨tracks.orderly, tracks.refines, tracks.pinned⟩

/-- A channel that is closed or disowned, be it the watcher's or another, is offered nothing. -/
theorem channel?_modify_shut {channel : Channel}
    (here : service.exchange.channel? watcher.channel = some channel)
    (live : channel.isLive = feed.isLive) (id : ChannelId) (change : Channel → Channel)
    (keeps : ∀ channel, (change channel).sink = channel.sink)
    (dead : ∀ channel, (change channel).isLive = false) :
    ∃ after, (service.exchange.modify id change).channel? watcher.channel = some after
      ∧ after.isLive = (feed.isLive && id != watcher.channel) ∧ after.sink = channel.sink := by
  rw [Exchange.channel?_modify]
  by_cases ours : id = watcher.channel
  · rw [if_pos ours, here]
    refine ⟨change channel, rfl, ?_, keeps channel⟩
    rw [dead, ours, bne_self_eq_false, Bool.and_false]
  · rw [if_neg ours]
    refine ⟨channel, here, ?_, rfl⟩
    rw [live, bne_iff_ne.2 ours, Bool.and_true]

/-- **In every event a channel is offered what its feed is owed.** -/
theorem channel?_undergo (tracks : feed.Tracks watcher service.store)
    (short : service.store.settings.maxKeyLength ≤ keyWidth) {channel : Channel}
    (here : service.exchange.channel? watcher.channel = some channel)
    (live : channel.isLive = feed.isLive) (flows : channel.sink.Flows) (event : Event)
    (faithful : event.Faithful watcher) :
    ∃ after, (service.undergo event).exchange.channel? watcher.channel = some after
      ∧ after.isLive = (feed.next service.store.settings watcher event).isLive
      ∧ after.sink = channel.sink.offered (feed.heard service.store.settings event) := by
  have silent : channel.sink = channel.sink.offered (if feed.isLive then [] else []) := by
    rw [ite_self, Sink.offered_nil]
  cases event with
  | action action =>
    have sent := Exchange.channel?_postAll here flows _
      (Action.fits_owed service.store short action)
    rw [framesOn_owed tracks action, ← (service.act_effect action).2] at sent
    refine ⟨_, sent, (Channel.isLive_hear _ _).trans live, ?_⟩
    unfold Channel.hear heard
    rw [live]
    split
    · rfl
    · exact (Sink.offered_nil _).symm
  | openChannel client sink =>
    refine ⟨channel, ?_, live, silent⟩
    have inside : watcher.channel < service.exchange.channels.size :=
      (Array.getElem?_eq_some_iff.1 here).1
    show (service.exchange.channels.push _)[watcher.channel]? = some channel
    rw [Array.getElem?_push_lt inside]
    exact (Array.getElem?_eq_some_iff.1 here).2 ▸ rfl
  | close id =>
    obtain ⟨after, there, stays, kept⟩ :=
      channel?_modify_shut here live id (fun channel => { channel with isOpen := false })
        (fun _ => rfl) fun channel => Bool.false_and channel.isOwned
    exact ⟨after, there, stays, kept.trans silent⟩
  | disown id =>
    obtain ⟨after, there, stays, kept⟩ :=
      channel?_modify_shut here live id (fun channel => { channel with isOwned := false })
        (fun _ => rfl) fun channel => Bool.and_false channel.isOpen
    exact ⟨after, there, stays, kept.trans silent⟩
  | desert id =>
    refine ⟨channel, ?_, live, silent⟩
    show (service.exchange.modify id _).channel? watcher.channel = some channel
    rw [Exchange.channel?_modify, if_neg faithful]
    exact here

/-- **In a run a channel is offered what its feed is owed in all.** -/
theorem channel?_undergoAll (tracks : feed.Tracks watcher service.store)
    (short : service.store.settings.maxKeyLength ≤ keyWidth) {channel : Channel}
    (here : service.exchange.channel? watcher.channel = some channel)
    (live : channel.isLive = feed.isLive) (flows : channel.sink.Flows) (events : List Event)
    (faithful : ∀ event ∈ events, event.Faithful watcher) :
    ∃ after, (service.undergoAll events).exchange.channel? watcher.channel = some after
      ∧ after.sink = channel.sink.offered (feed.bytes service.store.settings watcher events) := by
  induction events generalizing feed service channel with
  | nil => exact ⟨channel, here, (Sink.offered_nil _).symm⟩
  | cons event rest ih =>
    have ours := faithful event (by simp)
    obtain ⟨after, there, stays, took⟩ := channel?_undergo tracks short here live flows event ours
    have settings := service.settings_undergo event
    have onward := ih (tracks_undergo tracks event ours) (by rw [settings]; exact short) there stays
      (by rw [took]; exact flows) fun other member => faithful other (List.mem_cons_of_mem _ member)
    obtain ⟨last, reached, takes⟩ := onward
    refine ⟨last, reached, ?_⟩
    rw [takes, took, Sink.offered_offered, settings]
    rfl

/-- What does not concern a watcher owes it nothing, and leaves its feed. -/
theorem next_of_not_concerns (settings : Settings) (feed : Feed) (event : Event)
    (foreign : event.Concerns watcher = false) :
    feed.frames settings event = [] ∧ feed.next settings watcher event = feed := by
  obtain ⟨contents, watched, isLive⟩ := feed
  cases event with
  | action action =>
    cases action with
    | perform operation => cases foreign
    | watch key other =>
      have apart : ¬ other.client = watcher.client := by simpa [Event.Concerns] using foreign
      refine ⟨rfl, ?_⟩
      show Feed.mk contents (if _ ∧ _ then _ else _) isLive = _
      rw [if_neg fun all => apart all.1]
    | unwatch key client =>
      have apart : ¬ client = watcher.client := by simpa [Event.Concerns] using foreign
      refine ⟨rfl, ?_⟩
      show Feed.mk contents (if _ then _ else _) isLive = _
      rw [if_neg apart]
    | _ => exact ⟨rfl, rfl⟩
  | close id =>
    have apart : id ≠ watcher.channel := by simpa [Event.Concerns] using foreign
    refine ⟨rfl, ?_⟩
    show Feed.mk contents watched (isLive && id != watcher.channel) = _
    rw [bne_iff_ne.2 apart, Bool.and_true]
  | disown id =>
    have apart : id ≠ watcher.channel := by simpa [Event.Concerns] using foreign
    refine ⟨rfl, ?_⟩
    show Feed.mk contents watched (isLive && id != watcher.channel) = _
    rw [bne_iff_ne.2 apart, Bool.and_true]
  | _ => exact ⟨rfl, rfl⟩

/-- **Nothing that others do changes what a watcher is owed.** -/
theorem bytes_filter_concerns (settings : Settings) (watcher : Watcher) (feed : Feed)
    (events : List Event) :
    feed.bytes settings watcher events
      = feed.bytes settings watcher (events.filter fun event => event.Concerns watcher) := by
  induction events generalizing feed with
  | nil => rfl
  | cons event rest ih =>
    by_cases ours : event.Concerns watcher = true
    · rw [List.filter_cons_of_pos ours]
      show _ ++ _ = _ ++ _
      rw [ih]
    · obtain ⟨nothing, still⟩ :=
        next_of_not_concerns settings feed event (Bool.eq_false_iff.2 ours)
      rw [List.filter_cons_of_neg ours, ← ih]
      show (if feed.isLive then feed.frames settings event else []) ++ _ = _
      rw [nothing, still, ite_self, List.nil_append]

theorem tracks_fresh (watcher : Watcher) (isLive : Bool) {store : Store}
    (fresh : store.table = none) : Tracks { isLive } watcher store where
  orderly := Store.orderly_of_table_eq_none fresh
  refines := by
    show Option.Rel Table.Holds store.table none
    rw [fresh]
    exact Option.Rel.none
  pinned := fun key => by
    unfold Store.watchersOf
    rw [fresh]
    exact Pinned.nil watcher (Finset.notMem_empty key)

/-- **A watcher hears of its entries, in order and to the byte.** From a store without a table on,
and if every key and value fits a frame, the sink of a watcher's channel takes from the front of
what its feed is owed as much as it has room for. What others do, and what becomes of their channels,
is not part of it. -/
theorem taken_eq_portion (service : Service) (watcher : Watcher) (channel : Channel)
    (events : List Event) (short : service.store.settings.maxKeyLength ≤ 41)
    (fresh : service.store.table = none)
    (here : service.exchange.channel? watcher.channel = some channel) (flows : channel.sink.Flows)
    (faithful : ∀ event ∈ events, event.Faithful watcher) :
    let settings := service.store.settings
    let owed := Feed.bytes settings watcher { isLive := channel.isLive } events
    (∃ after, (service.undergoAll events).exchange.channel? watcher.channel = some after
      ∧ after.sink.taken
        = channel.sink.taken ++ channel.sink.room.elim owed fun room => owed.take room)
      ∧ owed = Feed.bytes settings watcher { isLive := channel.isLive }
          (events.filter fun event => event.Concerns watcher)
      ∧ ∀ key value, settings.keyFault? key = none → settings.valueFault? key value = none →
          Notification.encode ⟨key, value⟩ = .ok (Notification.frame key value) := by
  intro settings owed
  refine ⟨?_, bytes_filter_concerns _ _ _ _, fun key value keyAdmitted valueAdmitted => ?_⟩
  · obtain ⟨after, there, took⟩ := channel?_undergoAll (tracks_fresh watcher channel.isLive fresh)
      short here rfl flows events faithful
    refine ⟨after, there, ?_⟩
    rw [took]
    rfl
  · have keyFits := ((settings.keyFault?_eq_none_iff key).1 keyAdmitted).1
    have valueFits := (settings.valueFault?_eq_none_iff key value).1 valueAdmitted
    exact Notification.encode_eq_ok (keyFits.trans short) (valueFits.trans short)

/-- Two watchers of one key, the one told in chunks of five bytes and for a hundred in all, the other
not at all. -/
theorem taken_eq_portion_limited :
    let narrow : Channel := { client := 1, sink := { room := some 100, chunk := some 5 } }
    let broken : Channel := { client := 2, sink := Sink.desert {} }
    let service : Service := { store := { settings := {} }, exchange := ⟨#[narrow, broken]⟩ }
    let watcher : Watcher := ⟨1, 0⟩
    let events : List Event :=
      [.action (.perform .init), .action (.perform (.put "a" "1")), .action (.watch "a" ⟨2, 1⟩),
        .action (.watch "a" watcher), .action (.perform (.write [("a", "2"), ("b", "1"), ("a", "3")])),
        .desert 1, .action (.perform (.erase "a"))]
    service.store.settings.maxKeyLength ≤ 41 ∧ service.store.table = none
      ∧ service.exchange.channel? watcher.channel = some narrow ∧ narrow.sink.Flows
      ∧ (∀ event ∈ events, event.Faithful watcher)
      ∧ ∃ after, (service.undergoAll events).exchange.channel? watcher.channel = some after
        ∧ after.sink.taken = (Feed.bytes {} watcher { isLive := true } events).take 100 := by
  intro narrow broken service watcher events
  have flows : narrow.sink.Flows := by
    show some 5 ≠ some 0
    decide
  have faithful : ∀ event ∈ events, event.Faithful watcher := by
    intro event member
    simp only [events, List.mem_cons, List.not_mem_nil, or_false] at member
    rcases member with rfl | rfl | rfl | rfl | rfl | rfl | rfl
    · trivial
    · trivial
    · show 2 = 1 ↔ 1 = 0
      decide
    · exact Iff.intro (fun _ => rfl) fun _ => rfl
    · trivial
    · show 1 ≠ 0
      decide
    · trivial
  refine ⟨by decide, rfl, rfl, flows, faithful, ?_⟩
  exact (taken_eq_portion service watcher narrow events (by decide) rfl rfl flows faithful).1

end Feed

end KeyWatch
