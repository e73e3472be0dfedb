/-
# Proofs.Quota -- subscriptions, by the entries alone

A session decides by its own list, which may be stale; here its answers are told by the entries. As
the list misses no record and is pruned first (`Session.current`), its length is then the number of
entries that carry one (`length_current`), so that an active session is granted a key exactly if the
key is stored, and either watched already or one more is within the limit. `Store.after_of_modifies`
says which entries are touched: those with the key, in their place.
-/
import KeyWatch.Proofs.Clientele
import KeyWatch.Proofs.Marked

namespace KeyWatch

set_option autoImplicit false

/-! ## Entries after watching -/

/-- The entries of a store, in order; none if there is no table. -/
def Store.entries (store : Store) : List Entry := store.table.elim [] Table.entries

/-- Two lists of entries that differ at most in the records of one client for one key: each entry keeps
its place, its key, its value and its other watchers. -/
def SameBut (key : String) (client : ClientId) : List Entry → List Entry → Prop :=
  List.Forall₂ fun old new => new.key = old.key ∧ new.value = old.value
    ∧ new.watchers.remove client = old.watchers.remove client ∧ (old.key ≠ key → new = old)

/-- An edit that changes the entry of its key in its place, if there is one. -/
def Edit.Modifies (edit : Edit) (change : Entry → Entry) : Prop :=
  ∀ bucket, edit.onBucket bucket = bucket.modify edit.key change

/-- A list of entries with those of a key changed. -/
def changedAt (key : String) (change : Entry → Entry) (entries : List Entry) : List Entry :=
  entries.map fun entry => if entry.key = key then change entry else entry

theorem changedAt_of_absent {key : String} {entries : List Entry}
    (absent : ∀ entry ∈ entries, entry.key ≠ key) (change : Entry → Entry) :
    changedAt key change entries = entries := by
  refine (List.map_congr_left fun entry member => ?_).trans (List.map_id entries)
  exact if_neg (absent entry member)

theorem changedAt_of_fixed {key : String} {entries : List Entry} {change : Entry → Entry}
    (fixed : ∀ entry ∈ entries, entry.key = key → change entry = entry) :
    changedAt key change entries = entries := by
  refine (List.map_congr_left fun entry member => ?_).trans (List.map_id entries)
  split
  · next hit => exact fixed entry member hit
  · rfl

theorem sameBut_refl (key : String) (client : ClientId) (entries : List Entry) :
    SameBut key client entries entries :=
  List.forall₂_same.2 fun _ _ => ⟨rfl, rfl, rfl, fun _ => rfl⟩

theorem sameBut_changedAt (key : String) (client : ClientId) (entries : List Entry)
    {change : Entry → Entry}
    (keeps : ∀ entry, (change entry).key = entry.key ∧ (change entry).value = entry.value
      ∧ (change entry).watchers.remove client = entry.watchers.remove client) :
    SameBut key client entries (changedAt key change entries) := by
  unfold SameBut changedAt
  rw [List.forall₂_map_right_iff, List.forall₂_same]
  intro entry _
  split
  · next hit => exact ⟨(keeps entry).1, (keeps entry).2.1, (keeps entry).2.2, fun other => absurd hit other⟩
  · exact ⟨rfl, rfl, rfl, fun _ => rfl⟩

/-- A table with every entry changed in its place. -/
def Table.mapEntries (change : Entry → Entry) (table : Table) : Table :=
  ⟨table.buckets.map fun bucket => ⟨bucket.entries.map change⟩⟩

/-- A store with every entry changed in its place. -/
def Store.mapEntries (change : Entry → Entry) (store : Store) : Store :=
  { store with table := store.table.map (Table.mapEntries change) }

namespace Table

theorem bucket_mapEntries (change : Entry → Entry) (table : Table) (index : BucketIndex) :
    (table.mapEntries change).bucket index = ⟨(table.bucket index).entries.map change⟩ := by
  show (table.buckets.map _)[index] = _
  simp [bucket]

theorem mapEntries_congr {first second : Entry → Entry} {table : Table}
    (same : ∀ entry ∈ table.entries, first entry = second entry) :
    table.mapEntries first = table.mapEntries second := by
  apply ext_bucket
  intro index
  rw [bucket_mapEntries, bucket_mapEntries, List.map_congr_left fun entry member => same entry ?_]
  rw [entries_eq, List.mem_flatMap]
  exact ⟨index, List.mem_finRange _, member⟩

theorem mapEntries_id (table : Table) : table.mapEntries id = table := by
  apply ext_bucket
  intro index
  rw [bucket_mapEntries, List.map_id]

theorem mapEntries_mapEntries (first second : Entry → Entry) (table : Table) :
    (table.mapEntries first).mapEntries second = table.mapEntries (second ∘ first) := by
  apply ext_bucket
  intro index
  rw [bucket_mapEntries, bucket_mapEntries, bucket_mapEntries, List.map_map]

/-- **An edit in place** changes the entries of its key where they are. -/
theorem edit_of_modifies {table : Table} (sound : table.Sound) {edit : Edit}
    {change : Entry → Entry} (placed : (bucketOf? edit.key).isSome = true)
    (modifies : edit.Modifies change) :
    table.edit edit
      = table.mapEntries fun entry => if entry.key = edit.key then change entry else entry := by
  obtain ⟨home, here⟩ := Option.isSome_iff_exists.1 placed
  rw [edit_of_bucketOf? edit here]
  apply ext_bucket
  intro index
  rw [bucket_mapEntries]
  by_cases same : home = index
  · subst same
    rw [bucket_setBucket_self, modifies]
    rfl
  · rw [bucket_setBucket_of_ne _ _ same]
    refine congrArg Bucket.mk ((List.map_congr_left fun entry member => ?_).trans
      (List.map_id _)).symm
    -- entries of other buckets have other keys
    refine if_neg fun named => same ?_
    have there := sound.placed index entry.key (List.mem_map_of_mem member)
    rw [named, here] at there
    exact Option.some.inj there

theorem entries_mapEntries (change : Entry → Entry) (table : Table) :
    (table.mapEntries change).entries = table.entries.map change := by
  rw [entries_eq, entries_eq, List.map_flatMap]
  exact List.flatMap_congr fun index _ => by rw [bucket_mapEntries]

end Table

namespace Store

variable {store : Store}

theorem mem_entries_iff (orderly : store.Orderly) (entry : Entry) :
    entry ∈ store.entries ↔ ∃ table, store.table = some table ∧ table.find? entry.key = some entry := by
  unfold entries
  cases there : store.table with
  | none => simp
  | some table =>
    rw [Option.elim_some, Table.mem_entries_iff (orderly.sound table there)]
    simp

theorem nodup_keys_entries (orderly : store.Orderly) : (store.entries.map (·.key)).Nodup := by
  unfold entries
  cases there : store.table with
  | none => exact List.nodup_nil
  | some table => exact Table.nodup_keys (orderly.sound table there)

theorem keyFault?_of_mem_entries (orderly : store.Orderly) {entry : Entry}
    (stored : entry ∈ store.entries) : store.settings.keyFault? entry.key = none := by
  obtain ⟨table, there, found⟩ := (mem_entries_iff orderly entry).1 stored
  refine orderly.admitted table there entry.key ?_
  rw [found]
  rfl

theorem carries_iff_mem_entries (orderly : store.Orderly) (key : String) (client : ClientId) :
    store.Carries key client
      ↔ ∃ entry ∈ store.entries, entry.key = key ∧ entry.watchers.has client = true := by
  rw [carries_iff_exists_entry orderly]
  unfold entries
  cases store.table with
  | none => simp
  | some table => simp

theorem finds_iff_mem_entries (orderly : store.Orderly) (key : String) :
    store.finds key = .ok true ↔ ∃ entry ∈ store.entries, entry.key = key := by
  rw [finds, given_eq_ok_iff]
  constructor
  · rintro ⟨-, table, there, stored⟩
    obtain ⟨entry, found⟩ := Option.isSome_iff_exists.1 stored
    have named := Table.key_of_find? found
    refine ⟨entry, (mem_entries_iff orderly entry).2 ⟨table, there, ?_⟩, named⟩
    rw [named]
    exact found
  · rintro ⟨entry, stored, rfl⟩
    obtain ⟨table, there, found⟩ := (mem_entries_iff orderly entry).1 stored
    refine ⟨keyFault?_of_mem_entries orderly stored, table, there, ?_⟩
    rw [found]
    rfl

/-- What is the same for all entries that are stored is the same. -/
theorem mapEntries_congr {first second : Entry → Entry}
    (same : ∀ entry ∈ store.entries, first entry = second entry) :
    store.mapEntries first = store.mapEntries second := by
  obtain ⟨settings, table?⟩ := store
  cases table? with
  | none => rfl
  | some table =>
    exact congrArg (fun table => (⟨settings, some table⟩ : Store)) (Table.mapEntries_congr same)

theorem mapEntries_id (store : Store) : store.mapEntries id = store := by
  obtain ⟨settings, table?⟩ := store
  cases table? with
  | none => rfl
  | some table =>
    exact congrArg (fun table => (⟨settings, some table⟩ : Store)) table.mapEntries_id

theorem mapEntries_mapEntries (first second : Entry → Entry) (store : Store) :
    (store.mapEntries first).mapEntries second = store.mapEntries (second ∘ first) := by
  obtain ⟨settings, table?⟩ := store
  cases table? with
  | none => rfl
  | some table =>
    exact congrArg (fun table => (⟨settings, some table⟩ : Store))
      (table.mapEntries_mapEntries first second)

/-- **An edit in place leaves the entries where they are,** refused or not: a key that is refused has
no entry. -/
theorem after_of_modifies (orderly : store.Orderly) {edit : Edit} {change : Entry → Entry}
    (modifies : edit.Modifies change) :
    store.after (store.settings.keyFault? edit.key) [edit]
      = store.mapEntries fun entry => if entry.key = edit.key then change entry else entry := by
  cases refused : store.settings.keyFault? edit.key with
  | some fault =>
    refine store.mapEntries_id.symm.trans (mapEntries_congr fun entry stored => ?_)
    refine (if_neg fun named => ?_).symm
    have admitted := keyFault?_of_mem_entries orderly stored
    rw [named, refused] at admitted
    cases admitted
  | none =>
    have placed := Settings.placed_of_keyFault? refused
    obtain ⟨settings, table?⟩ := store
    cases table? with
    | none => rfl
    | some table =>
      exact congrArg (fun table => (⟨settings, some table⟩ : Store))
        (Table.edit_of_modifies (orderly.sound table rfl) placed modifies)

theorem entries_mapEntries (change : Entry → Entry) (store : Store) :
    (store.mapEntries change).entries = store.entries.map change := by
  obtain ⟨settings, table?⟩ := store
  cases table? with
  | none => rfl
  | some table => exact table.entries_mapEntries change

/-- **A change in place is all that becomes of the entries.** -/
theorem entries_modify (orderly : store.Orderly) {edit : Edit} {change : Entry → Entry}
    (modifies : edit.Modifies change) :
    (store.after (store.settings.keyFault? edit.key) [edit]).entries
      = changedAt edit.key change store.entries := by
  rw [after_of_modifies orderly modifies, entries_mapEntries]
  rfl

end Store

/-! ## Watching and unwatching in place -/

namespace Watchers

theorem add_of_has {watchers : Watchers} {watcher : Watcher}
    (known : watchers.has watcher.client = true) : watchers.add watcher = watchers := if_pos known

theorem remove_add (watchers : Watchers) (watcher : Watcher) :
    (watchers.add watcher).remove watcher.client = watchers.remove watcher.client := by
  unfold add
  split
  · rfl
  · simp [remove]

theorem remove_remove (watchers : Watchers) (client : ClientId) :
    (watchers.remove client).remove client = watchers.remove client := by
  simp [remove, List.filter_filter]

end Watchers

/-- The entry with one more watcher. -/
def Entry.watchedBy (watcher : Watcher) (entry : Entry) : Entry :=
  { entry with watchers := entry.watchers.add watcher }

/-- The entry without the watcher of a client. -/
def Entry.unwatchedBy (client : ClientId) (entry : Entry) : Entry :=
  { entry with watchers := entry.watchers.remove client }

theorem Edit.modifies_watch (key : String) (watcher : Watcher) :
    (Edit.watch key watcher).Modifies (Entry.watchedBy watcher) := fun _ => rfl

theorem Edit.modifies_unwatch (key : String) (client : ClientId) :
    (Edit.unwatch key client).Modifies (Entry.unwatchedBy client) := fun _ => rfl

namespace Session

variable {session : Session} {service : Service}

/-! ## What a session counts -/

/-- The entries that carry a record of the session's client. -/
def watched (session : Session) (store : Store) : List Entry :=
  store.entries.filter fun entry => entry.watchers.has session.id

theorem prune_eq_filter (session : Session) (store : Store) (keys : List String) :
    (session.prune store keys).1
      = keys.filter fun key => decide (store.isWatched key session.id = .ok true) := by
  induction keys with
  | nil => rfl
  | cons key rest ih =>
    unfold prune
    cases asked : store.isWatched key session.id with
    | error error => simpa [asked] using ih
    | ok watched =>
      cases watched with
      | true => simpa [asked] using ih
      | false => simpa [asked] using ih

theorem carries_iff_mem_watched (session : Session) {store : Store} (orderly : store.Orderly)
    (key : String) :
    store.Carries key session.id ↔ ∃ entry ∈ session.watched store, entry.key = key := by
  rw [Store.carries_iff_mem_entries orderly]
  constructor
  · rintro ⟨entry, stored, named, has⟩
    exact ⟨entry, List.mem_filter.2 ⟨stored, has⟩, named⟩
  · rintro ⟨entry, member, named⟩
    obtain ⟨stored, has⟩ := List.mem_filter.1 member
    exact ⟨entry, stored, named, has⟩

/-- What is left of a pruned list are the keys that are still watched, in their order. -/
theorem current_eq (session : Session) {store : Store} (orderly : store.Orderly) :
    session.current store
      = session.keys.filter fun key => (session.watched store).any fun entry => entry.key == key := by
  rw [current, prune_eq_filter]
  refine List.filter_congr fun key _ => ?_
  rw [Bool.eq_iff_iff, decide_eq_true_iff, Store.isWatched_eq_ok_true_iff orderly,
    session.carries_iff_mem_watched orderly, List.any_eq_true]
  simp only [beq_iff_eq]

/-- **A pruned list is as long as there are entries with a record,** if it misses none. -/
theorem length_current {store : Store} (orderly : store.Orderly) (mirrors : session.Mirrors store) :
    (session.current store).length = (session.watched store).length := by
  have listed : (session.current store).Nodup :=
    (session.prune_sublist store session.keys).nodup mirrors.distinct
  have recorded : ((session.watched store).map (·.key)).Nodup :=
    (Store.nodup_keys_entries orderly).sublist (List.filter_sublist.map _)
  have same : ∀ key, key ∈ session.current store ↔ key ∈ (session.watched store).map (·.key) := by
    intro key
    rw [session.mem_current orderly, List.mem_map, ← session.carries_iff_mem_watched orderly]
    exact and_iff_right_of_imp fun carries => (mirrors.listed key carries).1
  have perm := (List.perm_ext_iff_of_nodup listed recorded).2 same
  rw [perm.length_eq, List.length_map]

/-! ## Subscribing -/

/-- **A key is granted exactly if it is stored, and watched already or within the limit;** then, and
only then, it is watched afterwards. Of the entries only that of the key is touched, and of the list
only the keys go that are watched no more, unless the key is new to it. -/
theorem subscribe_outcome (orderly : service.store.Orderly) (mirrors : session.Mirrors service.store)
    (active : session.stage = .active) (key : String) :
    let after := session.subscribe service key
    let granted := after.1 = .ok true
    (granted ↔ service.store.finds key = .ok true
        ∧ (service.store.Carries key session.id
          ∨ (session.watched service.store).length < session.maxKeys))
      ∧ (after.2.2.store.Carries key session.id ↔ granted)
      ∧ after.2.2.store.entries
        = (if granted then changedAt key (Entry.watchedBy session.watcher) service.store.entries
          else service.store.entries)
      ∧ after.2.1 = { session with
          keys := if granted then noted (session.current service.store) key
            else session.current service.store } := by
  have known : key ∈ session.current service.store ↔ service.store.Carries key session.id := by
    rw [session.mem_current orderly]
    exact and_iff_right_of_imp fun carries => (mirrors.listed key carries).1
  have count := length_current orderly mirrors
  have stored : service.store.Carries key session.id → service.store.finds key = .ok true := by
    rw [Store.carries_iff_mem_entries orderly, Store.finds_iff_mem_entries orderly]
    rintro ⟨entry, member, named, -⟩
    exact ⟨entry, member, named⟩
  intro after granted
  obtain ⟨told, sameStore, -, ⟨unknown, full, done⟩ | ⟨room, done⟩⟩ :=
    @subscribe_cases session service active key
  · have result : after = _ := done
    have refused : ¬ granted := by
      show ¬ after.1 = .ok true
      rw [result]
      rintro ⟨⟩
    have silent : ¬ service.store.Carries key session.id := fun carries => unknown (known.2 carries)
    refine ⟨iff_of_false refused ?_, ?_, ?_, ?_⟩
    · rintro ⟨-, carries | free⟩
      · exact silent carries
      · omega
    · rw [iff_false_intro refused, result, sameStore]
      exact iff_of_false silent not_false
    · rw [if_neg refused, result, sameStore]
    · rw [if_neg refused, result]
  · have result : after = _ := done
    have answer : granted ↔ service.store.finds key = .ok true := by
      show after.1 = .ok true ↔ _
      rw [result]
    refine ⟨?_, ?_, ?_, ?_⟩
    · rw [answer]
      refine (and_iff_left ?_).symm
      rcases room with here | free
      · exact .inl (known.1 here)
      · exact .inr (count ▸ free)
    · rw [answer, result]
      show (told.after _ _).store.Carries _ _ ↔ _
      rw [Service.after_store, sameStore, Store.carries_watch]
      constructor
      · rintro (carries | ⟨found, -⟩)
        · exact stored carries
        · exact found
      · intro found
        exact .inr ⟨found, rfl, rfl⟩
    · have modified := Store.entries_modify orderly (Edit.modifies_watch key session.watcher)
      have same : after.2.2.store.entries
          = changedAt key (Entry.watchedBy session.watcher) service.store.entries := by
        rw [result]
        show (told.after _ _).store.entries = _
        rw [Service.after_store, sameStore]
        exact modified
      rw [same]
      split
      · rfl
      · next refused =>
        refine changedAt_of_absent (fun entry member named => refused ?_) _
        exact answer.2 ((Store.finds_iff_mem_entries orderly key).2 ⟨entry, member, named⟩)
    · have same : after.2.1 = _ := congrArg (·.2.1) result
      rw [same]
      simp only [answer]

/-- **To subscribe again changes no entry,** and takes from the list only what is watched no more. -/
theorem subscribe_of_carries (orderly : service.store.Orderly)
    (mirrors : session.Mirrors service.store) (active : session.stage = .active) {key : String}
    (carries : service.store.Carries key session.id) :
    let after := session.subscribe service key
    after.1 = .ok true ∧ after.2.2.store.entries = service.store.entries
      ∧ after.2.1 = { session with keys := session.current service.store } := by
  intro after
  obtain ⟨granted, -, entries, list⟩ := subscribe_outcome orderly mirrors active key
  have listed : key ∈ session.current service.store :=
    (session.mem_current orderly key).2 ⟨(mirrors.listed key carries).1, carries⟩
  obtain ⟨entry, stored, rfl, has⟩ := (Store.carries_iff_mem_entries orderly key session.id).1 carries
  have given : after.1 = .ok true :=
    granted.2 ⟨(Store.finds_iff_mem_entries orderly _).2 ⟨entry, stored, rfl⟩, .inl carries⟩
  rw [if_pos given] at entries list
  refine ⟨given, ?_, ?_⟩
  · refine entries.trans (changedAt_of_fixed fun other there same => ?_)
    have one := List.inj_on_of_nodup_map (Store.nodup_keys_entries orderly) there stored same
    have known : entry.watchers.has session.watcher.client = true := has
    rw [one, Entry.watchedBy, Watchers.add_of_has known]
  · rw [list, noted, if_pos listed]

/-! ## Unsubscribing -/

/-- **A key is given up exactly if it is watched,** and of the entries only that of the key is
touched. -/
theorem unsubscribe_outcome (orderly : service.store.Orderly) (active : session.stage = .active)
    (key : String) :
    let after := session.unsubscribe service key
    (after.1 = .ok true ↔ service.store.Carries key session.id)
      ∧ ¬ after.2.2.store.Carries key session.id
      ∧ after.2.2.store.entries
        = changedAt key (Entry.unwatchedBy session.id) service.store.entries := by
  have later : (session.unsubscribe service key).1 = service.store.isWatched key session.id
      ∧ (session.unsubscribe service key).2.2
        = service.after (service.store.settings.keyFault? key) [.unwatch key session.id] := by
    unfold unsubscribe
    rw [if_neg (not_not.2 active), Service.apply_unwatch]
    cases service.store.isWatched key session.id with
    | error error => exact ⟨rfl, rfl⟩
    | ok removed => exact ⟨rfl, rfl⟩
  intro after
  refine ⟨?_, ?_, ?_⟩
  · rw [later.1]
    exact Store.isWatched_eq_ok_true_iff orderly key session.id
  · rw [later.2, Service.after_store, Store.carries_unwatch orderly]
    rintro ⟨-, others⟩
    exact others ⟨rfl, rfl⟩
  · rw [later.2, Service.after_store]
    exact Store.entries_modify orderly (Edit.modifies_unwatch key session.id)

end Session

/-! ## Any session, at any time -/

/-- The entry of a key carries a record of a client. -/
def Recorded (key : String) (client : ClientId) (entries : List Entry) : Prop :=
  ∃ entry ∈ entries, entry.key = key ∧ entry.watchers.has client = true

namespace Clientele

/-- **What an active session is answered depends on the entries alone,** whatever has happened before.
To subscribe says yes exactly if the key is stored and either carries the client's record already or so
few entries carry one that the limit leaves room; after it the entry carries the record exactly if the
answer was yes. Where the entry carries it already, no entry changes, and the list loses only keys that
are watched no more; right after a yes nothing changes at all. To unsubscribe says yes exactly if the
entry carried the record, and it does not afterwards. Neither touches another entry, a value, or the
record of another client. -/
theorem subscriptions_by_entries (clientele : Clientele) (fresh : clientele.Fresh)
    (steps : List Step) (outside : ∀ step ∈ steps, step.Outside clientele.ids) :
    let service := (clientele.run steps).service
    let entries := service.store.entries
    ∀ session ∈ (clientele.run steps).sessions, session.stage = .active → ∀ key,
      let watched := entries.filter fun entry => entry.watchers.has session.id
      let subscribed := session.subscribe service key
      let again := subscribed.2.1.subscribe subscribed.2.2 key
      let unsubscribed := session.unsubscribe service key
      (subscribed.1 = .ok true ↔ ∃ entry ∈ entries, entry.key = key
          ∧ (entry.watchers.has session.id = true ∨ watched.length < session.maxKeys))
        ∧ (Recorded key session.id subscribed.2.2.store.entries ↔ subscribed.1 = .ok true)
        ∧ SameBut key session.id entries subscribed.2.2.store.entries
        ∧ (Recorded key session.id entries →
            subscribed.2.2.store.entries = entries
            ∧ subscribed.2.1.keys = session.keys.filter fun other =>
              watched.any fun entry => entry.key == other)
        ∧ (subscribed.1 = .ok true → again.1 = .ok true ∧ again.2.1 = subscribed.2.1
            ∧ again.2.2.store.entries = subscribed.2.2.store.entries)
        ∧ (unsubscribed.1 = .ok true ↔ Recorded key session.id entries)
        ∧ ¬ Recorded key session.id unsubscribed.2.2.store.entries
        ∧ SameBut key session.id entries unsubscribed.2.2.store.entries := by
  intro service entries session member active key watched subscribed again unsubscribed
  obtain ⟨coherent, -⟩ := coherent_run (coherent_of_fresh fresh) steps outside
  have orderly : service.store.Orderly := coherent.orderly
  have mirrors : session.Mirrors service.store := coherent.mirrors session member
  have moved := Session.moved_subscribe orderly mirrors key
  have dropped := Session.moved_unsubscribe orderly mirrors key
  have recorded : service.store.Carries key session.id ↔ Recorded key session.id entries :=
    Store.carries_iff_mem_entries orderly key session.id
  obtain ⟨granted, carried, changed, list⟩ :=
    Session.subscribe_outcome orderly mirrors active key
  obtain ⟨removed, gone, left⟩ := Session.unsubscribe_outcome orderly active key
  refine ⟨?_, ?_, ?_, ?_, ?_, ?_, ?_, ?_⟩
  · refine granted.trans ?_
    rw [Store.finds_iff_mem_entries orderly, recorded]
    constructor
    · rintro ⟨⟨entry, stored, named⟩, ⟨other, there, same, has⟩ | room⟩
      · exact ⟨other, there, same, .inl has⟩
      · exact ⟨entry, stored, named, .inr room⟩
    · rintro ⟨entry, stored, named, has | room⟩
      · exact ⟨⟨entry, stored, named⟩, .inl ⟨entry, stored, named, has⟩⟩
      · exact ⟨⟨entry, stored, named⟩, .inr room⟩
  · exact (Store.carries_iff_mem_entries moved.orderly key session.id).symm.trans carried
  · rw [show subscribed.2.2.store.entries = _ from changed]
    split
    · exact sameBut_changedAt _ _ _ fun entry => ⟨rfl, rfl, entry.watchers.remove_add session.watcher⟩
    · exact sameBut_refl _ _ _
  · intro already
    obtain ⟨-, same, kept⟩ :=
      Session.subscribe_of_carries orderly mirrors active (recorded.2 already)
    refine ⟨same, ?_⟩
    rw [show subscribed.2.1 = _ from kept]
    exact session.current_eq orderly
  · intro given
    have same : subscribed.2.1.id = session.id := moved.id
    have stage : subscribed.2.1.stage = .active := by
      rw [show subscribed.2.1 = _ from list]
      exact active
    have carries : subscribed.2.2.store.Carries key subscribed.2.1.id := by
      rw [same]
      exact carried.2 given
    obtain ⟨yes, still, kept⟩ :=
      Session.subscribe_of_carries moved.orderly moved.mirrors stage carries
    refine ⟨yes, ?_, still⟩
    -- the list was left exact, so that there is nothing to prune
    have exact' : subscribed.2.1.current subscribed.2.2.store = subscribed.2.1.keys := by
      rw [Session.current, Session.prune_eq_filter, List.filter_eq_self]
      intro other listed
      rw [decide_eq_true_iff, Store.isWatched_eq_ok_true_iff moved.orderly, same]
      exact (Session.mem_keys_subscribe orderly mirrors key stage other).1 listed
    rw [show again.2.1 = _ from kept, exact']
  · exact removed.trans recorded
  · intro there
    exact gone ((Store.carries_iff_mem_entries dropped.orderly key session.id).2 there)
  · rw [show unsubscribed.2.2.store.entries = _ from left]
    exact sameBut_changedAt _ _ _ fun entry => ⟨rfl, rfl, entry.watchers.remove_remove session.id⟩

/-- A session with room for one key, whose key was deleted and made again: another key is granted. -/
theorem subscriptions_by_entries_stale_list :
    let only : Session := { id := 1, slot := 0, channel := 0, responses := {}, maxKeys := 1 }
    let clientele : Clientele := ⟨{ store := { settings := {} } }, [only]⟩
    let steps : List Step :=
      [.store (.perform .init), .store (.perform (.put "a" "1")), .store (.perform (.put "b" "2")),
        .session 0 .activate, .session 0 (.subscribe "a"), .store (.perform (.erase "a")),
        .store (.perform (.put "a" "3")), .store (.watch "b" ⟨2, 1⟩)]
    let service := (clientele.run steps).service
    clientele.Fresh ∧ (∀ step ∈ steps, step.Outside clientele.ids)
      ∧ ∃ session ∈ (clientele.run steps).sessions, session.stage = .active ∧ session.keys = ["a"]
        ∧ (session.subscribe service "b").1 = .ok true
        ∧ Recorded "b" 1 (session.subscribe service "b").2.2.store.entries
        ∧ ¬ Recorded "a" 1 (session.unsubscribe service "a").2.2.store.entries := by
  intro only clientele steps service
  have fresh : clientele.Fresh := by
    refine ⟨rfl, by decide, ?_, ?_⟩
    · intro session member
      rw [List.mem_singleton.1 member]
    · intro session member
      rw [List.mem_singleton.1 member]
  have outside : ∀ step ∈ steps, step.Outside clientele.ids := by
    intro step member
    simp only [steps, List.mem_cons, List.not_mem_nil, or_false] at member
    rcases member with rfl | rfl | rfl | rfl | rfl | rfl | rfl | rfl
    all_goals try trivial
    show 2 ∉ [1]
    decide
  have facts : (clientele.run steps).sessions.map (fun session => (session.id, session.stage,
      session.keys, session.maxKeys)) = [(1, .active, ["a"], 1)] := by
    decide +kernel
  have entries : service.store.entries = [⟨"a", "3", []⟩, ⟨"b", "2", [⟨2, 1⟩]⟩] := by
    have flat : service.store.entries = service.store.table.elim [] fun table =>
        (List.finRange bucketCount).flatMap fun index => (table.bucket index).entries := by
      unfold Store.entries
      cases service.store.table with
      | none => rfl
      | some table => exact table.entries_eq
    rw [flat]
    decide +kernel
  obtain ⟨session, sessions, same⟩ := List.map_eq_singleton_iff.1 facts
  have member : session ∈ (clientele.run steps).sessions := by
    rw [sessions]
    exact List.mem_singleton_self session
  simp only [Prod.mk.injEq] at same
  obtain ⟨id, active, keys, room⟩ := same
  have spec := subscriptions_by_entries clientele fresh steps outside session member active
  obtain ⟨granted, recorded, -⟩ := spec "b"
  obtain ⟨-, -, -, -, -, -, gone, -⟩ := spec "a"
  rw [id] at recorded gone
  have yes : (session.subscribe service "b").1 = .ok true := by
    rw [granted, entries, id, room]
    exact ⟨⟨"b", "2", [⟨2, 1⟩]⟩, by simp, rfl, .inr (by decide)⟩
  exact ⟨fresh, outside, session, member, active, keys, yes, recorded.2 yes, gone⟩

end Clientele

end KeyWatch
