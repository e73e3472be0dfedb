/-
# Proofs.Entries -- what is true of every entry, and what a snapshot lists

An entry comes from one edit and is changed by others. So a property that every edit hands on is
true of every entry, whatever the buckets do with it (`each_onStore`). Keys and values within the
limit of the settings, and one record for each client, are such a property (`Entry.Proper`), and so
they are true of every entry of every run (`proper_undergoAll`).

With the sound tables this is all there is to know of a table: each entry stands in its bucket, no
key has two, and so a snapshot lists what a reading finds (`mem_snapshot_iff`) and every key once.
-/
import KeyWatch.Proofs.Feed
import Mathlib

namespace KeyWatch

set_option autoImplicit false

/-! ## A property of entries -/

section Each

variable {P : Entry → Prop}

/-- An edit leaves an entry with a property, if what it found had it. -/
def Edit.Keeps (P : Entry → Prop) (edit : Edit) : Prop :=
  ∀ found : Option Entry, (∀ entry ∈ found, P entry) → ∀ entry ∈ edit.onEntry found, P entry

/-- Every entry of a table has a property. -/
def Table.Each (P : Entry → Prop) (table : Table) : Prop :=
  ∀ key, ∀ entry ∈ table.find? key, P entry

/-- The table, if there is one, has the property in each entry. -/
def Store.Each (P : Entry → Prop) (store : Store) : Prop :=
  ∀ table, store.table = some table → table.Each P

/-- Whatever an effect edits keeps the property. -/
def Effect.Keeps (P : Entry → Prop) : Effect → Prop
  | .edit fault? edits => fault? = none → ∀ edit ∈ edits, edit.Keeps P
  | _ => True

theorem Edit.keeps_delete (key : String) : (Edit.delete key).Keeps P := by
  intro found _ entry gone
  cases gone

/-- An edit that changes an entry in its place keeps what the change keeps. -/
theorem Edit.keeps_of_map {edit : Edit} (change : Entry → Entry)
    (maps : ∀ found, edit.onEntry found = found.map change)
    (keeps : ∀ entry, P entry → P (change entry)) : edit.Keeps P := by
  intro found each entry left
  rw [maps] at left
  obtain ⟨old, was, rfl⟩ := Option.map_eq_some_iff.1 left
  exact keeps old (each old was)

theorem Table.each_empty : ({} : Table).Each P := by
  intro key entry found
  rw [find?_empty] at found
  cases found

theorem Table.each_edit {table : Table} (each : table.Each P) {edit : Edit} (keeps : edit.Keeps P)
    (placed : (bucketOf? edit.key).isSome = true) : (table.edit edit).Each P := by
  intro key entry found
  rw [find?_edit _ _ placed] at found
  by_cases hit : key = edit.key
  · rw [if_pos hit] at found
    exact keeps _ (each edit.key) entry found
  · rw [if_neg hit] at found
    exact each key entry found

theorem Table.each_edits {table : Table} (each : table.Each P) (edits : List Edit)
    (keeps : ∀ edit ∈ edits, edit.Keeps P)
    (placed : ∀ edit ∈ edits, (bucketOf? edit.key).isSome = true) :
    (edits.foldl Table.edit table).Each P := by
  induction edits generalizing table with
  | nil => exact each
  | cons edit rest ih =>
    exact ih (each_edit each (keeps edit (by simp)) (placed edit (by simp)))
      (fun other member => keeps other (List.mem_cons_of_mem _ member))
      (fun other member => placed other (List.mem_cons_of_mem _ member))

/-- **What every edit keeps, an effect keeps** in each entry. -/
theorem Store.each_onStore {store : Store} (each : store.Each P) {effect : Effect}
    (admitted : effect.Admitted store.settings) (keeps : effect.Keeps P) :
    (effect.onStore store).Each P := by
  cases effect with
  | make =>
    show (if store.table = none then (⟨store.settings, some {}⟩ : Store) else store).Each P
    split
    · intro table there
      cases there
      exact Table.each_empty
    · exact each
  | drop =>
    intro table there
    cases there
  | edit fault? edits =>
    cases fault? with
    | some fault => exact each
    | none =>
      intro table there
      obtain ⟨old, was, rfl⟩ := Option.map_eq_some_iff.1 there
      exact Table.each_edits (each old was) edits (keeps rfl) fun edit member =>
        Settings.placed_of_keyFault? (admitted rfl edit member)
  | keep => exact each

/-- **An action keeps a property** if writing an admitted pair, watching and unwatching keep it. -/
theorem Action.keeps_effect (settings : Settings) (action : Action)
    (put : ∀ key value, settings.keyFault? key = none → settings.valueFault? key value = none →
      (Edit.put key value).Keeps P)
    (watch : ∀ key watcher, action = .watch key watcher → (Edit.watch key watcher).Keeps P)
    (unwatch : ∀ key client, (Edit.unwatch key client).Keeps P) :
    (action.effect settings).Keeps P := by
  have batch : ∀ pairs, settings.pairsFault? pairs = none → ∀ edit ∈ puts pairs, edit.Keeps P := by
    intro pairs admitted edit member
    obtain ⟨pair, kept, rfl⟩ := List.mem_map.1 member
    obtain ⟨keyFits, valueFits⟩ :=
      Settings.pairFault?_of_pairsFault? admitted pair (mem_of_mem_lastPairs kept)
    exact put pair.1 pair.2 keyFits valueFits
  have single : ∀ edit : Edit, edit.Keeps P → ∀ other ∈ [edit], other.Keeps P := by
    intro edit keeps other member
    rw [List.mem_singleton.1 member]
    exact keeps
  cases action with
  | perform operation =>
    cases operation with
    | put key value => exact batch [(key, value)]
    | write pairs => exact batch pairs
    | erase key => exact fun _ => single _ (Edit.keeps_delete key)
    | delete keys sink =>
      intro _ edit member
      obtain ⟨key, _, rfl⟩ := List.mem_map.1 member
      exact Edit.keeps_delete key
    | _ => trivial
  | watch key watcher => exact fun _ => single _ (watch key watcher rfl)
  | unwatch key client => exact fun _ => single _ (unwatch key client)
  | _ => trivial

/-- An event other than an action leaves the store alone. -/
theorem Service.store_undergo (service : Service) (event : Event) :
    (service.undergo event).store = service.store
      ∨ ∃ action, event = .action action ∧ (service.undergo event).store
        = (action.effect service.store.settings).onStore service.store := by
  cases event with
  | action action => exact .inr ⟨action, rfl, (service.act_effect action).1⟩
  | _ => exact .inl rfl

end Each

/-! ## Proper entries -/

/-- Key and value are within a limit, and no client watches the entry twice. -/
structure Entry.Proper (limit : Nat) (entry : Entry) : Prop where
  key : entry.key.utf8ByteSize ≤ limit
  value : entry.value.utf8ByteSize ≤ limit
  clients : entry.watchers.clients.Nodup

/-- **Every action keeps entries proper.** -/
theorem Action.proper_effect (settings : Settings) (action : Action) :
    (action.effect settings).Keeps (Entry.Proper settings.maxKeyLength) := by
  refine action.keeps_effect settings (fun key value keyFits valueFits => ?_)
    (fun key watcher _ => ?_) fun key client => ?_
  · intro found proper entry made
    cases made
    refine ⟨((settings.keyFault?_eq_none_iff key).1 keyFits).1,
      (settings.valueFault?_eq_none_iff key value).1 valueFits, ?_⟩
    cases found with
    | none => exact List.nodup_nil
    | some old => exact (proper old rfl).clients
  · exact Edit.keeps_of_map _ (fun _ => rfl) fun entry proper =>
      ⟨proper.key, proper.value, entry.watchers.nodup_clients_add watcher proper.clients⟩
  · refine Edit.keeps_of_map _ (fun _ => rfl) fun entry proper => ⟨proper.key, proper.value, ?_⟩
    show (entry.watchers.remove client).clients.Nodup
    rw [Watchers.clients_remove]
    exact proper.clients.filter _

/-! ## Runs -/

/-- The store is orderly, and every entry proper. -/
structure Store.Proper (store : Store) : Prop where
  orderly : store.Orderly
  each : store.Each (Entry.Proper store.settings.maxKeyLength)

/-- A store that was just made, with or without a table. -/
theorem Store.proper_of_begins {store : Store}
    (begins : store.table = none ∨ store.table = some {}) : store.Proper := by
  rcases begins with fresh | empty
  · refine ⟨orderly_of_table_eq_none fresh, fun table there => ?_⟩
    rw [fresh] at there
    cases there
  · refine ⟨⟨fun table there => ?_, fun table there key stored => ?_⟩, fun table there => ?_⟩
    · rw [empty] at there
      cases there
      exact Table.sound_empty
    · rw [empty] at there
      cases there
      rw [Table.find?_empty] at stored
      cases stored
    · rw [empty] at there
      cases there
      exact Table.each_empty

/-- **Every event keeps a store proper.** -/
theorem Service.proper_undergo {service : Service} (proper : service.store.Proper) (event : Event) :
    (service.undergo event).store.Proper := by
  rcases service.store_undergo event with same | ⟨action, -, acted⟩
  · rw [same]
    exact proper
  · have admitted := action.admitted_effect service.store.settings
    rw [acted]
    refine ⟨Store.orderly_onStore proper.orderly _ admitted, ?_⟩
    rw [Effect.settings_onStore]
    exact Store.each_onStore proper.each admitted (action.proper_effect _)

theorem Service.proper_undergoAll {service : Service} (proper : service.store.Proper)
    (events : List Event) :
    (service.undergoAll events).store.Proper
      ∧ (service.undergoAll events).store.settings = service.store.settings := by
  induction events generalizing service with
  | nil => exact ⟨proper, rfl⟩
  | cons event rest ih =>
    obtain ⟨onward, settings⟩ := ih (proper_undergo proper event)
    exact ⟨onward, settings.trans (service.settings_undergo event)⟩

/-! ## Tables and snapshots -/

theorem Table.toList_buckets (table : Table) :
    table.buckets.toList = (List.finRange bucketCount).map table.bucket := by
  refine List.ext_getElem (by simp) fun place inside _ => ?_
  simp [Table.bucket]

namespace Store

variable {store : Store} {table : Table}

/-- A snapshot lists what a reading finds. -/
theorem mem_snapshot_iff (orderly : store.Orderly) (there : store.table = some table)
    (key value : String) :
    (key, value) ∈ (Snapshot.ofTable table).entries ↔ store.get key = .ok (some value) := by
  have sound := orderly.sound table there
  rw [get_eq, given_eq_ok_iff]
  constructor
  · intro listed
    obtain ⟨entry, member, pair⟩ := List.mem_map.1 listed
    cases pair
    have found := (Table.mem_entries_iff sound entry).1 member
    have admitted := orderly.admitted table there entry.key (by rw [found]; rfl)
    exact ⟨admitted, table, there, by rw [found]; rfl⟩
  · rintro ⟨-, other, same, read⟩
    rw [there] at same
    cases same
    obtain ⟨entry, found, rfl⟩ := Option.map_eq_some_iff.1 read
    have named := Table.key_of_find? found
    rw [← named] at found ⊢
    exact List.mem_map.2 ⟨entry, (Table.mem_entries_iff sound entry).2 found, rfl⟩

/-- **What a table holds.** Of a proper store: the entries stand in their buckets, are proper, and
have distinct keys. -/
theorem Proper.entry (proper : store.Proper) (there : store.table = some table)
    (index : BucketIndex) {entry : Entry} (member : entry ∈ (table.bucket index).entries) :
    bucketOf? entry.key = some index ∧ entry.Proper store.settings.maxKeyLength := by
  have sound := proper.orderly.sound table there
  refine ⟨sound.placed index _ (List.mem_map_of_mem member),
    proper.each table there entry.key entry ?_⟩
  refine (Table.mem_entries_iff sound entry).1 ?_
  rw [Table.entries_eq]
  exact List.mem_flatMap.2 ⟨index, List.mem_finRange _, member⟩

end Store

/-- **Every key is stored once, where it belongs, and a snapshot tells it so.** Whatever happens to
a store that was just made, its table has twenty-six buckets; each entry stands in the bucket of its
key, its key and its value are within the limit, and no client watches it twice; no key occurs
twice. So a snapshot lists each stored key once, with the value that a reading gives, and the size
is the length of that list. -/
theorem Service.lists_each_key_once (service : Service)
    (begins : service.store.table = none ∨ service.store.table = some {}) (events : List Event) :
    let limit := service.store.settings.maxKeyLength
    let reached := (service.undergoAll events).store
    ∀ table, reached.table = some table →
      let snapshot := Snapshot.ofTable table
      table.buckets.toList.length = 26
        ∧ (∀ index, ∀ entry ∈ (table.bucket index).entries, bucketOf? entry.key = some index
          ∧ entry.key.utf8ByteSize ≤ limit ∧ entry.value.utf8ByteSize ≤ limit
          ∧ entry.watchers.clients.Nodup)
        ∧ (table.buckets.toList.flatMap fun bucket => bucket.keys).Nodup
        ∧ (snapshot.entries.map Prod.fst).Nodup
        ∧ (∀ key value, (key, value) ∈ snapshot.entries ↔ reached.get key = .ok (some value))
        ∧ reached.size = .ok snapshot.entries.length := by
  intro limit reached table there snapshot
  obtain ⟨proper, settings⟩ := proper_undergoAll (Store.proper_of_begins begins) events
  have distinct := Table.nodup_keys (proper.orderly.sound table there)
  refine ⟨Vector.length_toList, fun index entry member => ?_, ?_, ?_,
    Store.mem_snapshot_iff proper.orderly there, ?_⟩
  · obtain ⟨placed, own⟩ := proper.entry there index member
    rw [settings] at own
    exact ⟨placed, own.key, own.value, own.clients⟩
  · rw [Table.entries_eq, List.map_flatMap] at distinct
    rw [Table.toList_buckets, List.flatMap_map]
    exact distinct
  · show ((table.entries.map fun entry => (entry.key, entry.value)).map Prod.fst).Nodup
    rw [List.map_map]
    exact distinct
  · rw [Store.size_eq, Store.given_eq_ok_iff]
    exact ⟨rfl, table, there, (List.length_map _).symm⟩

/-- Keys that share a bucket, a batch that repeats one of them, and a client that watches twice. -/
theorem Service.lists_each_key_once_shared_bucket :
    let service : Service := { store := { settings := {} } }
    let events : List Event :=
      [.action (.perform .init), .action (.perform (.write [("b", "1"), ("B", "x"), ("b", "2")])),
        .action (.watch "b" ⟨1, 0⟩), .openChannel 1 {}, .action (.watch "b" ⟨1, 0⟩),
        .action (.perform (.put "1" "3")), .action (.perform (.erase "B"))]
    let reached := (service.undergoAll events).store
    service.store.table = none ∧ ∃ table, reached.table = some table
      ∧ (Snapshot.ofTable table).entries = [("b", "2"), ("1", "3")]
      ∧ reached.size = .ok 2
      ∧ reached.get "b" = .ok (some "2") := by
  intro service events reached
  have listed : (reached.table.map fun table => (Snapshot.ofTable table).entries)
      = some [("b", "2"), ("1", "3")] := by
    simp only [reached, service, events]
    cbv
  obtain ⟨table, there, entries⟩ := Option.map_eq_some_iff.1 listed
  obtain ⟨-, -, -, -, found, size⟩ := lists_each_key_once service (.inl rfl) events table there
  rw [entries] at found size
  exact ⟨rfl, table, there, entries, size, (found "b" "2").1 (by simp)⟩

end KeyWatch
