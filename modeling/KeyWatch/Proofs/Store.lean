/-
# Proofs.Store -- every operation of a store, by its edits

One equation for each operation: what it is refused for (`Store.given`), its answer as a function
of the entries by key, and the edits that it makes (`Store.edited`). A batch of pairs writes each of
its keys once, in ascending order (`puts`), a batch of keys deletes each of them once (`deletes`).
Sorting, planning, holding and searching do not occur in these equations any more.
-/
import KeyWatch.Proofs.Refusal

namespace KeyWatch

set_option autoImplicit false

variable {α : Type}

/-! ## Single changes -/

theorem Bucket.watchersOf_eq (bucket : Bucket) (key : String) :
    bucket.watchersOf key = watchersAt (bucket.entry? key) := rfl

namespace Table

variable {key : String} {index : BucketIndex} (home : bucketOf? key = some index) (table : Table)
include home

theorem updateAt_put (value : String) :
    (table.updateAt index (·.put key value)).state = table.edit (.put key value)
      ∧ (table.updateAt index (·.put key value)).notices
        = (Edit.put key value).notices (table.find? key) := by
  refine ⟨(edit_of_bucketOf? (.put key value) home table).symm, ?_⟩
  rw [find?_of_bucketOf? home]
  change ((table.bucket index).put key value).notices = _
  unfold Bucket.put
  rw [Bucket.has_eq]
  cases found : Bucket.entry? (table.bucket index) key with
  | none => rfl
  | some entry => rw [if_pos (by simp), Bucket.watchersOf_eq, found]; rfl

theorem updateAt_delete :
    table.updateAt index (·.delete key)
      = { answer := (table.find? key).isSome
          state := table.edit (.delete key)
          notices := (Edit.delete key).notices (table.find? key) } := by
  rw [edit_of_bucketOf? (.delete key) home, find?_of_bucketOf? home, ← Bucket.has_eq]
  rfl

theorem updateAt_watch (watcher : Watcher) :
    table.updateAt index (·.watch key watcher)
      = { answer := (table.find? key).isSome, state := table.edit (.watch key watcher) } := by
  rw [edit_of_bucketOf? (.watch key watcher) home, find?_of_bucketOf? home,
    ← Bucket.has_eq]
  rfl

theorem updateAt_unwatch (client : ClientId) :
    table.updateAt index (·.unwatch key client)
      = { answer := (watchersAt (table.find? key)).has client
          state := table.edit (.unwatch key client) } := by
  rw [edit_of_bucketOf? (.unwatch key client) home, find?_of_bucketOf? home]
  rfl

end Table

/-! ## Held sets at work -/

namespace Held

variable {held : Held}

theorem Covers.tail {key : String} {rest : List String} (covers : held.Covers (key :: rest)) :
    held.Covers rest :=
  fun other member => covers other (List.mem_cons_of_mem _ member)

/-- **A held set writes its pairs one after another.** -/
theorem putAll_eq (writing : held.mode = .write) (pairs : List (String × String))
    (covers : held.Covers (pairs.map Prod.fst)) (table : Table) :
    held.putAll table pairs
      = .ok { answer := ()
              state := (pairs.map fun pair => Edit.put pair.1 pair.2).foldl Table.edit table
              notices := table.noticesOf (pairs.map fun pair => Edit.put pair.1 pair.2) } := by
  induction pairs generalizing table with
  | nil => rfl
  | cons pair rest ih =>
    obtain ⟨key, value⟩ := pair
    obtain ⟨index, home, holds⟩ := covers key (by simp)
    obtain ⟨state, notices⟩ := Table.updateAt_put ((bucketOf_eq_ok_iff key index).1 home) table value
    have later := ih covers.tail (table.edit (.put key value))
    simp only [putAll, home, bind, Except.bind, update?_of_holds holds writing]
    rw [state, notices, later]
    rfl

/-- **A held set removes its keys one after another,** and answers those that it did not find. -/
theorem deleteAll_eq (writing : held.mode = .write) (keys : List String) (distinct : keys.Nodup)
    (covers : held.Covers keys) (table : Table) :
    held.deleteAll table keys
      = .ok { answer := keys.filter fun key => (table.find? key).isNone
              state := (keys.map Edit.delete).foldl Table.edit table
              notices := table.noticesOf (keys.map Edit.delete) } := by
  induction keys generalizing table with
  | nil => rfl
  | cons key rest ih =>
    obtain ⟨fresh, distinct⟩ := List.nodup_cons.1 distinct
    obtain ⟨index, home, holds⟩ := covers key (by simp)
    have place := (bucketOf_eq_ok_iff key index).1 home
    have later := ih distinct covers.tail (table.edit (.delete key))
    -- the later keys are others, so removing this one does not change what is found of them
    have same : (rest.filter fun other => ((table.edit (.delete key)).find? other).isNone)
        = rest.filter fun other => (table.find? other).isNone := by
      apply List.filter_congr
      intro other member
      have apart : other ≠ (Edit.delete key).key := by
        rintro rfl
        exact fresh member
      rw [Table.find?_edit _ _ (by simp [Edit.key, place]), if_neg apart]
    rw [same] at later
    simp only [deleteAll, home, bind, Except.bind, update?_of_holds holds writing,
      Table.updateAt_delete place, later, pure, Except.pure]
    cases found : table.find? key with
    | none => simp [found, Table.noticesOf, Edit.key]
    | some entry => simp [found, Table.noticesOf, Edit.key]

theorem readAll_eq (keys : List String) (covers : held.Covers keys) (table : Table) :
    held.readAll table keys
      = .ok (keys.map fun key => (key, (table.find? key).map (·.value))) := by
  rw [readAll]
  induction keys with
  | nil => rfl
  | cons key rest ih =>
    obtain ⟨index, home, holds⟩ := covers key (by simp)
    rw [List.mapM_cons, ih covers.tail]
    simp only [home, bind, Except.bind, bucket?_of_holds holds, Option.bind_some, pure, Except.pure,
      Bucket.get?, List.map_cons, Table.find?_of_bucketOf? ((bucketOf_eq_ok_iff key index).1 home)]

end Held

/-! ## The operations -/

/-- The keys of a batch, each once and ascending. -/
def eachOnce (keys : List String) : List String :=
  Ordered.lastOfRuns id (Ordered.ascendingBy id keys)

/-- The pairs of a batch, the last one for each key, with ascending keys. -/
def lastPairs (pairs : List (String × String)) : List (String × String) :=
  Ordered.lastOfRuns Prod.fst (Ordered.ascendingBy Prod.fst pairs)

/-- The edits that write a batch of pairs. -/
def puts (pairs : List (String × String)) : List Edit :=
  (lastPairs pairs).map fun pair => .put pair.1 pair.2

/-- The edits that delete a batch of keys. -/
def deletes (keys : List String) : List Edit := (eachOnce keys).map .delete

/-- One pair is written by one edit. -/
theorem puts_singleton (key value : String) : puts [(key, value)] = [.put key value] := by
  simp [puts, lastPairs, Ordered.ascendingBy, Ordered.lastOfRuns]

/-- One key is deleted by one edit. -/
theorem deletes_singleton (key : String) : deletes [key] = [.delete key] := by
  simp [deletes, eachOnce, Ordered.ascendingBy, Ordered.lastOfRuns]

theorem pairwise_eachOnce (keys : List String) : (eachOnce keys).Pairwise (· < ·) :=
  Ordered.pairwise_lastOfRuns id _ (Ordered.pairwise_ascendingBy id keys)

theorem mem_eachOnce (keys : List String) (key : String) : key ∈ eachOnce keys ↔ key ∈ keys := by
  have runs := Ordered.mem_map_lastOfRuns id (Ordered.ascendingBy id keys) key
  rw [eachOnce]
  simpa only [List.map_id, Ordered.mem_ascendingBy] using runs

theorem pairwise_lastPairs (pairs : List (String × String)) :
    (lastPairs pairs).Pairwise fun first second => first.1 < second.1 :=
  Ordered.pairwise_lastOfRuns Prod.fst _ (Ordered.pairwise_ascendingBy Prod.fst pairs)

theorem mem_of_mem_lastPairs {pairs : List (String × String)} {pair : String × String}
    (member : pair ∈ lastPairs pairs) : pair ∈ pairs :=
  (Ordered.mem_ascendingBy _ _ _).1 ((Ordered.lastOfRuns_sublist _ _).subset member)

theorem mem_keys_lastPairs (pairs : List (String × String)) (key : String) :
    key ∈ (lastPairs pairs).map Prod.fst ↔ key ∈ pairs.map Prod.fst := by
  have runs := Ordered.mem_map_lastOfRuns Prod.fst (Ordered.ascendingBy Prod.fst pairs) key
  rw [lastPairs, runs]
  exact (Ordered.ascendingBy_perm Prod.fst pairs).map Prod.fst |>.mem_iff

namespace Store

variable (store : Store)

/-- What a store leaves that makes edits. -/
def edited (answer : α) (edits : List Edit) (table : Table) : Update Store α where
  answer := answer
  state := { store with table := some (edits.foldl Table.edit table) }
  notices := table.noticesOf edits

theorem write_eq (pairs : List (String × String)) :
    store.write pairs
      = store.given (store.settings.pairsFault? pairs) fun table =>
          store.edited () (puts pairs) table := by
  rw [write, sortedPairs_eq]
  unfold given
  cases refused : store.settings.pairsFault? pairs with
  | some fault => rfl
  | none =>
    have placed : ∀ key ∈ (lastPairs pairs).map Prod.fst, (bucketOf? key).isSome = true := by
      intro key member
      obtain ⟨pair, given, rfl⟩ := List.mem_map.1 ((mem_keys_lastPairs pairs key).1 member)
      exact Settings.placed_of_pairsFault? refused pair given
    obtain ⟨held, taken, writing, covers⟩ := Held.covers_ofKeys _ .write placed
    change store.update _ = _
    rw [update, requireTable]
    cases store.table with
    | none => rfl
    | some table =>
      change (do let held ← Held.ofKeys ((lastPairs pairs).map Prod.fst) .write
                 held.putAll table (lastPairs pairs)) >>= _ = _
      rw [taken]
      simp only [bind, Except.bind, Held.putAll_eq writing _ covers]
      rfl

theorem delete_eq (keys : List String) :
    store.delete keys
      = store.given (store.settings.keysFault? keys) fun table =>
          store.edited ((eachOnce keys).filter fun key => (table.find? key).isNone)
            (deletes keys) table := by
  rw [delete, ascendingKeys_eq]
  unfold given
  cases refused : store.settings.keysFault? keys with
  | some fault => rfl
  | none =>
    have placed : ∀ key ∈ eachOnce keys, (bucketOf? key).isSome = true := by
      intro key member
      exact Settings.placed_of_keysFault? refused key ((mem_eachOnce keys key).1 member)
    obtain ⟨held, taken, writing, covers⟩ := Held.covers_ofKeys _ .write placed
    have distinct : (eachOnce keys).Nodup := (pairwise_eachOnce keys).imp ne_of_lt
    change store.update _ = _
    rw [update, requireTable]
    cases store.table with
    | none => rfl
    | some table =>
      change (do let held ← Held.ofKeys (eachOnce keys) .write
                 held.deleteAll table (eachOnce keys)) >>= _ = _
      rw [taken]
      simp only [bind, Except.bind, Held.deleteAll_eq writing _ distinct covers]
      rfl

theorem read_eq (keys : List String) :
    store.read keys
      = store.given (store.settings.keysFault? keys) fun table =>
          readLine ((Ordered.ascendingBy id keys).map fun key =>
            (key, (table.find? key).map (·.value))) := by
  rw [read, ascendingKeys_eq]
  unfold given
  cases refused : store.settings.keysFault? keys with
  | some fault => rfl
  | none =>
    have placed : ∀ key ∈ Ordered.ascendingBy id keys, (bucketOf? key).isSome = true := by
      intro key member
      exact Settings.placed_of_keysFault? refused key ((Ordered.mem_ascendingBy _ _ _).1 member)
    obtain ⟨held, taken, _, covers⟩ := Held.covers_ofKeys _ .read placed
    rw [requireTable]
    cases store.table with
    | none => rfl
    | some table =>
      simp only [bind, Except.bind, refuse, Except.map, taken, Held.readAll_eq _ covers, pure,
        Except.pure]

/-- An operation on one key is refused for the key or for a missing table, or done where the key
belongs. -/
theorem keyed_eq (key : String) (act : Table → Except Error α) (answer : Table → α)
    (does : ∀ index, bucketOf? key = some index → ∀ table, act table = .ok (answer table)) :
    (store.checkKey key >>= fun _ => store.requireTable >>= act)
      = store.given (store.settings.keyFault? key) answer := by
  rw [checkKey_eq, requireTable]
  unfold given
  cases refused : store.settings.keyFault? key with
  | some fault => rfl
  | none =>
    obtain ⟨index, home⟩ := Option.isSome_iff_exists.1 (Settings.placed_of_keyFault? refused)
    cases store.table with
    | none => rfl
    | some table => exact does index home table

/-- And so is one that makes an edit. -/
theorem keyed_update_eq (key : String) (act : Table → Except Error (Update Table α))
    (answer : Table → α) (edit : Edit)
    (does : ∀ index, bucketOf? key = some index → ∀ table, act table
      = .ok { answer := answer table, state := table.edit edit, notices := table.noticesOf [edit] }) :
    (store.checkKey key >>= fun _ => store.update act)
      = store.given (store.settings.keyFault? key) fun table =>
          store.edited (answer table) [edit] table := by
  refine store.keyed_eq key (fun table => act table >>= fun update => _) _ ?_
  intro index home table
  rw [does index home table]
  rfl

theorem get_eq (key : String) :
    store.get key
      = store.given (store.settings.keyFault? key) fun table =>
          (table.find? key).map (·.value) := by
  refine store.keyed_eq key (·.get key) _ ?_
  intro index home table
  simp only [Table.get, bucketOf, home, bind, Except.bind, pure, Except.pure,
    Table.find?_of_bucketOf? home, Bucket.get?]

theorem isWatched_eq (key : String) (client : ClientId) :
    store.isWatched key client
      = store.given (store.settings.keyFault? key) fun table =>
          (watchersAt (table.find? key)).has client := by
  refine store.keyed_eq key (·.isWatched key client) _ ?_
  intro index home table
  simp only [Table.isWatched, bucketOf, home, bind, Except.bind, pure, Except.pure,
    Table.find?_of_bucketOf? home, Bucket.watchersOf_eq]

theorem erase_eq (key : String) :
    store.erase key
      = store.given (store.settings.keyFault? key) fun table =>
          store.edited (table.find? key).isSome [.delete key] table := by
  refine store.keyed_update_eq key (·.delete key) _ (.delete key) ?_
  intro index home table
  simp only [Table.delete, Table.updateOf, bucketOf, home, bind, Except.bind, pure, Except.pure,
    Table.updateAt_delete home, Table.noticesOf, Edit.key, List.append_nil]

theorem watch_eq (key : String) (watcher : Watcher) :
    store.watch key watcher
      = store.given (store.settings.keyFault? key) fun table =>
          store.edited (table.find? key).isSome [.watch key watcher] table := by
  refine store.keyed_update_eq key (·.watch key watcher) _ (.watch key watcher)
    fun index home table => ?_
  simp only [Table.watch, Table.updateOf, bucketOf, home, bind, Except.bind, pure, Except.pure,
    Table.updateAt_watch home, Table.noticesOf, Edit.notices, List.append_nil]

theorem unwatch_eq (key : String) (client : ClientId) :
    store.unwatch key client
      = store.given (store.settings.keyFault? key) fun table =>
          store.edited ((watchersAt (table.find? key)).has client) [.unwatch key client] table := by
  refine store.keyed_update_eq key (·.unwatch key client) _ (.unwatch key client)
    fun index home table => ?_
  simp only [Table.unwatch, Table.updateOf, bucketOf, home, bind, Except.bind, pure, Except.pure,
    Table.updateAt_unwatch home, Table.noticesOf, Edit.notices, List.append_nil]

theorem size_eq : store.size = store.given none (·.size) := by
  rw [size, requireTable]
  unfold given
  cases store.table <;> rfl

end Store

end KeyWatch
