/-
# Proofs.Table -- a table as its entries by key

Whatever changes a table writes a key, removes one, or adds or drops a watcher of one: four edits.
`Edit.onEntry` says what an edit makes of the entry of its key, without buckets and lists, and
`find?_edit` that the table does just this and leaves every other key alone. So a table can be
taken for the function `Table.find?` from keys to entries.

That function sees every entry in a sound table (`mem_entries_iff`), where an entry stands in the
bucket of its key and no key has two; edits keep a table sound (`sound_edit`).
-/
import KeyWatch.Proofs.Locks

namespace KeyWatch

set_option autoImplicit false

/-! ## Edits -/

/-- A change of the entry of one key. -/
inductive Edit where
  | put (key value : String)
  | delete (key : String)
  | watch (key : String) (watcher : Watcher)
  | unwatch (key : String) (client : ClientId)
  deriving Repr, DecidableEq

/-- The watchers of a key, by its entry; none if it is not stored. -/
def watchersAt (found : Option Entry) : Watchers := (found.map (·.watchers)).getD []

namespace Edit

/-- The key that is changed. -/
def key : Edit → String
  | put key _ => key
  | delete key => key
  | watch key _ => key
  | unwatch key _ => key

/-- A bucket after an edit. -/
def onBucket (bucket : Bucket) : Edit → Bucket
  | put key value => (bucket.put key value).state
  | delete key => (bucket.delete key).state
  | watch key watcher => (bucket.watch key watcher).state
  | unwatch key client => (bucket.unwatch key client).state

/-- The entry of the edit's key after it, by the one before. -/
def onEntry (old? : Option Entry) : Edit → Option Entry
  | put key value => some ⟨key, value, watchersAt old?⟩
  | delete _ => none
  | watch _ watcher => old?.map fun old => { old with watchers := old.watchers.add watcher }
  | unwatch _ client => old?.map fun old => { old with watchers := old.watchers.remove client }

/-- The notices that an edit owes, by the entry of its key before. -/
def notices (old? : Option Entry) : Edit → List Notice
  | put key value => (watchersAt old?).notices key (.updated value)
  | delete key => (watchersAt old?).notices key .deleted
  | watch _ _ => []
  | unwatch _ _ => []

end Edit

/-! ## One bucket -/

namespace Bucket

theorem key_of_entry? {bucket : Bucket} {key : String} {entry : Entry}
    (found : bucket.entry? key = some entry) : entry.key = key := by
  have := List.find?_some found
  simpa using this

theorem has_eq (bucket : Bucket) (key : String) : bucket.has key = (bucket.entry? key).isSome := by
  rw [has, entry?, List.isSome_find?]

theorem entry?_modify (bucket : Bucket) (key other : String) (change : Entry → Entry)
    (keeps : ∀ entry, (change entry).key = entry.key) :
    Bucket.entry? (bucket.modify key change) other
      = if other = key then (bucket.entry? key).map change else bucket.entry? other := by
  have sameKeys : ((fun entry : Entry => entry.key == other)
      ∘ fun entry => if entry.key = key then change entry else entry)
      = fun entry => entry.key == other := by
    funext entry
    simp only [Function.comp_apply]
    split
    · rw [keeps]
    · rfl
  change (bucket.entries.map _).find? (fun entry : Entry => entry.key == other) = _
  rw [List.find?_map, sameKeys]
  change (bucket.entry? other).map _ = _
  cases found : bucket.entry? other with
  | none =>
    split
    · next same => rw [← same, found]; rfl
    · rfl
  | some entry =>
    have named := key_of_entry? found
    split
    · next same =>
      rw [← same, found, Option.map_some, Option.map_some, if_pos named]
    · next apart =>
      rw [Option.map_some, if_neg fun same => apart (named.symm.trans same)]

theorem entry?_put (bucket : Bucket) (key value other : String) :
    Bucket.entry? (bucket.put key value).state other
      = if other = key then some ⟨key, value, watchersAt (bucket.entry? key)⟩
        else bucket.entry? other := by
  unfold put
  rw [has_eq]
  cases found : bucket.entry? key with
  | none =>
    rw [if_neg (by simp)]
    change (bucket.entries ++ [_]).find? _ = _
    rw [List.find?_append]
    change (bucket.entry? other).or _ = _
    split
    · next same => simp [same, found, watchersAt]
    · next apart => simp [show ¬ key = other from fun same => apart same.symm]
  | some entry =>
    have named := key_of_entry? found
    rw [if_pos (by simp)]
    refine (entry?_modify bucket key other (fun entry => { entry with value }) fun _ => rfl).trans ?_
    rw [found, Option.map_some, named]
    rfl

theorem entry?_delete (bucket : Bucket) (key other : String) :
    Bucket.entry? (bucket.delete key).state other
      = if other = key then none else bucket.entry? other := by
  change (bucket.entries.filter (·.key != key)).find? _ = _
  rw [List.find?_filter]
  split
  · next same => simp [same]
  · next apart =>
    unfold entry?
    congr 1
    funext entry
    by_cases named : entry.key = other
    · simp [named, apart]
    · simp [named]

/-- **An edit changes the entry of its key,** and no other. -/
theorem entry?_edit (bucket : Bucket) (edit : Edit) (other : String) :
    Bucket.entry? (edit.onBucket bucket) other
      = if other = edit.key then edit.onEntry (bucket.entry? edit.key) else bucket.entry? other := by
  cases edit with
  | put key value => exact entry?_put bucket key value other
  | delete key => exact entry?_delete bucket key other
  | watch key watcher => exact entry?_modify _ _ _ _ fun _ => rfl
  | unwatch key client => exact entry?_modify _ _ _ _ fun _ => rfl

/-- The keys of a bucket, in order. -/
def keys (bucket : Bucket) : List String := bucket.entries.map (·.key)

theorem keys_modify (bucket : Bucket) (key : String) (change : Entry → Entry)
    (keeps : ∀ entry, (change entry).key = entry.key) :
    (bucket.modify key change).keys = bucket.keys := by
  rw [keys, modify, List.map_map, keys]
  apply List.map_congr_left
  intro entry _
  simp only [Function.comp_apply]
  split
  · exact keeps entry
  · rfl

theorem mem_keys_iff (bucket : Bucket) (key : String) :
    key ∈ bucket.keys ↔ (bucket.entry? key).isSome = true := by
  rw [← has_eq]
  simp [keys, has]

/-- A written key that is new stands at the end, and one that is there keeps its place. -/
theorem keys_put (bucket : Bucket) (key value : String) :
    (bucket.put key value).state.keys
      = if key ∈ bucket.keys then bucket.keys else bucket.keys ++ [key] := by
  simp only [mem_keys_iff, ← has_eq]
  unfold put
  split
  · exact keys_modify _ _ _ fun _ => rfl
  · simp [keys]

theorem keys_delete (bucket : Bucket) (key : String) :
    (bucket.delete key).state.keys = bucket.keys.filter (· != key) := by
  simp only [delete, keys, List.filter_map]
  rfl

/-- The keys after an edit: as before, or one more at the end, or without one. -/
theorem keys_edit (bucket : Bucket) (edit : Edit) :
    (edit.onBucket bucket).keys = bucket.keys
      ∨ (edit.key ∉ bucket.keys ∧ (edit.onBucket bucket).keys = bucket.keys ++ [edit.key])
      ∨ (edit.onBucket bucket).keys = bucket.keys.filter (· != edit.key) := by
  cases edit with
  | put key value =>
    have written := bucket.keys_put key value
    by_cases stored : key ∈ bucket.keys
    · rw [if_pos stored] at written
      exact .inl written
    · rw [if_neg stored] at written
      exact .inr (.inl ⟨stored, written⟩)
  | delete key => exact .inr (.inr (bucket.keys_delete key))
  | watch key watcher => exact .inl (keys_modify _ _ _ fun _ => rfl)
  | unwatch key client => exact .inl (keys_modify _ _ _ fun _ => rfl)

end Bucket

/-! ## The table -/

namespace Table

/-- The entry of a key. -/
def find? (table : Table) (key : String) : Option Entry :=
  (bucketOf? key).bind fun index => Bucket.entry? (table.bucket index) key

/-- A table after an edit; a key without a bucket has no entry to change. -/
def edit (table : Table) (edit : Edit) : Table :=
  match bucketOf? edit.key with
  | some index => table.setBucket index (edit.onBucket (table.bucket index))
  | none => table

/-- The notices that a list of edits owes, in order. -/
def noticesOf (table : Table) : List Edit → List Notice
  | [] => []
  | edit :: rest => edit.notices (table.find? edit.key) ++ (table.edit edit).noticesOf rest

theorem find?_of_bucketOf? {key : String} {index : BucketIndex} (home : bucketOf? key = some index)
    (table : Table) : table.find? key = Bucket.entry? (table.bucket index) key := by
  unfold find?
  rw [home, Option.bind_some]

theorem key_of_find? {table : Table} {key : String} {entry : Entry}
    (found : table.find? key = some entry) : entry.key = key := by
  obtain ⟨index, _, here⟩ := Option.bind_eq_some_iff.1 found
  exact Bucket.key_of_entry? here

theorem edit_of_bucketOf? (edit : Edit) {index : BucketIndex}
    (home : bucketOf? edit.key = some index) (table : Table) :
    table.edit edit = table.setBucket index (edit.onBucket (table.bucket index)) := by
  rw [Table.edit, home]

/-- An edit changes the keys of one bucket. -/
theorem keys_bucket_edit (table : Table) (edit : Edit) {home : BucketIndex}
    (placed : bucketOf? edit.key = some home) (index : BucketIndex) :
    ((table.edit edit).bucket index).keys
      = if index = home then (edit.onBucket (table.bucket home)).keys
        else (table.bucket index).keys := by
  rw [edit_of_bucketOf? edit placed]
  split
  · next same => rw [same, bucket_setBucket_self]
  · next apart => rw [bucket_setBucket_of_ne _ _ (Ne.symm apart)]

/-- **An edit of a table changes the entry of its key,** and no other. -/
theorem find?_edit (table : Table) (edit : Edit) (placed : (bucketOf? edit.key).isSome = true)
    (other : String) :
    (table.edit edit).find? other
      = if other = edit.key then edit.onEntry (table.find? edit.key) else table.find? other := by
  obtain ⟨index, home⟩ := Option.isSome_iff_exists.1 placed
  rw [edit_of_bucketOf? edit home, find?_of_bucketOf? home]
  cases place : bucketOf? other with
  | none =>
    have apart : other ≠ edit.key := fun same => by rw [same, home] at place; cases place
    unfold find?
    rw [place, if_neg apart]
    rfl
  | some there =>
    rw [find?_of_bucketOf? place, find?_of_bucketOf? place]
    by_cases same : index = there
    · subst same
      rw [bucket_setBucket_self, Bucket.entry?_edit]
    · have apart : other ≠ edit.key := fun equal => by
        rw [equal, home] at place
        exact same (Option.some.inj place)
      rw [bucket_setBucket_of_ne _ _ same, if_neg apart]

/-! ## Sound tables -/

/-- Each entry stands in the bucket of its key, and no key has two. -/
structure Sound (table : Table) : Prop where
  placed : ∀ index, ∀ key ∈ (table.bucket index).keys, bucketOf? key = some index
  distinct : ∀ index, (table.bucket index).keys.Nodup

theorem bucket_empty (index : BucketIndex) : ({} : Table).bucket index = {} := by
  simp [bucket]

theorem sound_empty : ({} : Table).Sound where
  placed := by
    intro index key member
    rw [bucket_empty] at member
    cases member
  distinct := by
    intro index
    rw [bucket_empty]
    exact List.nodup_nil

theorem find?_empty (key : String) : ({} : Table).find? key = none := by
  unfold find?
  cases bucketOf? key with
  | none => rfl
  | some index => rw [Option.bind_some, bucket_empty]; rfl

/-- **Edits keep a table sound.** -/
theorem sound_edit {table : Table} (sound : table.Sound) (edit : Edit) :
    (table.edit edit).Sound := by
  cases placed : bucketOf? edit.key with
  | none =>
    rw [Table.edit, placed]
    exact sound
  | some home =>
    have keys := Bucket.keys_edit (table.bucket home) edit
    refine ⟨fun index key member => ?_, fun index => ?_⟩
    · rw [keys_bucket_edit _ _ placed] at member
      split at member
      · next same =>
        subst same
        rcases keys with keys | ⟨_, keys⟩ | keys
        · exact sound.placed _ _ (keys ▸ member)
        · rw [keys] at member
          rcases List.mem_append.1 member with old | new
          · exact sound.placed _ _ old
          · rw [List.mem_singleton.1 new]
            exact placed
        · exact sound.placed _ _ (List.mem_of_mem_filter (keys ▸ member))
      · exact sound.placed _ _ member
    · rw [keys_bucket_edit _ _ placed]
      split
      · rcases keys with keys | ⟨new, keys⟩ | keys
        · rw [keys]
          exact sound.distinct _
        · rw [keys, List.nodup_append]
          refine ⟨sound.distinct _, List.nodup_singleton _, ?_⟩
          intro first old second only same
          rw [List.mem_singleton.1 only] at same
          exact new (same ▸ old)
        · rw [keys]
          exact (sound.distinct _).filter _
      · exact sound.distinct _

theorem sound_edits {table : Table} (sound : table.Sound) (edits : List Edit) :
    (edits.foldl Table.edit table).Sound := by
  induction edits generalizing table with
  | nil => exact sound
  | cons edit rest ih => exact ih (sound_edit sound edit)

/-! ## All entries -/

theorem indices_all : (Held.all .read).indices.toList = List.finRange bucketCount := by
  have known : (List.finRange bucketCount).map Fin.val = List.range bucketCount := by decide
  rw [Held.all, ← known, Held.ofIndices_val]
  refine Ordered.eq_of_ascending (Locks.pairwise_inOrder _) (by decide) ?_
  intro index
  rw [Locks.mem_inOrder]

theorem entries_eq (table : Table) :
    table.entries = (List.finRange bucketCount).flatMap fun index => (table.bucket index).entries := by
  rw [entries, Held.buckets, indices_all, List.flatMap_map]

/-- **The entries of a sound table are those its keys lead to.** -/
theorem mem_entries_iff {table : Table} (sound : table.Sound) (entry : Entry) :
    entry ∈ table.entries ↔ table.find? entry.key = some entry := by
  rw [entries_eq, List.mem_flatMap]
  constructor
  · rintro ⟨index, _, member⟩
    have home := sound.placed index entry.key (List.mem_map_of_mem member)
    rw [find?_of_bucketOf? home]
    unfold Bucket.entry?
    cases found : (table.bucket index).entries.find? (·.key == entry.key) with
    | none =>
      have := List.find?_eq_none.1 found entry member
      simp at this
    | some other =>
      have named : other.key = entry.key := Bucket.key_of_entry? found
      have same := List.inj_on_of_nodup_map (sound.distinct index)
        (List.mem_of_find?_eq_some found) member named
      rw [same]
  · intro found
    obtain ⟨index, _, here⟩ := Option.bind_eq_some_iff.1 found
    exact ⟨index, List.mem_finRange _, List.mem_of_find?_eq_some here⟩

/-- **No key has two entries** in a sound table. -/
theorem nodup_keys {table : Table} (sound : table.Sound) :
    (table.entries.map (·.key)).Nodup := by
  rw [entries_eq, List.map_flatMap, List.nodup_flatMap]
  refine ⟨fun index _ => sound.distinct index, ?_⟩
  refine (List.nodup_finRange bucketCount).imp ?_
  intro first second apart key here there
  have home := sound.placed first key here
  rw [sound.placed second key there] at home
  exact apart (Option.some.inj home).symm

end Table

end KeyWatch
