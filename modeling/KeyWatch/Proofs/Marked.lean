/-
# Proofs.Marked -- a table with the marks of one watcher

`Table.marked` is a table in which one watcher was added to the entries of some keys. From a table
that knows nothing of the client, its own watching and unwatching lead to such tables and no others:
watching a key marks it (`edit_watch_marked`), unwatching takes the mark away
(`edit_unwatch_marked`), and without marks the table is the one it was (`marked_nil`), whatever the
order of its entries and whoever else watches them. A mark changes neither which keys are found nor
whether a key is refused.
-/
import KeyWatch.Proofs.Watching

namespace KeyWatch

set_option autoImplicit false

/-! ## Entries and buckets -/

/-- An entry that a watcher was added to if its key is one of some keys. -/
def Entry.marked (watcher : Watcher) (keys : List String) (entry : Entry) : Entry :=
  if entry.key ∈ keys then { entry with watchers := entry.watchers ++ [watcher] } else entry

@[simp] theorem Entry.marked_key (watcher : Watcher) (keys : List String) (entry : Entry) :
    (entry.marked watcher keys).key = entry.key := by
  unfold marked
  split <;> rfl

/-- An entry that a client does not watch. -/
def Entry.Unknown (client : ClientId) (entry : Entry) : Prop := entry.watchers.has client = false

theorem Watchers.remove_eq_self {watchers : Watchers} {client : ClientId}
    (unknown : watchers.has client = false) : watchers.remove client = watchers := by
  apply List.filter_eq_self.2
  intro watcher member
  rw [bne_iff_ne]
  rintro rfl
  have known : watchers.has watcher.client = true :=
    List.any_eq_true.2 ⟨watcher, member, by simp⟩
  rw [unknown] at known
  cases known

namespace Entry

variable {watcher : Watcher} {entry : Entry}

/-- The client of a mark watches exactly the marked entries. -/
theorem has_marked (unknown : entry.Unknown watcher.client) (keys : List String) :
    (entry.marked watcher keys).watchers.has watcher.client = decide (entry.key ∈ keys) := by
  unfold marked
  split
  · next member =>
    have added : Watchers.has (entry.watchers ++ [watcher]) watcher.client = true := by
      simp [Watchers.has]
    exact added.trans (decide_eq_true member).symm
  · next absent => exact unknown.trans (decide_eq_false absent).symm

/-- Adding the watcher marks an entry. -/
theorem add_marked (unknown : entry.Unknown watcher.client) {keys more : List String}
    (now : entry.key ∈ more) :
    ({ entry.marked watcher keys with
        watchers := (entry.marked watcher keys).watchers.add watcher } : Entry)
      = entry.marked watcher more := by
  have had := has_marked unknown keys
  unfold Watchers.add
  rw [had]
  unfold marked
  rw [if_pos now]
  by_cases before : entry.key ∈ keys
  · rw [if_pos before, if_pos (decide_eq_true before)]
  · rw [if_neg before, if_neg (by simp [before])]

/-- Removing the client takes the mark away. -/
theorem remove_marked (unknown : entry.Unknown watcher.client) {keys fewer : List String}
    (gone : entry.key ∉ fewer) :
    ({ entry.marked watcher keys with
        watchers := (entry.marked watcher keys).watchers.remove watcher.client } : Entry)
      = entry.marked watcher fewer := by
  have bare := Watchers.remove_eq_self unknown
  unfold marked
  rw [if_neg gone]
  split
  · have left : Watchers.remove (entry.watchers ++ [watcher]) watcher.client = entry.watchers := by
      unfold Watchers.remove at bare ⊢
      rw [List.filter_append, bare]
      simp
    exact congrArg (Entry.mk entry.key entry.value) left
  · exact congrArg (Entry.mk entry.key entry.value) bare

end Entry

/-- A bucket with the marks of a watcher. -/
def Bucket.marked (watcher : Watcher) (keys : List String) (bucket : Bucket) : Bucket :=
  ⟨bucket.entries.map (Entry.marked watcher keys)⟩

theorem Bucket.entry?_marked (watcher : Watcher) (keys : List String) (bucket : Bucket)
    (key : String) :
    Bucket.entry? (bucket.marked watcher keys) key
      = (bucket.entry? key).map (Entry.marked watcher keys) := by
  change (bucket.entries.map (Entry.marked watcher keys)).find? _ = _
  rw [List.find?_map]
  have sameKeys : ((fun entry : Entry => entry.key == key) ∘ Entry.marked watcher keys)
      = fun entry => entry.key == key := by
    funext entry
    rw [Function.comp_apply, Entry.marked_key]
  rw [sameKeys]
  rfl

/-- Changing the entries of one key turns marks into others, if it does so entry by entry. -/
theorem Bucket.modify_marked {watcher : Watcher} {keys other : List String} (bucket : Bucket)
    (key : String) (change : Entry → Entry)
    (hit : ∀ entry ∈ bucket.entries, entry.key = key →
      change (entry.marked watcher keys) = entry.marked watcher other)
    (miss : ∀ entry ∈ bucket.entries, entry.key ≠ key →
      (entry.key ∈ keys ↔ entry.key ∈ other)) :
    (bucket.marked watcher keys).modify key change = bucket.marked watcher other := by
  unfold Bucket.modify Bucket.marked
  rw [List.map_map]
  refine congrArg Bucket.mk (List.map_congr_left fun entry member => ?_)
  show (if (entry.marked watcher keys).key = key then change (entry.marked watcher keys)
    else entry.marked watcher keys) = _
  rw [Entry.marked_key]
  split
  · next same => exact hit entry member same
  · next apart =>
    unfold Entry.marked
    simp only [miss entry member apart]

/-! ## Tables -/

namespace Table

/-- Those of some keys that belong to a bucket. -/
def keysAt (keys : List String) (index : BucketIndex) : List String :=
  keys.filter fun key => bucketOf? key = some index

theorem mem_keysAt (keys : List String) (index : BucketIndex) (key : String) :
    key ∈ keysAt keys index ↔ key ∈ keys ∧ bucketOf? key = some index := by
  rw [keysAt, List.mem_filter, decide_eq_true_iff]

/-- A table in which a watcher was added to the entries of some keys. -/
def marked (watcher : Watcher) (keys : List String) (table : Table) : Table :=
  ⟨Vector.ofFn fun index => (table.bucket index).marked watcher (keysAt keys index)⟩

/-- No entry is watched by a client. -/
def Unknown (client : ClientId) (table : Table) : Prop :=
  ∀ entry ∈ table.entries, entry.Unknown client

theorem bucket_marked (watcher : Watcher) (keys : List String) (table : Table)
    (index : BucketIndex) :
    (table.marked watcher keys).bucket index
      = (table.bucket index).marked watcher (keysAt keys index) := by
  show (Vector.ofFn _)[index] = _
  simp

theorem ext_bucket {first second : Table} (same : ∀ index, first.bucket index = second.bucket index) :
    first = second := by
  obtain ⟨firsts⟩ := first
  obtain ⟨seconds⟩ := second
  refine congrArg Table.mk (Vector.ext fun index inside => ?_)
  exact same ⟨index, inside⟩

theorem marked_nil (watcher : Watcher) (table : Table) : table.marked watcher [] = table := by
  apply ext_bucket
  intro index
  rw [bucket_marked]
  obtain ⟨entries⟩ := table.bucket index
  refine congrArg Bucket.mk (List.map_id'' (fun entry => ?_) entries)
  exact if_neg (List.not_mem_nil)

theorem marked_congr (watcher : Watcher) {keys other : List String}
    (same : ∀ key, key ∈ keys ↔ key ∈ other) (table : Table) :
    table.marked watcher keys = table.marked watcher other := by
  apply ext_bucket
  intro index
  rw [bucket_marked, bucket_marked]
  unfold Bucket.marked
  refine congrArg Bucket.mk (List.map_congr_left fun entry _ => ?_)
  unfold Entry.marked
  simp only [mem_keysAt, same]

theorem unknown_of_mem_bucket {client : ClientId} {table : Table} (unknown : table.Unknown client)
    {index : BucketIndex} {entry : Entry} (member : entry ∈ (table.bucket index).entries) :
    entry.Unknown client := by
  refine unknown entry ?_
  rw [entries_eq, List.mem_flatMap]
  exact ⟨index, List.mem_finRange _, member⟩

theorem find?_marked (watcher : Watcher) (keys : List String) (table : Table) (key : String) :
    (table.marked watcher keys).find? key
      = (table.find? key).map (Entry.marked watcher (keys.filter fun other => other = key)) := by
  cases home : bucketOf? key with
  | none =>
    unfold find?
    rw [home]
    rfl
  | some index =>
    rw [find?_of_bucketOf? home, find?_of_bucketOf? home, bucket_marked, Bucket.entry?_marked]
    cases found : Bucket.entry? (table.bucket index) key with
    | none => rfl
    | some entry =>
      have named := Bucket.key_of_entry? found
      refine congrArg some ?_
      unfold Entry.marked
      simp only [mem_keysAt, List.mem_filter, named, home, and_true, decide_true]

/-- An edit that changes only the marks of its own key. -/
theorem edit_marked {watcher : Watcher} {keys other : List String} {table : Table} (edit : Edit)
    {change : Entry → Entry} (placed : (bucketOf? edit.key).isSome = true)
    (does : ∀ bucket, edit.onBucket bucket = bucket.modify edit.key change)
    (elsewhere : ∀ key, key ≠ edit.key → (key ∈ keys ↔ key ∈ other))
    (here : ∀ index, bucketOf? edit.key = some index → ∀ entry ∈ (table.bucket index).entries,
      entry.key = edit.key → change (entry.marked watcher (keysAt keys index))
        = entry.marked watcher (keysAt other index)) :
    (table.marked watcher keys).edit edit = table.marked watcher other := by
  obtain ⟨index, home⟩ := Option.isSome_iff_exists.1 placed
  rw [edit_of_bucketOf? edit home]
  apply ext_bucket
  intro place
  by_cases same : index = place
  · subst same
    rw [bucket_setBucket_self, bucket_marked, bucket_marked, does]
    refine Bucket.modify_marked _ _ _ (here index home) ?_
    intro entry _ apart
    rw [mem_keysAt, mem_keysAt, elsewhere entry.key apart]
  · rw [bucket_setBucket_of_ne _ _ same, bucket_marked, bucket_marked]
    unfold Bucket.marked
    refine congrArg Bucket.mk (List.map_congr_left fun entry _ => ?_)
    -- the key that changes belongs to another bucket
    have still : entry.key ∈ keysAt keys place ↔ entry.key ∈ keysAt other place := by
      rw [mem_keysAt, mem_keysAt]
      refine and_congr_left fun there => elsewhere entry.key ?_
      intro hit
      rw [hit, home] at there
      exact same (Option.some.inj there)
    unfold Entry.marked
    simp only [still]

/-- **Watching a key marks it.** -/
theorem edit_watch_marked {watcher : Watcher} {table : Table} (unknown : table.Unknown watcher.client)
    (keys : List String) (key : String) (placed : (bucketOf? key).isSome = true) :
    (table.marked watcher keys).edit (.watch key watcher) = table.marked watcher (key :: keys) := by
  refine edit_marked (.watch key watcher) placed (fun _ => rfl) (fun other apart => ?_)
    fun index home entry member named => ?_
  · rw [List.mem_cons]
    exact (or_iff_right apart).symm
  · refine Entry.add_marked (unknown_of_mem_bucket unknown member) ?_
    rw [mem_keysAt, named]
    exact ⟨List.mem_cons_self, home⟩

/-- **Unwatching a key takes its mark away.** -/
theorem edit_unwatch_marked {watcher : Watcher} {table : Table}
    (unknown : table.Unknown watcher.client) (keys : List String) (key : String)
    (placed : (bucketOf? key).isSome = true) :
    (table.marked watcher keys).edit (.unwatch key watcher.client)
      = table.marked watcher (keys.filter (· != key)) := by
  refine edit_marked (.unwatch key watcher.client) placed (fun _ => rfl) (fun other apart => ?_)
    fun index home entry member named => ?_
  · rw [List.mem_filter]
    exact (and_iff_left (bne_iff_ne.2 apart)).symm
  · refine Entry.remove_marked (unknown_of_mem_bucket unknown member) ?_
    rw [mem_keysAt, List.mem_filter, named]
    rintro ⟨⟨_, apart⟩, _⟩
    exact bne_iff_ne.1 apart rfl

/-- A key that is not stored has nothing to mark. -/
theorem marked_cons_of_absent (watcher : Watcher) (keys : List String) {table : Table} {key : String}
    (absent : table.find? key = none) :
    table.marked watcher (key :: keys) = table.marked watcher keys := by
  apply ext_bucket
  intro index
  rw [bucket_marked, bucket_marked]
  unfold Bucket.marked
  refine congrArg Bucket.mk (List.map_congr_left fun entry member => ?_)
  have still : entry.key ∈ keysAt (key :: keys) index ↔ entry.key ∈ keysAt keys index := by
    rw [mem_keysAt, mem_keysAt, List.mem_cons]
    refine and_congr_left fun home => or_iff_right ?_
    rintro rfl
    rw [find?_of_bucketOf? home] at absent
    have none := List.find?_eq_none.1 absent entry member
    simp at none
  unfold Entry.marked
  simp only [still]

end Table

/-! ## Stores -/

namespace Store

/-- A store with the marks of a watcher. -/
def marked (watcher : Watcher) (keys : List String) (store : Store) : Store :=
  ⟨store.settings, store.table.map (Table.marked watcher keys)⟩

/-- No entry is watched by a client. -/
def Unknown (client : ClientId) (store : Store) : Prop :=
  ∀ table, store.table = some table → table.Unknown client

variable (watcher : Watcher) {store : Store}

theorem marked_nil (store : Store) : store.marked watcher [] = store := by
  obtain ⟨settings, table?⟩ := store
  cases table? with
  | none => rfl
  | some table =>
    show (⟨settings, some (table.marked watcher [])⟩ : Store) = _
    rw [Table.marked_nil]

theorem marked_congr {keys other : List String}
    (same : ∀ key, key ∈ keys ↔ key ∈ other) (store : Store) :
    store.marked watcher keys = store.marked watcher other := by
  have tables : Table.marked watcher keys = Table.marked watcher other :=
    funext (Table.marked_congr watcher same)
  unfold marked
  rw [tables]

/-- **Marks hide no key.** -/
theorem finds_marked (keys : List String) (store : Store) (key : String) :
    (store.marked watcher keys).finds key = store.finds key := by
  obtain ⟨settings, table?⟩ := store
  unfold finds given marked
  cases settings.keyFault? key with
  | some fault => rfl
  | none =>
    cases table? with
    | none => rfl
    | some table =>
      refine congrArg Except.ok ?_
      show ((table.marked watcher keys).find? key).isSome = (table.find? key).isSome
      rw [Table.find?_marked, Option.isSome_map]

/-- **A client watches the stored keys with its mark.** -/
theorem isWatched_marked (unknown : store.Unknown watcher.client) (keys : List String)
    (key : String) :
    (store.marked watcher keys).isWatched key watcher.client
      = (store.finds key).map fun stored => stored && decide (key ∈ keys) := by
  obtain ⟨settings, table?⟩ := store
  rw [isWatched_eq, finds, given_map]
  unfold given marked
  cases settings.keyFault? key with
  | some fault => rfl
  | none =>
    cases table? with
    | none => rfl
    | some table =>
      refine congrArg Except.ok ?_
      show (watchersAt ((table.marked watcher keys).find? key)).has watcher.client
        = ((table.find? key).isSome && decide (key ∈ keys))
      rw [Table.find?_marked]
      cases here : table.find? key with
      | none => rfl
      | some entry =>
        have named := Table.key_of_find? here
        obtain ⟨index, -, inBucket⟩ := Option.bind_eq_some_iff.1 here
        have ours := Table.unknown_of_mem_bucket (unknown table rfl)
          (List.mem_of_find?_eq_some inBucket)
        refine (Entry.has_marked ours _).trans ?_
        rw [named]
        simp

theorem after_watch_marked (unknown : store.Unknown watcher.client) (keys : List String)
    (key : String) :
    (store.marked watcher keys).after (store.settings.keyFault? key) [.watch key watcher]
      = store.marked watcher (if store.finds key = .ok true then key :: keys else keys) := by
  obtain ⟨settings, table?⟩ := store
  unfold finds given
  cases refused : settings.keyFault? key with
  | some fault => rfl
  | none =>
    cases table? with
    | none => simp [marked, after]
    | some table =>
      have placed := Settings.placed_of_keyFault? refused
      have edited := Table.edit_watch_marked (unknown table rfl) keys key placed
      show (⟨settings, some ((table.marked watcher keys).edit (.watch key watcher))⟩ : Store) = _
      rw [edited]
      cases here : table.find? key with
      | none =>
        rw [Table.marked_cons_of_absent watcher keys here]
        simp [marked, here]
      | some entry => simp [marked, here]

theorem after_unwatch_marked (unknown : store.Unknown watcher.client) (keys : List String)
    (found : ∀ key ∈ keys, store.finds key = .ok true) (key : String) :
    (store.marked watcher keys).after (store.settings.keyFault? key)
        [.unwatch key watcher.client]
      = store.marked watcher (keys.filter (· != key)) := by
  obtain ⟨settings, table?⟩ := store
  show Store.after _ (settings.keyFault? key) _ = _
  cases refused : settings.keyFault? key with
  | some fault =>
    -- a key that is refused was not found, so it has no mark
    have absent : key ∉ keys := by
      intro member
      have admitted := ((given_eq_ok_iff _ _ _).1 (found key member)).1
      rw [refused] at admitted
      cases admitted
    rw [List.filter_bne_eq_self_of_not_mem absent]
    simp [after]
  | none =>
    cases table? with
    | none => simp [marked, after]
    | some table =>
      have placed := Settings.placed_of_keyFault? refused
      have edited := Table.edit_unwatch_marked (unknown table rfl) keys key placed
      show (⟨settings, some ((table.marked watcher keys).edit
        (.unwatch key watcher.client))⟩ : Store) = _
      rw [edited]
      rfl

end Store

end KeyWatch
