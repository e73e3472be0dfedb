/-
# Proofs.Listing -- the order in which entries are listed

A chronicle keeps of a run what the order of a listing depends on: the keys with their values, and
of each stored key the moment at which its present entry was made. Writing a stored key changes no
moment; a key that comes back after a deletion is a new one; the new keys of a batch are made in
ascending order. `Chronicle.Lists` is the law: every stored key once, by the place of its bucket, and
within a bucket by the moment of its entry. There is one such list (`Lists.unique`).

A bucket knows nothing of moments. It agrees with a chronicle when its keys stand in the order of
their moments and all of these are past (`Tells`); so a key that is put at the end belongs there.
One edit keeps this up (`Tells.edit`), and so does a run (`Service.told_advanceAll`).
-/
import KeyWatch.Proofs.Entries

namespace KeyWatch

set_option autoImplicit false

/-! ## Runs -/

namespace Service

/-- Write one of the running backups to its file. -/
def finishBackupAt (service : Service) (index : Nat) : Service :=
  match service.backups.running[index]? with
  | none => service
  | some worker =>
    { service with
      files := service.files.write worker.destination (Text.utf8 worker.snapshot.text)
      backups := service.backups.finish index }

/-- An event, or the end of a backup; backups end in any order. -/
inductive Step where
  | event (event : Event)
  | backupEnds (index : Nat)

/-- The service after a step. -/
def advance (service : Service) : Step → Service
  | .event event => service.undergo event
  | .backupEnds index => service.finishBackupAt index

/-- The service after steps in order. -/
def advanceAll (service : Service) (steps : List Step) : Service := steps.foldl advance service

variable (service : Service)

theorem finishBackup_eq : service.finishBackup = service.finishBackupAt 0 := by
  unfold finishBackup finishBackupAt
  cases service.backups.running <;> rfl

theorem finishBackupAt_store (index : Nat) :
    (service.finishBackupAt index).store = service.store := by
  unfold finishBackupAt
  split <;> rfl

theorem settings_advance (step : Step) :
    (service.advance step).store.settings = service.store.settings := by
  cases step with
  | event event => exact service.settings_undergo event
  | backupEnds index => exact congrArg Store.settings (service.finishBackupAt_store index)

end Service

/-! ## Chronicles -/

/-- What is stored, and since when. -/
structure Chronicle where
  contents : Contents := ∅
  /-- The moment at which the present entry of a stored key was made. -/
  born : String → Nat := fun _ => 0
  /-- The moment that comes next. -/
  clock : Nat := 0

namespace Chronicle

variable (chronicle : Chronicle)

/-- Write a key. It keeps its moment if it is stored, and else is made at this one. -/
def put (key value : String) : Chronicle :=
  if key ∈ chronicle.contents then
    { chronicle with contents := chronicle.contents.insert key value }
  else
    { contents := chronicle.contents.insert key value
      born := Function.update chronicle.born key chronicle.clock
      clock := chronicle.clock + 1 }

/-- Remove a key. -/
def delete (key : String) : Chronicle :=
  { chronicle with contents := chronicle.contents.erase key }

/-- Write the keys of a batch, each once, in the order of bytes and with its last value. -/
def write (pairs : List (String × String)) : Chronicle :=
  (Ordered.byBytes (pairs.map Prod.fst).dedup).foldl
    (fun chronicle key => chronicle.put key ((Contents.lastValue? pairs key).getD "")) chronicle

/-- Remove the keys of a batch. -/
def deleteAll (keys : List String) : Chronicle :=
  (Ordered.byBytes keys.dedup).foldl delete chronicle

/-- The chronicle after an operation; there is one while there is a table. -/
def next (settings : Settings) (chronicle? : Option Chronicle) : Operation → Option Chronicle
  | .init => some (chronicle?.getD {})
  | .terminate => none
  | .put key value =>
    if settings.pairsFault? [(key, value)] = none then chronicle?.map (·.put key value)
    else chronicle?
  | .write pairs =>
    if settings.pairsFault? pairs = none then chronicle?.map (·.write pairs) else chronicle?
  | .erase key =>
    if settings.keyFault? key = none then chronicle?.map (·.delete key) else chronicle?
  | .delete keys _ =>
    if settings.keysFault? keys = none then chronicle?.map (·.deleteAll keys) else chronicle?
  | _ => chronicle?

/-- The chronicle after a step: nothing but an operation is recorded. -/
def record (settings : Settings) (chronicle? : Option Chronicle) :
    Service.Step → Option Chronicle
  | .event (.action (.perform operation)) => next settings chronicle? operation
  | _ => chronicle?

/-- The chronicle of a run. -/
def ofRun (settings : Settings) (chronicle? : Option Chronicle) (steps : List Service.Step) :
    Option Chronicle :=
  steps.foldl (record settings) chronicle?

/-! ## The order of a listing -/

/-- The bucket of the first key comes before that of the second, or it is the same bucket and the
entry of the first key was made before. -/
def Precedes (first second : String) : Prop :=
  ∃ place ∈ bucketOf? first, ∃ other ∈ bucketOf? second,
    place < other ∨ place = other ∧ chronicle.born first < chronicle.born second

/-- **The law of a listing:** the stored keys and no others, one before the other. -/
structure Lists (keys : List String) : Prop where
  stored : ∀ key, key ∈ keys ↔ key ∈ chronicle.contents
  ordered : keys.Pairwise chronicle.Precedes

/-- Keys with their values. -/
def pairs (keys : List String) : List (String × String) :=
  keys.map fun key => (key, (chronicle.contents.lookup key).getD "")

/-- One line for each key. -/
def text (keys : List String) : String :=
  String.join ((chronicle.pairs keys).map fun pair => "(" ++ pair.1 ++ ", " ++ pair.2 ++ ")\n")

variable {chronicle : Chronicle}

theorem Precedes.asymm {first second : String} (before : chronicle.Precedes first second) :
    ¬ chronicle.Precedes second first := by
  obtain ⟨place, here, other, there, before⟩ := before
  rintro ⟨other', there', place', here', behind⟩
  cases Option.mem_unique here here'
  cases Option.mem_unique there there'
  rcases before with less | ⟨rfl, earlier⟩ <;> rcases behind with more | ⟨same, later⟩
  · exact absurd more (not_lt_of_gt less)
  · exact absurd same (ne_of_gt less)
  · exact absurd more (lt_irrefl _)
  · exact absurd later (not_lt_of_gt earlier)

theorem Lists.nodup {keys : List String} (lists : chronicle.Lists keys) : keys.Nodup :=
  lists.ordered.imp fun {first second} before same => by
    subst same
    exact before.asymm before

/-- **There is one listing.** -/
theorem Lists.unique {keys others : List String} (lists : chronicle.Lists keys)
    (also : chronicle.Lists others) : keys = others := by
  have perm : keys.Perm others := (List.perm_ext_iff_of_nodup lists.nodup also.nodup).2 fun key =>
    (lists.stored key).trans (also.stored key).symm
  exact perm.eq_of_pairwise (fun _ _ _ _ before behind => absurd behind before.asymm)
    lists.ordered also.ordered

/-! ## Edits -/

/-- The chronicle after an edit; watching is not recorded. -/
def edit (chronicle : Chronicle) : Edit → Chronicle
  | .put key value => chronicle.put key value
  | .delete key => chronicle.delete key
  | .watch _ _ => chronicle
  | .unwatch _ _ => chronicle

/-- The chronicle after what becomes of the table. -/
def after (chronicle? : Option Chronicle) : Effect → Option Chronicle
  | .make => some (chronicle?.getD {})
  | .drop => none
  | .edit fault? edits =>
    if fault? = none then chronicle?.map (edits.foldl edit) else chronicle?
  | .keep => chronicle?

/-- What is recorded of an action is its effect. -/
theorem record_action (settings : Settings) (chronicle? : Option Chronicle) (action : Action) :
    record settings chronicle? (.event (.action action))
      = after chronicle? (action.effect settings) := by
  have watching : ∀ (fault? : Option Error) (edit : Edit),
      (∀ chronicle : Chronicle, chronicle.edit edit = chronicle) →
      chronicle? = after chronicle? (.edit fault? [edit]) := by
    intro fault? edit still
    show chronicle? = if fault? = none then chronicle?.map fun old => old.edit edit else chronicle?
    simp only [still, Option.map_id', ite_self]
  cases action with
  | perform operation =>
    cases operation with
    | put key value =>
      simp only [record, next, Action.effect, after, puts_singleton]
      rfl
    | write pairs =>
      simp only [record, next, Action.effect, after, puts_eq, List.foldl_map]
      rfl
    | delete keys sink =>
      simp only [record, next, Action.effect, after, deletes_eq, List.foldl_map]
      rfl
    | _ => rfl
  | watch key watcher => exact watching _ _ fun _ => rfl
  | unwatch key client => exact watching _ _ fun _ => rfl
  | _ => rfl

/-! ## Tables that agree with a chronicle -/

/-- A table holds what the chronicle says, and each of its buckets stands in the order of moments,
which are past. -/
structure Tells (chronicle : Chronicle) (table : Table) : Prop where
  holds : table.Holds chronicle.contents
  ordered : ∀ index, (table.bucket index).keys.Pairwise fun first second =>
    chronicle.born first < chronicle.born second
  past : ∀ key ∈ chronicle.contents, chronicle.born key < chronicle.clock

theorem tells_empty : ({} : Chronicle).Tells {} where
  holds := Table.holds_empty
  ordered := by
    intro index
    rw [Table.bucket_empty]
    exact List.Pairwise.nil
  past := by
    intro key stored
    exact absurd stored (Finmap.notMem_empty)

variable {table : Table}

/-- The keys of a bucket are the stored keys that belong there. -/
theorem Tells.mem_keys_iff (tells : chronicle.Tells table) (key : String) (index : BucketIndex) :
    key ∈ (table.bucket index).keys ↔ bucketOf? key = some index ∧ key ∈ chronicle.contents := by
  rw [← Finmap.lookup_isSome, tells.holds.lookup, Option.isSome_map, Bucket.mem_keys_iff]
  constructor
  · intro found
    have home := tells.holds.sound.placed index key ((Bucket.mem_keys_iff _ _).2 found)
    exact ⟨home, by rw [Table.find?_of_bucketOf? home]; exact found⟩
  · rintro ⟨home, found⟩
    rw [Table.find?_of_bucketOf? home] at found
    exact found

/-- Writing a stored key changes no moment, and no place in a bucket. -/
theorem Tells.put_stored (tells : chronicle.Tells table) {key : String} (value : String)
    {home : BucketIndex} (placed : bucketOf? key = some home) (stored : key ∈ chronicle.contents) :
    (chronicle.put key value).Tells (table.edit (.put key value)) := by
  have holds := Table.holds_edit tells.holds (.put key value) (by simp [Edit.key, placed])
  have there : key ∈ (table.bucket home).keys := (tells.mem_keys_iff _ _).2 ⟨placed, stored⟩
  rw [put, if_pos stored]
  refine ⟨holds, fun index => ?_, fun other member => ?_⟩
  · rw [Table.keys_bucket_edit _ (.put key value) placed, Edit.onBucket, Bucket.keys_put, if_pos there]
    split
    · next same => exact same ▸ tells.ordered home
    · exact tells.ordered index
  · rcases Finmap.mem_insert.1 member with rfl | old
    · exact tells.past _ stored
    · exact tells.past other old

/-- A new key is made now, after all others, and stands at the end of its bucket. -/
theorem Tells.put_new (tells : chronicle.Tells table) {key : String} (value : String)
    {home : BucketIndex} (placed : bucketOf? key = some home) (absent : key ∉ chronicle.contents) :
    (chronicle.put key value).Tells (table.edit (.put key value)) := by
  have holds := Table.holds_edit tells.holds (.put key value) (by simp [Edit.key, placed])
  have keeps : ∀ other ∈ chronicle.contents,
      Function.update chronicle.born key chronicle.clock other = chronicle.born other := by
    intro other stored
    refine Function.update_of_ne ?_ _ _
    rintro rfl
    exact absent stored
  -- what stood in a bucket before was made before, and keeps its moment
  have before : ∀ index, (table.bucket index).keys.Pairwise fun first second =>
      Function.update chronicle.born key chronicle.clock first
        < Function.update chronicle.born key chronicle.clock second := by
    intro index
    refine (tells.ordered index).imp_of_mem fun {first second} here there earlier => ?_
    rw [keeps first ((tells.mem_keys_iff _ _).1 here).2,
      keeps second ((tells.mem_keys_iff _ _).1 there).2]
    exact earlier
  have new : key ∉ (table.bucket home).keys := fun there =>
    absent ((tells.mem_keys_iff _ _).1 there).2
  rw [put, if_neg absent]
  refine ⟨holds, fun index => ?_, fun other member => ?_⟩
  · rw [Table.keys_bucket_edit _ (.put key value) placed, Edit.onBucket, Bucket.keys_put, if_neg new]
    split
    · refine List.pairwise_append.2 ⟨before home, List.pairwise_singleton _ _, ?_⟩
      intro other there last only
      have stored := ((tells.mem_keys_iff _ _).1 there).2
      rw [List.mem_singleton.1 only]
      calc Function.update chronicle.born key chronicle.clock other
          = chronicle.born other := keeps other stored
        _ < chronicle.clock := tells.past other stored
        _ = Function.update chronicle.born key chronicle.clock key := by rw [Function.update_self]
    · exact before index
  · show Function.update chronicle.born key chronicle.clock other < chronicle.clock + 1
    rcases Finmap.mem_insert.1 member with rfl | old
    · rw [Function.update_self]
      exact Nat.lt_succ_self _
    · rw [keeps other old]
      exact Nat.lt_succ_of_lt (tells.past other old)

theorem Tells.delete (tells : chronicle.Tells table) {key : String} {home : BucketIndex}
    (placed : bucketOf? key = some home) :
    (chronicle.delete key).Tells (table.edit (.delete key)) := by
  have holds := Table.holds_edit tells.holds (.delete key) (by simp [Edit.key, placed])
  refine ⟨holds, fun index => ?_, fun other member => ?_⟩
  · rw [Table.keys_bucket_edit _ (.delete key) placed, Edit.onBucket, Bucket.keys_delete]
    split
    · exact (tells.ordered home).filter _
    · exact tells.ordered index
  · exact tells.past other (Finmap.mem_erase.1 member).2

/-- Watching leaves keys, values and places as they are. -/
theorem Tells.watching (tells : chronicle.Tells table) {edit : Edit} {home : BucketIndex}
    (placed : bucketOf? edit.key = some home)
    (same : ∀ contents : Contents, contents.edit edit = contents)
    (still : ∀ bucket : Bucket, (edit.onBucket bucket).keys = bucket.keys) :
    chronicle.Tells (table.edit edit) := by
  have holds := Table.holds_edit tells.holds edit (by simp [placed])
  rw [same] at holds
  refine ⟨holds, fun index => ?_, tells.past⟩
  rw [Table.keys_bucket_edit _ _ placed, still]
  split
  · next same => exact same ▸ tells.ordered home
  · exact tells.ordered index

/-- **Every edit is told by the chronicle.** -/
theorem Tells.edit (tells : chronicle.Tells table) (edit : Edit)
    (placed : (bucketOf? edit.key).isSome = true) :
    (chronicle.edit edit).Tells (table.edit edit) := by
  obtain ⟨home, placed⟩ := Option.isSome_iff_exists.1 placed
  cases edit with
  | put key value =>
    by_cases stored : key ∈ chronicle.contents
    · exact tells.put_stored value placed stored
    · exact tells.put_new value placed stored
  | delete key => exact tells.delete placed
  | watch key watcher =>
    exact tells.watching placed (fun _ => rfl) fun _ => Bucket.keys_modify _ _ _ fun _ => rfl
  | unwatch key client =>
    exact tells.watching placed (fun _ => rfl) fun _ => Bucket.keys_modify _ _ _ fun _ => rfl

theorem Tells.edits (tells : chronicle.Tells table) (edits : List Edit)
    (placed : ∀ edit ∈ edits, (bucketOf? edit.key).isSome = true) :
    (edits.foldl Chronicle.edit chronicle).Tells (edits.foldl Table.edit table) := by
  induction edits generalizing chronicle table with
  | nil => exact tells
  | cons edit rest ih =>
    exact ih (tells.edit edit (placed edit (by simp))) fun other member =>
      placed other (List.mem_cons_of_mem _ member)

/-! ## What is listed -/

/-- A table that agrees with a chronicle lists what the chronicle says, in its order. -/
theorem Tells.lists (tells : chronicle.Tells table) :
    chronicle.Lists (table.entries.map (·.key)) where
  stored := by
    intro key
    rw [Table.entries_eq, List.map_flatMap, List.mem_flatMap]
    constructor
    · rintro ⟨index, -, there⟩
      exact ((tells.mem_keys_iff key index).1 there).2
    · intro stored
      have found : (table.find? key).isSome = true := by
        rw [← Option.isSome_map (f := (·.value)), ← tells.holds.lookup, Finmap.lookup_isSome]
        exact stored
      obtain ⟨index, home, -⟩ := Option.bind_eq_some_iff.1 (Option.some_get found).symm
      exact ⟨index, List.mem_finRange _, (tells.mem_keys_iff key index).2 ⟨home, stored⟩⟩
  ordered := by
    rw [Table.entries_eq, List.map_flatMap, List.pairwise_flatMap]
    have placed := tells.holds.sound.placed
    constructor
    · intro index _
      refine (tells.ordered index).imp_of_mem fun {first second} here there earlier => ?_
      exact ⟨index, placed index first here, index, placed index second there,
        .inr ⟨rfl, earlier⟩⟩
    · refine (List.pairwise_lt_finRange bucketCount).imp fun {place other} less => ?_
      intro first here second there
      exact ⟨place, placed place first here, other, placed other second there, .inl less⟩

theorem Tells.pairs_eq (tells : chronicle.Tells table) :
    chronicle.pairs (table.entries.map (·.key))
      = table.entries.map fun entry => (entry.key, entry.value) := by
  rw [pairs, List.map_map]
  apply List.map_congr_left
  intro entry member
  have found := (Table.mem_entries_iff tells.holds.sound entry).1 member
  simp only [Function.comp_apply, tells.holds.lookup, found, Option.map_some, Option.getD_some]

end Chronicle

namespace Store

/-- There is a chronicle that a store agrees with, or neither chronicle nor table. -/
def Told (store : Store) (chronicle? : Option Chronicle) : Prop :=
  Option.Rel Chronicle.Tells chronicle? store.table

variable {store : Store} {chronicle? : Option Chronicle}

theorem told_onStore (told : store.Told chronicle?) (effect : Effect)
    (admitted : effect.Admitted store.settings) :
    (effect.onStore store).Told (Chronicle.after chronicle? effect) := by
  obtain ⟨settings, table?⟩ := store
  cases effect with
  | make =>
    cases told with
    | none => exact Option.Rel.some Chronicle.tells_empty
    | some tells => exact Option.Rel.some tells
  | drop => exact Option.Rel.none
  | edit fault? edits =>
    cases fault? with
    | some fault => exact told
    | none =>
      cases told with
      | none => exact Option.Rel.none
      | some tells =>
        exact Option.Rel.some <| tells.edits edits fun edit member =>
          Settings.placed_of_keyFault? (admitted rfl edit member)
  | keep => exact told

/-- A store that was just made agrees with the chronicle that was just begun. -/
theorem told_of_begins (begins : store.table = none ∨ store.table = some {}) :
    store.Told (store.table.map fun _ => {}) := by
  unfold Told
  rcases begins with fresh | empty
  · rw [fresh]
    exact Option.Rel.none
  · rw [empty]
    exact Option.Rel.some Chronicle.tells_empty

end Store

namespace Service

variable {service : Service} {chronicle? : Option Chronicle}

theorem told_advance (told : service.store.Told chronicle?) (step : Step) :
    (service.advance step).store.Told
      (Chronicle.record service.store.settings chronicle? step) := by
  cases step with
  | event event =>
    cases event with
    | action action =>
      show (service.act action).store.Told _
      rw [(service.act_effect action).1, Chronicle.record_action]
      exact Store.told_onStore told _ (action.admitted_effect _)
    | _ => exact told
  | backupEnds index =>
    show (service.finishBackupAt index).store.Told chronicle?
    rw [service.finishBackupAt_store]
    exact told

/-- **A run stays beside its chronicle.** -/
theorem told_advanceAll (told : service.store.Told chronicle?) (steps : List Step) :
    (service.advanceAll steps).store.Told
      (Chronicle.ofRun service.store.settings chronicle? steps) := by
  induction steps generalizing service chronicle? with
  | nil => exact told
  | cons step rest ih =>
    have onward := ih (told_advance told step)
    rw [service.settings_advance] at onward
    exact onward

end Service

end KeyWatch
