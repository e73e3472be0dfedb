/-
# Proofs.Locks -- what is planned is held

A plan lists the buckets of its keys in strictly ascending order (`pairwise_inOrder`,
`mem_inOrder`), which is what the search in a held set rests on. So an operation finds every bucket
that its own keys belong to (`covers_ofKeys`): whatever it does for a bucket that is not held, it
never does.
-/
import KeyWatch.Proofs.Ordered
import KeyWatch.Table.Locks

namespace KeyWatch

set_option autoImplicit false

theorem bucketOf_eq_ok_iff (key : String) (index : BucketIndex) :
    bucketOf key = .ok index ↔ bucketOf? key = some index := by
  unfold bucketOf
  split
  · next found => simp [found]
  · next missing => simp [missing]

/-- Places are looked up key by key, and the first key that has none is refused. -/
theorem mapM_bucketOf_eq (keys : List String) :
    keys.mapM bucketOf
      = match keys.find? fun key => (bucketOf? key).isNone with
        | some key => .error (.invalidKey key)
        | none => .ok (keys.filterMap bucketOf?) := by
  induction keys with
  | nil => rfl
  | cons key rest ih =>
    rw [List.mapM_cons, ih, List.find?_cons, List.filterMap_cons]
    generalize rest.find? (fun key => (bucketOf? key).isNone) = later
    unfold bucketOf
    cases bucketOf? key with
    | none => rfl
    | some index => cases later <;> rfl

theorem mapM_bucketOf (keys : List String)
    (placed : ∀ key ∈ keys, (bucketOf? key).isSome = true) :
    keys.mapM bucketOf = .ok (keys.filterMap bucketOf?) := by
  have everywhere : keys.find? (fun key => (bucketOf? key).isNone) = none :=
    List.find?_eq_none.2 fun key member => by
      simpa [Option.isSome_iff_ne_none] using placed key member
  rw [mapM_bucketOf_eq, everywhere]

theorem placed_of_mapM_bucketOf (keys : List String) (indices : List BucketIndex)
    (planned : keys.mapM bucketOf = .ok indices) : ∀ key ∈ keys, (bucketOf? key).isSome = true := by
  intro key member
  rw [mapM_bucketOf_eq] at planned
  cases homeless : keys.find? fun key => (bucketOf? key).isNone with
  | some key =>
    rw [homeless] at planned
    cases planned
  | none => simpa [Option.isSome_iff_ne_none] using List.find?_eq_none.1 homeless key member

namespace Locks

theorem mem_inOrder (indices : List BucketIndex) (index : BucketIndex) :
    index ∈ inOrder indices ↔ index ∈ indices := by
  have runs := Ordered.mem_map_lastOfRuns id
    (indices.mergeSort fun first second => decide (first ≤ second)) index
  rw [inOrder]
  simpa only [List.map_id, List.mem_mergeSort] using runs

/-- **A plan ascends strictly.** -/
theorem pairwise_inOrder (indices : List BucketIndex) :
    (inOrder indices).Pairwise (· < ·) := by
  exact Ordered.pairwise_lastOfRuns id _ (Ordered.pairwise_mergeSort_key id indices)

end Locks

namespace Held

/-- The bucket at a place is found, and it is the one of that place. -/
def Holds (held : Held) (index : BucketIndex) : Prop :=
  ∃ slot, held.slot? index = some slot ∧ held.indices[slot.val]? = some index

/-- The bucket of each key is found. -/
def Covers (held : Held) (keys : List String) : Prop :=
  ∀ key ∈ keys, ∃ index, bucketOf key = .ok index ∧ held.Holds index

theorem holds_of_mem (held : Held) (ascending : held.indices.toList.Pairwise (· < ·))
    (index : BucketIndex) (member : index ∈ held.indices) : held.Holds index := by
  obtain ⟨place, inside, here⟩ := Array.mem_iff_getElem.1 member
  have increasing : ∀ first second : Fin held.indices.size, first < second →
      Fin.val held.indices[first] < Fin.val held.indices[second] := by
    intro first second before
    have := List.pairwise_iff_getElem.1 ascending first second (by simp) (by simp) before
    simpa using this
  have found := Ordered.search?_complete Fin.val held.indices ⟨place, inside⟩ increasing
  simp only [Fin.getElem_fin] at found
  refine ⟨⟨place, inside⟩, ?_, Array.getElem?_eq_some_iff.2 ⟨inside, here⟩⟩
  rw [slot?, ← here]
  exact found

theorem bucket?_of_holds {held : Held} {index : BucketIndex} (holds : held.Holds index)
    (table : Table) : held.bucket? table index = some (table.bucket index) := by
  obtain ⟨slot, found, place⟩ := holds
  obtain ⟨_, here⟩ := Array.getElem?_eq_some_iff.1 place
  rw [bucket?, found, Option.map_some]
  exact congrArg (fun index => some (table.bucket index)) here

theorem update?_of_holds {α : Type} {held : Held} {index : BucketIndex} (holds : held.Holds index)
    (writing : held.mode = .write) (table : Table) (change : Bucket → Update Bucket α) :
    held.update? table index change = some (table.updateAt index change) := by
  obtain ⟨slot, found, place⟩ := holds
  obtain ⟨_, here⟩ := Array.getElem?_eq_some_iff.1 place
  rw [update?, writing]
  simp only [found, Option.map_some]
  exact congrArg (fun index => some (table.updateAt index change)) here

theorem ofIndices_val (indices : List BucketIndex) (mode : Access) :
    ofIndices (indices.map Fin.val) mode = ⟨mode, (Locks.inOrder indices).toArray⟩ := by
  have known : (indices.map Fin.val).filterMap (fun index =>
      if inside : index < bucketCount then some (⟨index, inside⟩ : BucketIndex) else none)
        = indices := by
    rw [List.filterMap_map]
    refine (List.filterMap_congr fun index _ => ?_).trans List.filterMap_some
    simp
  rw [ofIndices]
  simp only [known]

/-- **What is planned is held.** Keys that have buckets get a set that finds each of them. -/
theorem covers_ofKeys (keys : List String) (mode : Access)
    (placed : ∀ key ∈ keys, (bucketOf? key).isSome = true) :
    ∃ held, ofKeys keys mode = .ok held ∧ held.mode = mode ∧ held.Covers keys := by
  refine ⟨ofIndices ((Locks.inOrder (keys.filterMap bucketOf?)).map Fin.val) mode, ?_, rfl, ?_⟩
  · rw [ofKeys, Locks.plan, mapM_bucketOf keys placed]
    rfl
  · intro key member
    obtain ⟨index, home⟩ := Option.isSome_iff_exists.1 (placed key member)
    refine ⟨index, (bucketOf_eq_ok_iff key index).2 home, ?_⟩
    rw [ofIndices_val]
    refine holds_of_mem _ (Locks.pairwise_inOrder _) _ ?_
    simp only [List.mem_toArray, Locks.mem_inOrder, List.mem_filterMap]
    exact ⟨key, member, home⟩

/-- A set that was planned for keys finds the bucket of each of them. -/
theorem covers_of_ofKeys {keys : List String} {mode : Access} {held : Held}
    (planned : ofKeys keys mode = .ok held) : held.mode = mode ∧ held.Covers keys := by
  have placed : ∀ key ∈ keys, (bucketOf? key).isSome = true := by
    unfold ofKeys Locks.plan at planned
    cases places : keys.mapM bucketOf with
    | error error => rw [places] at planned; cases planned
    | ok indices => exact placed_of_mapM_bucketOf keys indices places
  obtain ⟨held', taken, writing, covers⟩ := covers_ofKeys keys mode placed
  rw [planned] at taken
  cases taken
  exact ⟨writing, covers⟩

end Held

end KeyWatch
