/-
# Proofs.Holding -- what is held is found, and nothing else is touched

A held set has the places that it was asked for, as far as there are such buckets, each once and in
ascending order (`mem_places_ofIndices`, `pairwise_places_ofIndices`). The search in it rests on this
order: a place that is held is found in its own slot, and one that is not is not found
(`bucket?_of_mem`, `slot?_of_not_mem`).

A `Hold` is a held set together with the table that it is of. Its holder changes buckets and lets go
of them, in any order and with any places (`Deed`). One deed changes at most the bucket that it names
(`bucket_act`); so after a run of deeds each bucket has gone through the changes of its own place
that came before the first release, and through no others (`bucket_run`).
-/
import KeyWatch.Proofs.Locks

namespace KeyWatch

set_option autoImplicit false

/-! ## Plans -/

namespace Locks

theorem plan_of_find?_eq_some {keys : List String} {key : String}
    (homeless : keys.find? (fun key => (bucketOf? key).isNone) = some key) :
    plan keys = .error (.invalidKey key) := by
  rw [plan, mapM_bucketOf_eq, homeless]
  rfl

theorem plan_of_find?_eq_none {keys : List String}
    (placed : keys.find? (fun key => (bucketOf? key).isNone) = none) :
    plan keys = .ok (inOrder (keys.filterMap bucketOf?)) := by
  rw [plan, mapM_bucketOf_eq, placed]
  rfl

end Locks

namespace Held

/-! ## What is held -/

/-- The held places, as numbers, in the order in which they were taken. -/
def places (held : Held) : List Nat := held.indices.toList.map Fin.val

theorem mem_places_iff (held : Held) (place : Nat) :
    place ∈ held.places ↔ ∃ index ∈ held.indices, index.val = place := by
  simp only [places, List.mem_map, Array.mem_toList_iff]

theorem val_mem_places_iff (held : Held) (index : BucketIndex) :
    index.val ∈ held.places ↔ index ∈ held.indices := by
  simp [mem_places_iff, Fin.val_inj]

@[simp] theorem places_release (held : Held) : held.release.places = [] := rfl

/-- A set that was let go of holds nothing, and letting go again changes nothing. -/
theorem release_spec (held : Held) :
    held.release.places = [] ∧ held.release.isReleased = true
      ∧ held.release.release = held.release :=
  ⟨rfl, rfl, rfl⟩

/-- **What is asked for is held,** if there is such a bucket. -/
theorem mem_places_ofIndices (indices : List Nat) (mode : Access) (place : Nat) :
    place ∈ (ofIndices indices mode).places ↔ place ∈ indices ∧ place < bucketCount := by
  simp only [mem_places_iff, ofIndices, List.mem_toArray, Locks.mem_inOrder, List.mem_filterMap,
    Option.dite_none_right_eq_some, Option.some.injEq]
  constructor
  · rintro ⟨index, ⟨asked, member, inside, rfl⟩, rfl⟩
    exact ⟨member, inside⟩
  · rintro ⟨member, inside⟩
    exact ⟨⟨place, inside⟩, ⟨place, member, inside, rfl⟩, rfl⟩

/-- **Places are held in strictly ascending order,** in whatever order they were asked for. -/
theorem pairwise_places_ofIndices (indices : List Nat) (mode : Access) :
    (ofIndices indices mode).places.Pairwise (· < ·) := by
  rw [places, List.pairwise_map]
  exact Locks.pairwise_inOrder _

/-! ## Finding what is held -/

section Search

variable {held : Held}

theorem holds_of_mem_places (ascending : held.places.Pairwise (· < ·)) {index : BucketIndex}
    (member : index.val ∈ held.places) : held.Holds index := by
  rw [places, List.pairwise_map] at ascending
  exact holds_of_mem held ascending index ((val_mem_places_iff held index).1 member)

/-- What is not held is not found. -/
theorem slot?_of_not_mem {place : Nat} (absent : place ∉ held.places) : held.slot? place = none := by
  cases found : held.slot? place with
  | none => rfl
  | some slot =>
    refine absurd ((mem_places_iff held place).2 ?_) absent
    exact ⟨held.indices[slot], Array.getElem_mem slot.isLt,
      Ordered.search?_sound Fin.val held.indices place slot found⟩

theorem bucket?_of_mem (ascending : held.places.Pairwise (· < ·)) (table : Table)
    {index : BucketIndex} (member : index.val ∈ held.places) :
    held.bucket? table index = some (table.bucket index) :=
  bucket?_of_holds (holds_of_mem_places ascending member) table

theorem bucket?_of_not_mem (table : Table) {place : Nat} (absent : place ∉ held.places) :
    held.bucket? table place = none := by
  rw [bucket?, slot?_of_not_mem absent]
  rfl

variable {α : Type} (table : Table) (change : Bucket → Update Bucket α)

theorem update?_of_mem (ascending : held.places.Pairwise (· < ·)) (writing : held.mode = .write)
    {index : BucketIndex} (member : index.val ∈ held.places) :
    held.update? table index change = some (table.updateAt index change) :=
  update?_of_holds (holds_of_mem_places ascending member) writing table change

theorem update?_of_not_mem {place : Nat} (absent : place ∉ held.places) :
    held.update? table place change = none := by
  unfold update?
  rw [slot?_of_not_mem absent]
  cases held.mode <;> rfl

theorem update?_of_reading (reading : held.mode = .read) (place : Nat) :
    held.update? table place change = none := by
  rw [update?, reading]

/-- **A bucket can be changed exactly if it is held for writing.** -/
theorem isSome_update?_iff (ascending : held.places.Pairwise (· < ·)) (place : Nat) :
    (held.update? table place change).isSome = true ↔ place ∈ held.places ∧ held.mode = .write := by
  cases mode : held.mode with
  | read =>
    rw [update?_of_reading table change mode]
    simp
  | write =>
    by_cases member : place ∈ held.places
    · obtain ⟨index, -, rfl⟩ := (mem_places_iff held place).1 member
      rw [update?_of_mem table change ascending mode member]
      simp [member]
    · rw [update?_of_not_mem table change member]
      simp [member]

end Search

end Held

/-! ## Working on what is held -/

/-- What the holder of buckets does: change the bucket at a place, or let go of everything. -/
inductive Deed : Type 1 where
  | change {α : Type} (place : Nat) (edit : Bucket → Update Bucket α)
  | release

namespace Deed

def isRelease : Deed → Bool
  | change .. => false
  | release => true

/-- What the deed would make of the bucket at a place, if it is a change of that one. -/
def on? (place : Nat) : Deed → Option (Bucket → Bucket)
  | change other edit => if other = place then some fun bucket => (edit bucket).state else none
  | release => none

/-- The changes of the bucket at a place that come before the first release, in order. -/
def changesOf (place : Nat) (deeds : List Deed) : List (Bucket → Bucket) :=
  (deeds.takeWhile fun deed => !deed.isRelease).filterMap (on? place)

/-- A bucket after changes, the first one first. -/
def applied (changes : List (Bucket → Bucket)) (bucket : Bucket) : Bucket :=
  changes.foldl (fun bucket change => change bucket) bucket

end Deed

/-- A held set and the table that it is of. -/
structure Hold where
  held : Held
  table : Table

namespace Hold

/-- Do a deed. A change of what is not held for writing does not come about. -/
def act (hold : Hold) : Deed → Hold
  | .change place edit =>
    match hold.held.update? hold.table place edit with
    | some update => { hold with table := update.state }
    | none => hold
  | .release => { hold with held := hold.held.release }

/-- Do deeds in order. -/
def run (hold : Hold) (deeds : List Deed) : Hold := deeds.foldl act hold

variable {hold : Hold}

/-- The places that are held, once a deed was done. -/
theorem places_act (deed : Deed) :
    (hold.act deed).held.places = if deed.isRelease = true then [] else hold.held.places := by
  cases deed with
  | release => rfl
  | change place edit =>
    unfold act
    dsimp only
    cases hold.held.update? hold.table place edit <;> rfl

theorem mode_act (deed : Deed) : (hold.act deed).held.mode = hold.held.mode := by
  cases deed with
  | release => rfl
  | change place edit =>
    unfold act
    dsimp only
    cases hold.held.update? hold.table place edit <;> rfl

/-- **A deed changes the bucket that it names,** if this is held for writing, and no other. -/
theorem bucket_act (ascending : hold.held.places.Pairwise (· < ·)) (deed : Deed)
    (index : BucketIndex) :
    (hold.act deed).table.bucket index
      = if hold.held.mode = .write ∧ index.val ∈ hold.held.places then
          Deed.applied (deed.on? index).toList (hold.table.bucket index)
        else hold.table.bucket index := by
  cases deed with
  | release => exact (ite_self _).symm
  | change place edit =>
    unfold act
    dsimp only
    by_cases free : hold.held.mode = .write ∧ place ∈ hold.held.places
    · obtain ⟨writing, member⟩ := free
      obtain ⟨named, -, rfl⟩ := (Held.mem_places_iff _ _).1 member
      rw [Held.update?_of_mem hold.table edit ascending writing member]
      by_cases here : named = index
      · subst here
        rw [if_pos ⟨writing, member⟩, Deed.on?, if_pos rfl]
        exact Table.bucket_setBucket_self _ _ _
      · have apart : named.val ≠ index.val := fun same => here (Fin.ext same)
        rw [Deed.on?, if_neg apart]
        exact (Table.bucket_setBucket_of_ne _ _ here).trans (ite_self _).symm
    · have nothing : hold.held.update? hold.table place edit = none := by
        rw [← Option.not_isSome_iff_eq_none, Held.isSome_update?_iff hold.table edit ascending]
        exact fun both => free ⟨both.2, both.1⟩
      rw [nothing, Deed.on?]
      by_cases here : place = index.val
      · subst here
        rw [if_neg free]
      · rw [if_neg here]
        exact (ite_self _).symm

/-! ## Runs -/

theorem places_run (deeds : List Deed) :
    (hold.run deeds).held.places
      = if deeds.any Deed.isRelease = true then [] else hold.held.places := by
  induction deeds generalizing hold with
  | nil => rfl
  | cons deed rest ih =>
    show ((hold.act deed).run rest).held.places = _
    rw [ih, places_act, List.any_cons]
    cases deed.isRelease <;> cases rest.any Deed.isRelease <;> rfl

theorem mode_run (deeds : List Deed) : (hold.run deeds).held.mode = hold.held.mode := by
  induction deeds generalizing hold with
  | nil => rfl
  | cons deed rest ih => exact ih.trans (mode_act deed)

/-- What is held stays in ascending order, down to nothing. -/
theorem ascending_run (ascending : hold.held.places.Pairwise (· < ·)) (deeds : List Deed) :
    (hold.run deeds).held.places.Pairwise (· < ·) := by
  rw [places_run]
  split
  · exact List.Pairwise.nil
  · exact ascending

/-- **A run changes each bucket by the changes of its own place,** as long as it is held for writing,
and leaves it alone otherwise. -/
theorem bucket_run (ascending : hold.held.places.Pairwise (· < ·)) (deeds : List Deed)
    (index : BucketIndex) :
    (hold.run deeds).table.bucket index
      = if hold.held.mode = .write ∧ index.val ∈ hold.held.places then
          Deed.applied (Deed.changesOf index deeds) (hold.table.bucket index)
        else hold.table.bucket index := by
  induction deeds generalizing hold with
  | nil => exact (ite_self _).symm
  | cons deed rest ih =>
    show ((hold.act deed).run rest).table.bucket index = _
    have still : (hold.act deed).held.places.Pairwise (· < ·) := ascending_run ascending [deed]
    rw [ih still, mode_act, places_act, bucket_act ascending deed index]
    cases deed with
    | release =>
      -- nothing is held any more, and no change counts from here on
      have ended : Deed.changesOf index (.release :: rest) = [] := rfl
      rw [ended]
      simp [Deed.isRelease, Deed.on?]
    | change place edit =>
      have more : Deed.changesOf index (.change place edit :: rest)
          = ((Deed.change place edit).on? index).toList ++ Deed.changesOf index rest := by
        unfold Deed.changesOf
        rw [List.takeWhile_cons_of_pos rfl, List.filterMap_cons]
        cases (Deed.change place edit).on? index <;> rfl
      rw [more, Deed.applied, Deed.applied, Deed.applied, List.foldl_append]
      simp only [Deed.isRelease, Bool.false_eq_true, if_false]
      split <;> rfl

end Hold

/-- **What is held is found, and nothing else is touched.** A plan is refused for the first key that
belongs to no bucket; otherwise it names the buckets of its keys, each once and ascending. A set holds
the places that it was asked for, as far as there are such buckets, each once and ascending. Whatever
its holder does then: every held place gives the bucket of the table at that place, and no other place
gives one; the buckets that can be changed are those that are held for writing. After a release
nothing is held, and a second one does nothing. Each bucket of the table has changed by what was done
to it while it was held for writing, in order, and by nothing else. -/
theorem Hold.finds_and_changes (keys : List String) (table : Table) (indices : List Nat)
    (mode : Access) (deeds : List Deed) :
    let homeless? := keys.find? fun key => (bucketOf? key).isNone
    let taken := Held.ofIndices indices mode
    let after := Hold.run { held := taken, table } deeds
    (∀ key, homeless? = some key → Locks.plan keys = .error (.invalidKey key))
      ∧ (homeless? = none → ∃ planned, Locks.plan keys = .ok planned
        ∧ planned.Pairwise (· < ·)
        ∧ ∀ index, index ∈ planned ↔ ∃ key ∈ keys, bucketOf? key = some index)
      ∧ taken.places.Pairwise (· < ·)
      ∧ (∀ place, place ∈ taken.places ↔ place ∈ indices ∧ place < bucketCount)
      ∧ after.held.places = (if deeds.any Deed.isRelease = true then [] else taken.places)
      ∧ after.held.mode = mode
      ∧ (∀ index : BucketIndex, index.val ∈ after.held.places →
        after.held.bucket? after.table index = some (after.table.bucket index))
      ∧ (∀ place, place ∉ after.held.places → after.held.bucket? after.table place = none)
      ∧ (∀ (α : Type) (change : Bucket → Update Bucket α) (place : Nat),
        (after.held.update? after.table place change).isSome = true
          ↔ place ∈ after.held.places ∧ mode = .write)
      ∧ (∀ (α : Type) (change : Bucket → Update Bucket α) (index : BucketIndex),
        index.val ∈ after.held.places → mode = .write →
          after.held.update? after.table index change = some (after.table.updateAt index change))
      ∧ after.held.release.places = [] ∧ after.held.release.isReleased = true
      ∧ after.held.release.release = after.held.release
      ∧ ∀ index : BucketIndex, after.table.bucket index
        = if mode = .write ∧ index.val ∈ indices then
            Deed.applied (Deed.changesOf index deeds) (table.bucket index)
          else table.bucket index := by
  intro homeless? taken after
  have ascending : taken.places.Pairwise (· < ·) := Held.pairwise_places_ofIndices indices mode
  have places := Held.mem_places_ofIndices indices mode
  have still : after.held.places.Pairwise (· < ·) := Hold.ascending_run ascending deeds
  have kept : after.held.mode = mode := Hold.mode_run deeds
  refine ⟨fun key => Locks.plan_of_find?_eq_some, fun placed => ⟨_,
    Locks.plan_of_find?_eq_none placed, Locks.pairwise_inOrder _, fun index => ?_⟩, ascending,
    places, Hold.places_run deeds, kept, fun index => Held.bucket?_of_mem still after.table,
    fun place => Held.bucket?_of_not_mem after.table, fun α change place => ?_,
    fun α change index member writing =>
      Held.update?_of_mem after.table change still (kept.trans writing) member, ?_⟩
  · rw [Locks.mem_inOrder, List.mem_filterMap]
  · rw [Held.isSome_update?_iff after.table change still, kept]
  · obtain ⟨nothing, released, again⟩ := after.held.release_spec
    refine ⟨nothing, released, again, fun index => ?_⟩
    have held : index.val ∈ taken.places ↔ index.val ∈ indices :=
      (places index).trans (and_iff_left index.isLt)
    have changed : after.table.bucket index = _ := Hold.bucket_run ascending deeds index
    rw [changed]
    simp only [held]
    rfl

/-- Places out of order, twice, and where no bucket is; a change of what is not held, and one after
the release. -/
example :
    let putting (value : String) (bucket : Bucket) := bucket.put "c" value
    let deeds : List Deed := [.change 2 (putting "1"), .change 3 (putting "2"), .release,
      .change 2 (putting "3")]
    let start : Hold := { held := .ofIndices [5, 2, 30, 5] .write, table := {} }
    let after := start.run deeds
    start.held.places = [2, 5] ∧ after.held.places = []
      ∧ ((after.table.bucket ⟨2, by decide⟩).get? "c", (after.table.bucket ⟨3, by decide⟩).get? "c") = (some "1", none) := by
  cbv

end KeyWatch
