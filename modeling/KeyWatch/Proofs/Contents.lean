/-
# Proofs.Contents -- what a table says about its keys, as a finite map

`Table.Holds` ties a sound table to the finite map of its keys and values. An edit of the table is
an insertion or a removal in the map (`holds_edit`), so a batch of pairs assigns them in the order
in which they were given (`holds_puts`): a later pair overrides an earlier one with its key, and
the sorting in between is not seen. A batch of keys removes each of them (`holds_deletes`).
-/
import KeyWatch.Proofs.Store
import Mathlib.Data.Finmap

namespace KeyWatch

set_option autoImplicit false

/-- Keys with their values. -/
abbrev Contents := Finmap fun _ : String => String

namespace Contents

/-- Bind the key of each pair to its value, one pair after another. -/
def assign (contents : Contents) (pairs : List (String × String)) : Contents :=
  pairs.foldl (fun contents pair => contents.insert pair.1 pair.2) contents

/-- Leave out keys. -/
def without (contents : Contents) (keys : List String) : Contents :=
  keys.foldl (fun contents key => contents.erase key) contents

/-- The value that the last pair with a key gives it. -/
def lastValue? (pairs : List (String × String)) (key : String) : Option String :=
  (pairs.filter fun pair => pair.1 = key).getLast?.map Prod.snd

/-- **The last pair with a key counts,** and a key without a pair keeps its value. -/
theorem lookup_assign (contents : Contents) (pairs : List (String × String)) (key : String) :
    (contents.assign pairs).lookup key = (lastValue? pairs key).or (contents.lookup key) := by
  induction pairs generalizing contents with
  | nil => rfl
  | cons pair rest ih =>
    refine (ih (contents.insert pair.1 pair.2)).trans ?_
    unfold lastValue?
    by_cases hit : pair.1 = key
    · rw [List.filter_cons_of_pos (by simpa using hit), List.getLast?_cons, ← hit,
        Finmap.lookup_insert]
      cases (rest.filter fun other => other.1 = pair.1).getLast? <;> rfl
    · rw [List.filter_cons_of_neg (by simpa using hit),
        Finmap.lookup_insert_of_ne _ fun same => hit same.symm]

theorem lookup_without (contents : Contents) (keys : List String) (key : String) :
    (contents.without keys).lookup key = if key ∈ keys then none else contents.lookup key := by
  induction keys generalizing contents with
  | nil => rfl
  | cons first rest ih =>
    refine (ih (contents.erase first)).trans ?_
    by_cases later : key ∈ rest
    · simp [later]
    · rw [if_neg later]
      by_cases hit : key = first
      · rw [hit, Finmap.lookup_erase]
        simp
      · rw [Finmap.lookup_erase_ne hit, if_neg (by simp [hit, later])]

theorem lastValue?_lastPairs (pairs : List (String × String)) (key : String) :
    lastValue? (lastPairs pairs) key = lastValue? pairs key := by
  unfold lastValue? lastPairs
  rw [Ordered.getLast?_filter_lastOfRuns, Ordered.filter_ascendingBy]

/-- Sorting a batch and dropping what is overridden does not change what it assigns. -/
theorem assign_lastPairs (contents : Contents) (pairs : List (String × String)) :
    contents.assign (lastPairs pairs) = contents.assign pairs :=
  Finmap.ext_lookup fun key => by
    rw [lookup_assign, lookup_assign, lastValue?_lastPairs]

theorem without_eachOnce (contents : Contents) (keys : List String) :
    contents.without (eachOnce keys) = contents.without keys :=
  Finmap.ext_lookup fun key => by
    rw [lookup_without, lookup_without]
    simp only [mem_eachOnce]

/-- The contents after an edit. -/
def edit (contents : Contents) : Edit → Contents
  | .put key value => contents.insert key value
  | .delete key => contents.erase key
  | .watch _ _ => contents
  | .unwatch _ _ => contents

end Contents

namespace Table

/-- A sound table with these keys and values. -/
structure Holds (table : Table) (contents : Contents) : Prop where
  sound : table.Sound
  lookup : ∀ key, contents.lookup key = (table.find? key).map (·.value)

theorem holds_empty : ({} : Table).Holds ∅ where
  sound := sound_empty
  lookup := fun key => by rw [find?_empty, Finmap.lookup_empty]; rfl

variable {table : Table} {contents : Contents}

/-- **An edit of a table is an edit of its contents.** -/
theorem holds_edit (holds : table.Holds contents) (edit : Edit)
    (placed : (bucketOf? edit.key).isSome = true) :
    (table.edit edit).Holds (contents.edit edit) := by
  refine ⟨sound_edit holds.sound edit, fun key => ?_⟩
  rw [find?_edit _ _ placed]
  by_cases hit : key = edit.key
  · rw [if_pos hit, hit]
    cases edit with
    | put changed value => exact Finmap.lookup_insert _
    | delete changed => exact Finmap.lookup_erase _ _
    | watch changed watcher =>
      refine (holds.lookup changed).trans ?_
      change (table.find? changed).map _ = ((table.find? changed).map _).map _
      rw [Option.map_map]
      rfl
    | unwatch changed client =>
      refine (holds.lookup changed).trans ?_
      change (table.find? changed).map _ = ((table.find? changed).map _).map _
      rw [Option.map_map]
      rfl
  · rw [if_neg hit, ← holds.lookup]
    cases edit with
    | put changed value => exact Finmap.lookup_insert_of_ne _ hit
    | delete changed => exact Finmap.lookup_erase_ne hit
    | watch changed watcher => rfl
    | unwatch changed client => rfl

theorem holds_edits (holds : table.Holds contents) (edits : List Edit)
    (placed : ∀ edit ∈ edits, (bucketOf? edit.key).isSome = true) :
    (edits.foldl Table.edit table).Holds (edits.foldl Contents.edit contents) := by
  induction edits generalizing table contents with
  | nil => exact holds
  | cons edit rest ih =>
    exact ih (holds_edit holds edit (placed edit (by simp))) fun other member =>
      placed other (List.mem_cons_of_mem _ member)

theorem holds_puts (holds : table.Holds contents) (pairs : List (String × String))
    (placed : ∀ pair ∈ pairs, (bucketOf? pair.1).isSome = true) :
    ((puts pairs).foldl Table.edit table).Holds (contents.assign pairs) := by
  have edited := holds_edits holds (puts pairs) fun edit member => by
    obtain ⟨pair, kept, rfl⟩ := List.mem_map.1 member
    exact placed pair (mem_of_mem_lastPairs kept)
  rw [← Contents.assign_lastPairs]
  simp only [puts, List.foldl_map] at edited ⊢
  exact edited

theorem holds_deletes (holds : table.Holds contents) (keys : List String)
    (placed : ∀ key ∈ keys, (bucketOf? key).isSome = true) :
    ((deletes keys).foldl Table.edit table).Holds (contents.without keys) := by
  have edited := holds_edits holds (deletes keys) fun edit member => by
    obtain ⟨key, kept, rfl⟩ := List.mem_map.1 member
    exact placed key ((mem_eachOnce keys key).1 kept)
  rw [← Contents.without_eachOnce]
  simp only [deletes, List.foldl_map] at edited ⊢
  exact edited

/-- **The size of a table is the number of its keys.** -/
theorem size_of_holds (holds : table.Holds contents) : table.size = contents.keys.card := by
  have distinct := nodup_keys holds.sound
  have same : (table.entries.map (·.key)).toFinset = contents.keys := by
    ext key
    rw [List.mem_toFinset, Finmap.mem_keys, ← Finmap.lookup_isSome, holds.lookup, Option.isSome_map]
    constructor
    · intro member
      obtain ⟨entry, stored, rfl⟩ := List.mem_map.1 member
      rw [(mem_entries_iff holds.sound entry).1 stored]
      rfl
    · intro stored
      obtain ⟨entry, found⟩ := Option.isSome_iff_exists.1 stored
      have named := key_of_find? found
      refine List.mem_map.2 ⟨entry, (mem_entries_iff holds.sound entry).2 ?_, named⟩
      rw [named, found]
  rw [← same, List.toFinset_card_of_nodup distinct, List.length_map]
  rfl

end Table

end KeyWatch
