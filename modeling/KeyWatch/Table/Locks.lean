/-
# Table.Locks -- buckets held by one operation

An operation on several keys first holds all their buckets, each once and in ascending order, and
works only on what it holds. `plan` gives the buckets of a batch of keys; a `Held` set finds a
bucket by search in its ascending places, and gives access for change only if it was taken for
writing. What is let go of is held no more, and letting go twice does nothing further.
-/
import KeyWatch.Ordered
import KeyWatch.Table.Basic

namespace KeyWatch

set_option autoImplicit false

/-- What a held bucket may be used for. -/
inductive Access where
  | read
  | write
  deriving Repr, DecidableEq

namespace Locks

/-- Each place once, ascending. -/
def inOrder (indices : List BucketIndex) : List BucketIndex :=
  Ordered.lastOfRuns id (indices.mergeSort fun first second => decide (first ≤ second))

/-- The buckets that keys need, each once and ascending; fails on the first key without one. -/
def plan (keys : List String) : Except Error (List BucketIndex) :=
  (keys.mapM bucketOf).map inOrder

end Locks

structure Held where
  mode : Access
  indices : Array BucketIndex

namespace Held

/-- Hold the given places; one that no table has is left out. -/
def ofIndices (indices : List Nat) (mode : Access) : Held :=
  let known := indices.filterMap fun index =>
    if inside : index < bucketCount then some (⟨index, inside⟩ : BucketIndex) else none
  ⟨mode, (Locks.inOrder known).toArray⟩

def ofKeys (keys : List String) (mode : Access) : Except Error Held :=
  (Locks.plan keys).map fun indices => ofIndices (indices.map Fin.val) mode

def all (mode : Access) : Held := ofIndices (List.range bucketCount) mode

/-- The slot in which a place is held. -/
def slot? (held : Held) (index : Nat) : Option (Fin held.indices.size) :=
  Ordered.search? Fin.val held.indices index

def bucket? (held : Held) (table : Table) (index : Nat) : Option Bucket :=
  (held.slot? index).map fun slot => table.bucket held.indices[slot]

/-- Change a held bucket; nothing happens to one that is not held for writing. -/
def update? {α : Type} (held : Held) (table : Table) (index : Nat)
    (change : Bucket → Update Bucket α) : Option (Update Table α) :=
  match held.mode with
  | .read => none
  | .write => (held.slot? index).map fun slot => table.updateAt held.indices[slot] change

def buckets (held : Held) (table : Table) : List Bucket := held.indices.toList.map table.bucket

def release (held : Held) : Held := { held with indices := #[] }

def isReleased (held : Held) : Bool := held.indices.isEmpty

end Held

namespace Table

def entries (table : Table) : List Entry :=
  ((Held.all .read).buckets table).flatMap (·.entries)

def size (table : Table) : Nat := table.entries.length

end Table

end KeyWatch
