/-
# Table.Basic -- keys in twenty-six buckets

A key belongs to the bucket of its first character: letters by their place in the alphabet,
whatever their case, and digits by their value. A key that starts otherwise, or is empty, belongs
to none and is refused. Operations on one key touch its bucket and no other.
-/
import KeyWatch.Error
import KeyWatch.Table.Bucket

namespace KeyWatch

set_option autoImplicit false

def bucketCount : Nat := 26

abbrev BucketIndex := Fin bucketCount

/-- The bucket of keys that start with a character. -/
def bucketOfChar? (c : Char) : Option BucketIndex :=
  if h : 'a'.toNat ≤ c.toNat ∧ c.toNat ≤ 'z'.toNat then
    some ⟨c.toNat - 'a'.toNat, by simp only [bucketCount, Char.reduceToNat] at *; omega⟩
  else if h : 'A'.toNat ≤ c.toNat ∧ c.toNat ≤ 'Z'.toNat then
    some ⟨c.toNat - 'A'.toNat, by simp only [bucketCount, Char.reduceToNat] at *; omega⟩
  else if h : '0'.toNat ≤ c.toNat ∧ c.toNat ≤ '9'.toNat then
    some ⟨c.toNat - '0'.toNat, by simp only [bucketCount, Char.reduceToNat] at *; omega⟩
  else none

def bucketOf? (key : String) : Option BucketIndex := key.toList.head? >>= bucketOfChar?

/-- The bucket of a key, or the refusal of a key that belongs to none. -/
def bucketOf (key : String) : Except Error BucketIndex :=
  match bucketOf? key with
  | some index => .ok index
  | none => .error (.invalidKey key)

structure Table where
  buckets : Vector Bucket bucketCount := Vector.replicate bucketCount {}
  deriving Repr

namespace Table

def bucket (table : Table) (index : BucketIndex) : Bucket := table.buckets[index]

def setBucket (table : Table) (index : BucketIndex) (bucket : Bucket) : Table :=
  ⟨table.buckets.set index bucket⟩

def updateAt {α : Type} (table : Table) (index : BucketIndex) (change : Bucket → Update Bucket α) :
    Update Table α :=
  let update := change (table.bucket index)
  { answer := update.answer
    state := table.setBucket index update.state
    notices := update.notices }

def updateOf {α : Type} (table : Table) (key : String) (change : Bucket → Update Bucket α) :
    Except Error (Update Table α) := do
  return table.updateAt (← bucketOf key) change

/-! ## Operations on one key -/

def put (table : Table) (key value : String) : Except Error (Update Table PutEffect) :=
  table.updateOf key (·.put key value)

def get (table : Table) (key : String) : Except Error (Option String) := do
  return (table.bucket (← bucketOf key)).get? key

def delete (table : Table) (key : String) : Except Error (Update Table Bool) :=
  table.updateOf key (·.delete key)

def watch (table : Table) (key : String) (watcher : Watcher) : Except Error (Update Table Bool) :=
  table.updateOf key (·.watch key watcher)

def unwatch (table : Table) (key : String) (client : ClientId) :
    Except Error (Update Table Bool) :=
  table.updateOf key (·.unwatch key client)

/-- Whether a key is stored and watched by a client. -/
def isWatched (table : Table) (key : String) (client : ClientId) : Except Error Bool := do
  return ((table.bucket (← bucketOf key)).watchersOf key).has client

/-! ## Laws -/

@[simp] theorem bucket_setBucket_self (table : Table) (index : BucketIndex) (bucket : Bucket) :
    (table.setBucket index bucket).bucket index = bucket := by
  simp [Table.bucket, setBucket]

theorem bucket_setBucket_of_ne (table : Table) {index other : BucketIndex} (bucket : Bucket)
    (apart : index ≠ other) : (table.setBucket index bucket).bucket other = table.bucket other := by
  have : index.val ≠ other.val := fun same => apart (Fin.ext same)
  simp [Table.bucket, setBucket, this]

end Table

end KeyWatch
