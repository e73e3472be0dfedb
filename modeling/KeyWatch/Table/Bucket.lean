/-
# Table.Bucket -- entries that share a bucket

A bucket is a list of entries with distinct keys, in the order in which they were made. Writing to
an existing key keeps its place and its watchers, writing a new key puts it at the end, and a
deleted entry takes its watchers with it: a key that is made again starts with none.
-/
import KeyWatch.Table.Watcher

namespace KeyWatch

set_option autoImplicit false

structure Entry where
  key : String
  value : String
  watchers : Watchers := []
  deriving Repr, DecidableEq

inductive PutEffect where
  | inserted
  | updated
  deriving Repr, DecidableEq

/-- Entries in the order in which they were made. -/
structure Bucket where
  entries : List Entry := []
  deriving Repr, DecidableEq

namespace Bucket

def entry? (bucket : Bucket) (key : String) : Option Entry :=
  bucket.entries.find? (·.key == key)

def has (bucket : Bucket) (key : String) : Bool := bucket.entries.any (·.key == key)

def get? (bucket : Bucket) (key : String) : Option String := (bucket.entry? key).map (·.value)

/-- The watchers of a key; none if it is not stored. -/
def watchersOf (bucket : Bucket) (key : String) : Watchers :=
  ((bucket.entry? key).map (·.watchers)).getD []

def modify (bucket : Bucket) (key : String) (change : Entry → Entry) : Bucket :=
  ⟨bucket.entries.map fun entry => if entry.key = key then change entry else entry⟩

/-- Write a key. A replaced value is told to the key's watchers. -/
def put (bucket : Bucket) (key value : String) : Update Bucket PutEffect :=
  if bucket.has key then
    { answer := .updated
      state := bucket.modify key fun entry => { entry with value }
      notices := (bucket.watchersOf key).notices key (.updated value) }
  else
    { answer := .inserted
      state := ⟨bucket.entries ++ [{ key, value }]⟩ }

/-- Remove a key, and tell its watchers. Answers whether it was stored. -/
def delete (bucket : Bucket) (key : String) : Update Bucket Bool :=
  { answer := bucket.has key
    state := ⟨bucket.entries.filter (·.key != key)⟩
    notices := (bucket.watchersOf key).notices key .deleted }

/-- Let a client watch a stored key. Answers whether the key is stored, also for a client that
watches it already. -/
def watch (bucket : Bucket) (key : String) (watcher : Watcher) : Update Bucket Bool :=
  { answer := bucket.has key
    state := bucket.modify key fun entry => { entry with watchers := entry.watchers.add watcher } }

/-- Let a client watch a key no more. Answers whether it did. -/
def unwatch (bucket : Bucket) (key : String) (client : ClientId) : Update Bucket Bool :=
  { answer := (bucket.watchersOf key).has client
    state := bucket.modify key fun entry =>
      { entry with watchers := entry.watchers.remove client } }

end Bucket

end KeyWatch
