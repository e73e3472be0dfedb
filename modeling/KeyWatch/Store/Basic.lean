/-
# Store.Basic -- the store and its operations

A store has a table from its initialization until its termination. Every operation first checks
what it was given, and only then asks for the table: the size of a batch before its elements, the
elements from first to last, a key before its value. A batch works on sorted keys. Of pairs with
the same key the last one counts, a deletion names each key once, and a reading answers every key
it was given, repeated ones too.
-/
import KeyWatch.Table.Snapshot

namespace KeyWatch

set_option autoImplicit false

/-- Stands in the answer to a reading for the value of a key that is not stored. -/
def notFoundText : String := "KVSERROR"

/-- Stands behind a key that a deletion did not find. -/
def notStoredText : String := "KVSMISSING"

/-- Settings, and a table while the store is initialized. -/
structure Store where
  settings : Settings
  table : Option Table := none
  deriving Repr

namespace Held

/-- Write pairs, each to the held bucket of its key. -/
def putAll (held : Held) (table : Table) :
    List (String × String) → Except Error (Update Table Unit)
  | [] => .ok { answer := (), state := table }
  | (key, value) :: rest => do
    let index ← bucketOf key
    match held.update? table index (·.put key value) with
    | none => throw (.invalidKey key)
    | some update =>
      let later ← putAll held update.state rest
      return { later with notices := update.notices ++ later.notices }

/-- Remove keys, each from the held bucket of its key. Answers the keys that were not stored. -/
def deleteAll (held : Held) (table : Table) :
    List String → Except Error (Update Table (List String))
  | [] => .ok { answer := [], state := table }
  | key :: rest => do
    let index ← bucketOf key
    match held.update? table index (·.delete key) with
    | none =>
      let later ← deleteAll held table rest
      return { later with answer := key :: later.answer }
    | some update =>
      let later ← deleteAll held update.state rest
      return { answer := if update.answer then later.answer else key :: later.answer
               state := later.state
               notices := update.notices ++ later.notices }

/-- The values of keys, each read from the held bucket of its key. -/
def readAll (held : Held) (table : Table) (keys : List String) :
    Except Error (List (String × Option String)) :=
  keys.mapM fun key => do
    let index ← bucketOf key
    return (key, held.bucket? table index >>= (·.get? key))

end Held

namespace Store

/-! ## Life of the table -/

def init (store : Store) : Except Error Store :=
  match store.table with
  | some _ => .error .alreadyInitialized
  | none => .ok { store with table := some {} }

def terminate (store : Store) : Except Error Store :=
  match store.table with
  | none => .error .notInitialized
  | some _ => .ok { store with table := none }

def ofSettings (settings : Settings) : Store := { settings, table := some {} }

def isInitialized (store : Store) : Bool := store.table.isSome

/-- The table, or the refusal of a store that has none. -/
def requireTable (store : Store) : Except Error Table :=
  match store.table with
  | some table => .ok table
  | none => .error .notInitialized

/-! ## Checks -/

def checkKey (store : Store) (key : String) : Except Error Unit :=
  if store.settings.maxKeyLength < key.utf8ByteSize then .error (.invalidKey key)
  else (bucketOf key).map fun _ => ()

/-- Refuse a pair for its key, or else for a value that is too long. -/
def checkPair (store : Store) (pair : String × String) : Except Error Unit := do
  store.checkKey pair.1
  let max := store.settings.maxKeyLength
  if max < pair.2.utf8ByteSize then
    throw (.valueTooLong pair.1 pair.2.utf8ByteSize max)

def checkBatch (store : Store) (length : Nat) : Except Error Unit :=
  if length = 0 then .error .emptyBatch
  else if store.settings.maxBatch < length then
    .error (.batchTooLarge length store.settings.maxBatch)
  else .ok ()

def ascendingKeys (store : Store) (keys : List String) : Except Error (List String) := do
  store.checkBatch keys.length
  keys.forM store.checkKey
  return Ordered.ascendingBy id keys

/-- The pairs of a batch, checked and sorted, one for each key. -/
def sortedPairs (store : Store) (pairs : List (String × String)) :
    Except Error (List (String × String)) := do
  store.checkBatch pairs.length
  pairs.forM store.checkPair
  return Ordered.lastOfRuns Prod.fst (Ordered.ascendingBy Prod.fst pairs)

/-! ## Texts of answers -/

/-- One line of pairs between brackets. -/
def pairsLine (pairs : List (String × String)) : String :=
  "[" ++ String.join (pairs.map fun pair => "(" ++ pair.1 ++ "," ++ pair.2 ++ ")") ++ "]\n"

def readLine (found : List (String × Option String)) : String :=
  pairsLine (found.map fun entry => (entry.1, entry.2.getD notFoundText))

/-- The answer to a deletion that did not find some keys; nothing if it found all. -/
def missingLine : List String → String
  | [] => ""
  | missing => pairsLine (missing.map fun key => (key, notStoredText))

/-! ## Batches -/

def update {α : Type} (store : Store) (change : Table → Except Error (Update Table α)) :
    Except Error (Update Store α) := do
  let update ← change (← store.requireTable)
  return { answer := update.answer
           state := { store with table := some update.state }
           notices := update.notices }

def write (store : Store) (pairs : List (String × String)) :
    Except Error (Update Store Unit) := do
  let pairs ← store.sortedPairs pairs
  store.update fun table => do
    let held ← Held.ofKeys (pairs.map Prod.fst) .write
    held.putAll table pairs

/-- Read a batch of keys, in ascending order and with repetitions. -/
def read (store : Store) (keys : List String) : Except Error String := do
  let keys ← store.ascendingKeys keys
  let table ← store.requireTable
  let held ← Held.ofKeys keys .read
  return readLine (← held.readAll table keys)

def delete (store : Store) (keys : List String) :
    Except Error (Update Store (List String)) := do
  let keys ← store.ascendingKeys keys
  let keys := Ordered.lastOfRuns id keys
  store.update fun table => do
    let held ← Held.ofKeys keys .write
    held.deleteAll table keys

/-- All entries as lines, of one held bucket after another. -/
def showAll (store : Store) : Except Error String := do
  let buckets := (Held.all .read).buckets (← store.requireTable)
  return String.join (buckets.map fun bucket =>
    String.join (bucket.entries.map fun entry => entryLine entry.key entry.value))

/-! ## Single keys -/

def put (store : Store) (key value : String) : Except Error (Update Store Unit) :=
  store.write [(key, value)]

def get (store : Store) (key : String) : Except Error (Option String) := do
  store.checkKey key
  (← store.requireTable).get key

def erase (store : Store) (key : String) : Except Error (Update Store Bool) := do
  store.checkKey key
  store.update (·.delete key)

def size (store : Store) : Except Error Nat := do
  return (← store.requireTable).size

/-! ## Watching -/

/-- Let a client watch a stored key; answers whether the key is stored. -/
def watch (store : Store) (key : String) (watcher : Watcher) : Except Error (Update Store Bool) := do
  store.checkKey key
  store.update (·.watch key watcher)

/-- Let a client watch a key no more; answers whether it did. -/
def unwatch (store : Store) (key : String) (client : ClientId) :
    Except Error (Update Store Bool) := do
  store.checkKey key
  store.update (·.unwatch key client)

/-- Whether a client watches the present entry of a key. -/
def isWatched (store : Store) (key : String) (client : ClientId) : Except Error Bool := do
  store.checkKey key
  (← store.requireTable).isWatched key client

end Store

end KeyWatch
