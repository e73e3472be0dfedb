/-
# Table.Snapshot -- the contents of a table at one moment

A snapshot is a list of keys with their values in the order of the table: bucket by bucket, and
within a bucket in the order in which the entries were made. It is written line by line, one line
for each entry.
-/
import KeyWatch.Stream.Sink
import KeyWatch.Table.Locks

namespace KeyWatch

set_option autoImplicit false

def entryLine (key value : String) : String := "(" ++ key ++ ", " ++ value ++ ")\n"

/-- Keys and values of a table, in order. -/
structure Snapshot where
  entries : List (String × String) := []
  deriving Repr, DecidableEq

namespace Snapshot

def ofTable (table : Table) : Snapshot :=
  ⟨table.entries.map fun entry => (entry.key, entry.value)⟩

/-- The lines of all entries. -/
def text (snapshot : Snapshot) : String :=
  String.join (snapshot.entries.map fun entry => entryLine entry.1 entry.2)

/-- Write lines one after another, then flush. -/
def printLines (sink : Sink) : List (String × String) → Except IoFault Unit × Sink
  | [] => (sink.flush, sink)
  | (key, value) :: rest =>
    match sink.writeAll (Text.utf8 (entryLine key value)) with
    | (.error fault, sink) => (.error fault, sink)
    | (.ok (), sink) => printLines sink rest

/-- Write the lines of all entries and flush. -/
def printTo (snapshot : Snapshot) (sink : Sink) : Except IoFault Unit × Sink :=
  printLines sink snapshot.entries

end Snapshot

end KeyWatch
