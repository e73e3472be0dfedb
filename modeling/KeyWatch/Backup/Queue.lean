/-
# Backup.Queue -- starts that wait for their turn

Starts that find no token wait in the order in which they came. Whenever a backup ends, the first
of them is let in, and its snapshot shows the table of that moment, not of the moment in which it
was asked for.
-/
import KeyWatch.Backup.Pool

namespace KeyWatch.Backup

set_option autoImplicit false

structure Queue (δ : Type) where
  pool : Pool δ
  waiting : List δ := []
  deriving Repr

namespace Queue

variable {δ : Type}

/-- Take a snapshot and write it to a destination; answers whether the start was let in at once. -/
def start (queue : Queue δ) (table : Table) (destination : δ) :
    Bool × Queue δ :=
  match queue.pool.grant? with
  | none => (false, { queue with waiting := queue.waiting ++ [destination] })
  | some pool =>
    (true, { queue with pool := pool.launch ⟨Snapshot.ofTable table, destination⟩ })

/-- End a backup and let in the first start that waits. Answers the backup that ended, and the
destination that was let in. -/
def finish (queue : Queue δ) (table : Table) (index : Nat) :
    Option (Worker δ) × Option δ × Queue δ :=
  let ended := queue.pool.running[index]?
  let queue := { queue with pool := queue.pool.finish index }
  match queue.waiting with
  | [] => (ended, none, queue)
  | next :: rest =>
    match { queue with waiting := rest }.start table next with
    | (true, queue) => (ended, some next, queue)
    | (false, _) => (ended, none, queue)

/-- End so many backups, the oldest first. Answers them in that order. -/
def finishMany (queue : Queue δ) (table : Table) :
    Nat → List (Worker δ) × Queue δ
  | 0 => ([], queue)
  | count + 1 =>
    let (ended, _, queue) := queue.finish table 0
    let (more, queue) := queue.finishMany table count
    (ended.toList ++ more, queue)

/-- End every backup, those included that are let in meanwhile. -/
def finishAll (queue : Queue δ) (table : Table) : List (Worker δ) × Queue δ :=
  queue.finishMany table (queue.pool.running.length + queue.waiting.length)

end Queue

end KeyWatch.Backup
