/-
# Backup.Pool -- backups written at the same time

A pool has a fixed number of tokens. A backup holds one from the moment it is let in until its
file is written or could not be opened; a start that finds no token waits, and takes its snapshot
only when it is let in. No step makes or loses a token: those in the pool and those held add up to
the limit (`Balanced`, and one lemma for each step).
-/
import KeyWatch.Table.Snapshot

namespace KeyWatch.Backup

set_option autoImplicit false

/-- A backup that is being written: what it holds, and where it goes. -/
structure Worker (δ : Type) where
  snapshot : Snapshot
  destination : δ
  deriving Repr

/-- Tokens, and the backups that hold them. -/
structure Pool (δ : Type) where
  limit : Nat
  tokens : Nat
  /-- Backups that hold a token and are not being written yet. -/
  starting : Nat := 0
  /-- Backups that are being written, oldest first. -/
  running : List (Worker δ) := []
  deriving Repr

namespace Pool

variable {δ : Type}

/-- A pool that lets in at least one backup. -/
def ofLimit (limit : Nat) : Pool δ := { limit := max 1 limit, tokens := max 1 limit }

/-- Backups that hold a token, as told by the tokens that are missing. -/
def busyCount (pool : Pool δ) : Nat := pool.limit - pool.tokens

def grant? (pool : Pool δ) : Option (Pool δ) :=
  if pool.tokens = 0 then none
  else some { pool with tokens := pool.tokens - 1, starting := pool.starting + 1 }

/-- Take a token back. A full pool has no room for one. -/
def giveBack (pool : Pool δ) : Pool δ :=
  if pool.tokens < pool.limit then { pool with tokens := pool.tokens + 1 } else pool

/-- A backup that was let in goes no further. -/
def abandon (pool : Pool δ) : Pool δ :=
  ({ pool with starting := pool.starting - 1 } : Pool δ).giveBack

def launch (pool : Pool δ) (worker : Worker δ) : Pool δ :=
  { pool with starting := pool.starting - 1, running := pool.running ++ [worker] }

def finish (pool : Pool δ) (index : Nat) : Pool δ :=
  if index < pool.running.length then
    ({ pool with running := pool.running.eraseIdx index } : Pool δ).giveBack
  else pool

/-! ## Tokens are conserved -/

/-- Every token is in the pool or held by one backup. -/
def Balanced (pool : Pool δ) : Prop :=
  pool.tokens + pool.starting + pool.running.length = pool.limit

theorem balanced_ofLimit (limit : Nat) : (ofLimit limit : Pool δ).Balanced := rfl

theorem balanced_grant {pool granted : Pool δ} (balanced : pool.Balanced)
    (grant : pool.grant? = some granted) : granted.Balanced := by
  unfold grant? at grant
  split at grant
  · cases grant
  · next some =>
    cases grant
    simp only [Balanced] at *
    omega

theorem balanced_abandon {pool : Pool δ} (balanced : pool.Balanced) (held : 0 < pool.starting) :
    pool.abandon.Balanced := by
  simp only [Balanced, abandon, giveBack] at *
  split <;> simp only at * <;> omega

theorem balanced_launch {pool : Pool δ} (balanced : pool.Balanced) (held : 0 < pool.starting)
    (worker : Worker δ) : (pool.launch worker).Balanced := by
  simp only [Balanced, launch, List.length_append, List.length_singleton] at *
  omega

theorem balanced_finish {pool : Pool δ} (balanced : pool.Balanced) (index : Nat) :
    (pool.finish index).Balanced := by
  unfold finish
  split
  · next inside =>
    simp only [Balanced, giveBack] at *
    have shorter := List.length_eraseIdx_of_lt inside
    split <;> simp only at * <;> omega
  · exact balanced

/-- A balanced pool tells by its missing tokens how many backups hold one. -/
theorem busyCount_of_balanced {pool : Pool δ} (balanced : pool.Balanced) :
    pool.busyCount = pool.starting + pool.running.length := by
  simp only [Balanced, busyCount] at *
  omega

end Pool

end KeyWatch.Backup
