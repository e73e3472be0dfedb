/-
# Settings -- the limits a store and its server work under

`Settings.check` accepts a configuration exactly when every pool, queue and batch has room for
something (`check_eq_ok_iff`); of several faults it names the first one in a fixed order.
-/

namespace KeyWatch

set_option autoImplicit false

/-- Limits and places of one store. -/
structure Settings where
  /-- Most bytes of a key, and of a value. -/
  maxKeyLength : Nat := 40
  maxBatch : Nat := 256
  jobsDir : String := "./jobs"
  workers : Nat := 1
  maxBackups : Nat := 1
  /-- Registration pipe; without one no client can connect. -/
  registry : Option String := none
  maxSessions : Nat := 4
  maxSubscriptions : Nat := 10
  deriving Repr, DecidableEq

inductive SettingsFault where
  | noWorker
  | noBackup
  | noSession
  | noKeyOrBatch
  deriving Repr, DecidableEq

def SettingsFault.message : SettingsFault → String
  | .noWorker => "worker_threads must be at least 1"
  | .noBackup => "max_backups must be at least 1"
  | .noSession => "max_sessions must be at least 1"
  | .noKeyOrBatch => "key and batch limits must be non-zero"

def Settings.check (settings : Settings) : Except SettingsFault Unit :=
  if settings.workers = 0 then .error .noWorker
  else if settings.maxBackups = 0 then .error .noBackup
  else if settings.maxSessions = 0 then .error .noSession
  else if settings.maxKeyLength = 0 ∨ settings.maxBatch = 0 then .error .noKeyOrBatch
  else .ok ()

theorem Settings.check_eq_ok_iff (settings : Settings) :
    settings.check = .ok () ↔ 0 < settings.workers ∧ 0 < settings.maxBackups
      ∧ 0 < settings.maxSessions ∧ 0 < settings.maxKeyLength ∧ 0 < settings.maxBatch := by
  unfold check
  repeat' split
  all_goals simp only [reduceCtorEq, true_iff, false_iff]
  all_goals omega

end KeyWatch
