/-
# Store.Service -- a store at work

A service joins a store with what its operations reach outside it: the channels of its watchers,
the files of its backups, and the warnings about what went wrong on the side. The outcome of an
operation comes from the store alone: neither a watcher that cannot be told nor a sink that fails
changes what is stored.
-/
import KeyWatch.Backup.Pool
import KeyWatch.Exchange
import KeyWatch.Files.Basic
import KeyWatch.Store.Basic

namespace KeyWatch

set_option autoImplicit false

/-- A store and its surroundings. -/
structure Service where
  store : Store
  exchange : Exchange := {}
  files : Files := {}
  /-- Backups; the destination of one is the place of its file. -/
  backups : Backup.Pool (List String) := .ofLimit store.settings.maxBackups
  /-- What went wrong on the side, in order. -/
  warnings : List Warning := []
  deriving Repr

namespace Service

def warn (service : Service) (warning : Warning) : Service :=
  { service with warnings := service.warnings ++ [warning] }

def announce (service : Service) (notices : List Notice) : Service :=
  let (deliveries, exchange) := service.exchange.postAll notices
  { service with exchange, warnings := service.warnings ++ Exchange.warnings deliveries }

/-- Carry out what the store decided. -/
def apply {α : Type} (service : Service) :
    Except Error (Update Store α) → Except Error α × Service
  | .error error => (.error error, service)
  | .ok update => (.ok update.answer, ({ service with store := update.state }).announce update.notices)

def output (sink : Sink) (text : String) : Except Error Unit × Sink :=
  let (result, sink) := sink.writeAll (Text.utf8 text)
  (result.mapError .io, sink)

/-! ## Operations -/

def write (service : Service) (pairs : List (String × String)) : Except Error Unit × Service :=
  service.apply (service.store.write pairs)

def read (service : Service) (keys : List String) (sink : Sink) : Except Error Unit × Sink :=
  match service.store.read keys with
  | .error error => (.error error, sink)
  | .ok line => output sink line

/-- Delete a batch of keys, and write those that were not stored to a sink. -/
def delete (service : Service) (keys : List String) (sink : Sink) :
    Except Error Unit × Sink × Service :=
  match service.apply (service.store.delete keys) with
  | (.error error, service) => (.error error, sink, service)
  | (.ok missing, service) =>
    let (result, sink) := output sink (Store.missingLine missing)
    (result, sink, service)

def showAll (service : Service) (sink : Sink) : Except Error Unit × Sink :=
  match service.store.showAll with
  | .error error => (.error error, sink)
  | .ok text => output sink text

/-! ## Backups -/

/-- Write the oldest backup to its file. -/
def finishBackup (service : Service) : Service :=
  match service.backups.running with
  | [] => service
  | worker :: _ =>
    { service with
      files := service.files.write worker.destination (Text.utf8 worker.snapshot.text)
      backups := service.backups.finish 0 }

def finishBackups (service : Service) : Service :=
  service.backups.running.foldl (fun service _ => service.finishBackup) service

/-- Let a backup in, after the oldest one is written if there is no token. -/
def grantBackup (service : Service) : Service :=
  match service.backups.grant? with
  | some backups => { service with backups }
  | none =>
    let service := service.finishBackup
    { service with backups := service.backups.grant?.getD service.backups }

/-- Start a backup of the present entries to a file. A file that cannot be opened fails this
backup only. -/
def backup (service : Service) (path : String) : Except Error Unit × Service :=
  match service.store.requireTable with
  | .error error => (.error error, service)
  | .ok table =>
    let service := service.grantBackup
    match service.files.create path with
    | .error fault =>
      (.error (.backupNotOpened path fault),
        { service with backups := service.backups.abandon })
    | .ok (place, files) =>
      (.ok (),
        { service with files, backups := service.backups.launch ⟨Snapshot.ofTable table, place⟩ })

/-! ## Life of the table -/

def init (service : Service) : Except Error Unit × Service :=
  match service.store.init with
  | .error error => (.error error, service)
  | .ok store => (.ok (), { service with store })

/-- Wait for backups, then drop the table. -/
def terminate (service : Service) : Except Error Unit × Service :=
  let service := service.finishBackups
  match service.store.terminate with
  | .error error => (.error error, service)
  | .ok store => (.ok (), { service with store })

end Service

end KeyWatch
