/-
# Proofs.Service -- what carrying out an operation leaves

An operation that changes entries is refused for a fault, or for a missing table, or else makes its
edits and owes their notices. `Store.after` is what it leaves of the store and `Store.owed` what it
owes, in any of these cases; `Service.apply_edited` says that a service carries out just that.
What a service does beside its store, telling watchers and writing backups, never reaches the store.
-/
import KeyWatch.Proofs.Store
import KeyWatch.Store.Service

namespace KeyWatch

set_option autoImplicit false

variable {α : Type}

namespace Store

variable (store : Store)

/-- Whether a key is stored, or why it cannot be. -/
def finds (key : String) : Except Error Bool :=
  store.given (store.settings.keyFault? key) fun table => (table.find? key).isSome

/-- The store after edits that a fault, or a missing table, prevents. -/
def after (fault? : Option Error) (edits : List Edit) : Store :=
  match fault? with
  | some _ => store
  | none => { store with table := store.table.map fun table => edits.foldl Table.edit table }

/-- The notices that such edits owe. -/
def owed (fault? : Option Error) (edits : List Edit) : List Notice :=
  match fault? with
  | some _ => []
  | none => store.table.elim [] fun table => table.noticesOf edits

@[simp] theorem after_settings (fault? : Option Error) (edits : List Edit) :
    (store.after fault? edits).settings = store.settings := by
  cases fault? <;> rfl

/-- An edit that owes nothing, whatever it finds. -/
theorem owed_of_quiet {edit : Edit} (quiet : ∀ found, edit.notices found = [])
    (fault? : Option Error) : store.owed fault? [edit] = [] := by
  unfold owed
  cases fault? with
  | some fault => rfl
  | none =>
    cases store.table with
    | none => rfl
    | some table =>
      show edit.notices _ ++ [] = []
      rw [quiet, List.append_nil]

theorem given_map {β : Type} (fault? : Option Error) (answer : Table → α) (change : α → β) :
    (store.given fault? answer).map change = store.given fault? fun table => change (answer table) := by
  unfold given
  cases fault? with
  | some fault => rfl
  | none => cases store.table <;> rfl

end Store

namespace Service

variable (service : Service)

/-! ## Beside the store -/

theorem announce_nil : service.announce [] = service := by
  unfold announce Exchange.postAll Exchange.warnings
  simp

theorem finishBackup_store : service.finishBackup.store = service.store := by
  unfold finishBackup
  cases service.backups.running <;> rfl

theorem finishBackup_exchange : service.finishBackup.exchange = service.exchange := by
  unfold finishBackup
  cases service.backups.running <;> rfl

theorem foldl_finishBackup {β : Type} (items : List β) :
    (items.foldl (fun service _ => finishBackup service) service).store = service.store
      ∧ (items.foldl (fun service _ => finishBackup service) service).exchange = service.exchange := by
  induction items generalizing service with
  | nil => exact ⟨rfl, rfl⟩
  | cons item rest ih =>
    obtain ⟨store, exchange⟩ := ih service.finishBackup
    exact ⟨store.trans service.finishBackup_store, exchange.trans service.finishBackup_exchange⟩

theorem finishBackups_store : service.finishBackups.store = service.store :=
  (foldl_finishBackup service _).1

theorem finishBackups_exchange : service.finishBackups.exchange = service.exchange :=
  (foldl_finishBackup service _).2

theorem grantBackup_store : service.grantBackup.store = service.store := by
  unfold grantBackup
  cases service.backups.grant? with
  | none => exact service.finishBackup_store
  | some backups => rfl

theorem grantBackup_exchange : service.grantBackup.exchange = service.exchange := by
  unfold grantBackup
  cases service.backups.grant? with
  | none => exact service.finishBackup_exchange
  | some backups => rfl

/-- **A backup changes neither the store nor a channel.** -/
theorem backup_store (path : String) : (service.backup path).2.store = service.store
    ∧ (service.backup path).2.exchange = service.exchange := by
  have store := service.grantBackup_store
  have exchange := service.grantBackup_exchange
  unfold backup
  cases service.store.requireTable with
  | error error => exact ⟨rfl, rfl⟩
  | ok table =>
    dsimp only
    cases service.grantBackup.files.create path with
    | error fault => exact ⟨store, exchange⟩
    | ok made => exact ⟨store, exchange⟩

/-! ## Edits -/

/-- The service after edits that a fault, or a missing table, prevents. -/
def after (fault? : Option Error) (edits : List Edit) : Service :=
  ({ service with store := service.store.after fault? edits } : Service).announce
    (service.store.owed fault? edits)

/-- **An operation that edits does what its edits say,** or nothing at all. -/
theorem apply_edited (fault? : Option Error) (answer : Table → α) (edits : List Edit) :
    service.apply (service.store.given fault? fun table =>
        service.store.edited (answer table) edits table)
      = (service.store.given fault? answer, service.after fault? edits) := by
  unfold Store.given after Store.after Store.owed
  cases fault? with
  | some fault => rw [announce_nil]; rfl
  | none =>
    obtain ⟨⟨settings, table⟩, exchange, files, backups, warnings⟩ := service
    cases table with
    | none => simp only [Option.map_none, Option.elim, announce_nil]; rfl
    | some table => rfl

theorem after_store (fault? : Option Error) (edits : List Edit) :
    (service.after fault? edits).store = service.store.after fault? edits := rfl

theorem after_exchange (fault? : Option Error) (edits : List Edit) :
    (service.after fault? edits).exchange
      = (service.exchange.postAll (service.store.owed fault? edits)).2 := rfl

/-- An edit that owes no notice touches no channel. -/
theorem after_exchange_of_quiet {edit : Edit} (quiet : ∀ found, edit.notices found = [])
    (fault? : Option Error) : (service.after fault? [edit]).exchange = service.exchange := by
  rw [after_exchange, Store.owed_of_quiet _ quiet]
  rfl

theorem apply_write (pairs : List (String × String)) :
    service.apply (service.store.write pairs)
      = (service.store.given (service.store.settings.pairsFault? pairs) fun _ => (),
          service.after (service.store.settings.pairsFault? pairs) (puts pairs)) := by
  rw [Store.write_eq, apply_edited]

theorem apply_delete (keys : List String) :
    service.apply (service.store.delete keys)
      = (service.store.given (service.store.settings.keysFault? keys) fun table =>
            (eachOnce keys).filter fun key => (table.find? key).isNone,
          service.after (service.store.settings.keysFault? keys) (deletes keys)) := by
  rw [Store.delete_eq, apply_edited]

/-- Deleting one key and watching it tell whether it is stored. -/
theorem apply_erase (key : String) :
    service.apply (service.store.erase key)
      = (service.store.finds key,
          service.after (service.store.settings.keyFault? key) [.delete key]) := by
  rw [Store.erase_eq, apply_edited, Store.finds]

theorem apply_watch (key : String) (watcher : Watcher) :
    service.apply (service.store.watch key watcher)
      = (service.store.finds key,
          service.after (service.store.settings.keyFault? key) [.watch key watcher]) := by
  rw [Store.watch_eq, apply_edited, Store.finds]

/-- Unwatching a key tells whether it was watched. -/
theorem apply_unwatch (key : String) (client : ClientId) :
    service.apply (service.store.unwatch key client)
      = (service.store.isWatched key client,
          service.after (service.store.settings.keyFault? key) [.unwatch key client]) := by
  rw [Store.unwatch_eq, apply_edited, Store.isWatched_eq]

/-! ## Life of the table -/

theorem init_store : service.init.2.store
    = if service.store.table = none then ⟨service.store.settings, some {}⟩
      else service.store := by
  obtain ⟨⟨settings, table⟩, exchange, files, backups, warnings⟩ := service
  cases table <;> rfl

theorem init_exchange : service.init.2.exchange = service.exchange := by
  rw [init]
  cases service.store.init <;> rfl

theorem terminate_store : service.terminate.2.store
    = ⟨service.store.settings, none⟩ := by
  have store := service.finishBackups_store
  unfold terminate
  dsimp only
  rw [store]
  obtain ⟨⟨settings, table⟩, exchange, files, backups, warnings⟩ := service
  cases table with
  | none => exact store
  | some table => rfl

theorem terminate_exchange : service.terminate.2.exchange = service.exchange := by
  have exchange := service.finishBackups_exchange
  rw [terminate]
  cases service.finishBackups.store.terminate with
  | error error => exact exchange
  | ok store => exact exchange

end Service

end KeyWatch
