/-
# Proofs.Action -- all that can be asked of a store, by its effect

Whatever is asked of a service makes the table, drops it, edits it, or leaves it as it is
(`Effect`). `Service.act_effect` reads the store and the channels after an action off its effect, so
that a law of all runs has four cases and not one for each operation.

In an orderly store the table is sound, and every stored key is one that the settings admit. The
store that was just made is orderly, and every action keeps it so (`orderly_act`).
-/
import KeyWatch.Proofs.Reference

namespace KeyWatch

set_option autoImplicit false

/-- Anything that is asked of a service: what changes keys and values, what watches, what only
looks, and backups. -/
inductive Action where
  | perform (operation : Operation)
  | watch (key : String) (watcher : Watcher)
  | unwatch (key : String) (client : ClientId)
  | isWatched (key : String) (client : ClientId)
  | showAll (sink : Sink)
  | backup (path : String)
  | finishBackup
  deriving Repr, DecidableEq

/-- The service after an action. -/
def Service.act (service : Service) : Action → Service
  | .perform operation => (service.perform operation).2
  | .watch key watcher => (service.apply (service.store.watch key watcher)).2
  | .unwatch key client => (service.apply (service.store.unwatch key client)).2
  | .isWatched _ _ => service
  | .showAll _ => service
  | .backup path => (service.backup path).2
  | .finishBackup => service.finishBackup

/-! ## Effects -/

/-- What becomes of the table. -/
inductive Effect where
  /-- An empty table is made, unless there is one. -/
  | make
  | drop
  /-- Edits that a fault, or a missing table, prevents. -/
  | edit (fault? : Option Error) (edits : List Edit)
  | keep

namespace Effect

/-- The store after an effect. -/
def onStore (store : Store) : Effect → Store
  | make => if store.table = none then ⟨store.settings, some {}⟩ else store
  | drop => ⟨store.settings, none⟩
  | edit fault? edits => store.after fault? edits
  | keep => store

/-- The notices that an effect owes. -/
def owed (store : Store) : Effect → List Notice
  | edit fault? edits => store.owed fault? edits
  | _ => []

/-- Every key that is edited is one that the settings admit. -/
def Admitted (settings : Settings) : Effect → Prop
  | edit fault? edits => fault? = none → ∀ edit ∈ edits, settings.keyFault? edit.key = none
  | _ => True

theorem settings_onStore (store : Store) (effect : Effect) :
    (effect.onStore store).settings = store.settings := by
  cases effect with
  | make =>
    show (if store.table = none then (⟨store.settings, some {}⟩ : Store) else store).settings = _
    split <;> rfl
  | drop => rfl
  | edit fault? edits => exact store.after_settings fault? edits
  | keep => rfl

end Effect

namespace Action

/-- The effect of an action under settings. -/
def effect (settings : Settings) : Action → Effect
  | perform .init => .make
  | perform .terminate => .drop
  | perform (.put key value) => .edit (settings.pairsFault? [(key, value)]) (puts [(key, value)])
  | perform (.write pairs) => .edit (settings.pairsFault? pairs) (puts pairs)
  | perform (.erase key) => .edit (settings.keyFault? key) [.delete key]
  | perform (.delete keys _) => .edit (settings.keysFault? keys) (deletes keys)
  | watch key watcher => .edit (settings.keyFault? key) [.watch key watcher]
  | unwatch key client => .edit (settings.keyFault? key) [.unwatch key client]
  | _ => .keep

theorem admitted_puts (settings : Settings) (pairs : List (String × String))
    (admitted : settings.pairsFault? pairs = none) :
    ∀ edit ∈ puts pairs, settings.keyFault? edit.key = none := by
  intro edit member
  obtain ⟨pair, kept, rfl⟩ := List.mem_map.1 member
  exact (Settings.pairFault?_of_pairsFault? admitted pair (mem_of_mem_lastPairs kept)).1

theorem admitted_deletes (settings : Settings) (keys : List String)
    (admitted : settings.keysFault? keys = none) :
    ∀ edit ∈ deletes keys, settings.keyFault? edit.key = none := by
  intro edit member
  obtain ⟨key, kept, rfl⟩ := List.mem_map.1 member
  exact Settings.keyFault?_of_keysFault? admitted key ((mem_eachOnce keys key).1 kept)

/-- What is edited is admitted: the keys are looked at before anything is done. -/
theorem admitted_effect (settings : Settings) (action : Action) :
    (action.effect settings).Admitted settings := by
  have single : ∀ edit : Edit, settings.keyFault? edit.key = none →
      ∀ other ∈ [edit], settings.keyFault? other.key = none := by
    intro edit admitted other member
    rw [List.mem_singleton.1 member]
    exact admitted
  cases action with
  | perform operation =>
    cases operation with
    | put key value => exact admitted_puts settings [(key, value)]
    | write pairs => exact admitted_puts settings pairs
    | erase key => exact single (.delete key)
    | delete keys sink => exact admitted_deletes settings keys
    | _ => trivial
  | watch key watcher => exact single (.watch key watcher)
  | unwatch key client => exact single (.unwatch key client)
  | _ => trivial

end Action

/-- **An action leaves of the store, and sends to the channels, what its effect says.** -/
theorem Service.act_effect (service : Service) (action : Action) :
    (service.act action).store
        = (action.effect service.store.settings).onStore service.store
      ∧ (service.act action).exchange
        = (service.exchange.postAll
            ((action.effect service.store.settings).owed service.store)).2 := by
  cases action with
  | perform operation =>
    cases operation with
    | init => exact ⟨service.init_store, service.init_exchange⟩
    | terminate => exact ⟨service.terminate_store, service.terminate_exchange⟩
    | put key value =>
      show (service.apply (service.store.write [(key, value)])).2.store = _
        ∧ (service.apply (service.store.write [(key, value)])).2.exchange = _
      rw [apply_write]
      exact ⟨rfl, rfl⟩
    | write pairs =>
      show (service.apply (service.store.write pairs)).2.store = _
        ∧ (service.apply (service.store.write pairs)).2.exchange = _
      rw [apply_write]
      exact ⟨rfl, rfl⟩
    | erase key =>
      show (service.apply (service.store.erase key)).2.store = _
        ∧ (service.apply (service.store.erase key)).2.exchange = _
      rw [apply_erase]
      exact ⟨rfl, rfl⟩
    | delete keys sink =>
      show (service.delete keys sink).2.2.store = _ ∧ (service.delete keys sink).2.2.exchange = _
      rw [delete_eq_written, apply_delete]
      exact ⟨rfl, rfl⟩
    | _ => exact ⟨rfl, rfl⟩
  | watch key watcher =>
    show (service.apply (service.store.watch key watcher)).2.store = _
      ∧ (service.apply (service.store.watch key watcher)).2.exchange = _
    rw [apply_watch]
    exact ⟨rfl, rfl⟩
  | unwatch key client =>
    show (service.apply (service.store.unwatch key client)).2.store = _
      ∧ (service.apply (service.store.unwatch key client)).2.exchange = _
    rw [apply_unwatch]
    exact ⟨rfl, rfl⟩
  | isWatched key client => exact ⟨rfl, rfl⟩
  | showAll sink => exact ⟨rfl, rfl⟩
  | backup path => exact service.backup_store path
  | finishBackup => exact ⟨service.finishBackup_store, service.finishBackup_exchange⟩

/-! ## Orderly stores -/

/-- The table, if there is one, is sound, and its keys are admitted. -/
structure Store.Orderly (store : Store) : Prop where
  sound : ∀ table, store.table = some table → table.Sound
  admitted : ∀ table, store.table = some table → ∀ key, (table.find? key).isSome = true →
    store.settings.keyFault? key = none

namespace Store

theorem orderly_of_table_eq_none {store : Store} (fresh : store.table = none) : store.Orderly where
  sound := by
    intro table there
    rw [fresh] at there
    cases there
  admitted := by
    intro table there
    rw [fresh] at there
    cases there

/-- Edits of admitted keys add no other key. -/
theorem admitted_edits {settings : Settings} {table : Table} (edits : List Edit)
    (admitted : ∀ edit ∈ edits, settings.keyFault? edit.key = none)
    (before : ∀ key, (table.find? key).isSome = true → settings.keyFault? key = none) :
    ∀ key, ((edits.foldl Table.edit table).find? key).isSome = true →
      settings.keyFault? key = none := by
  induction edits generalizing table with
  | nil => exact before
  | cons edit rest ih =>
    have ours := admitted edit (by simp)
    refine ih (fun other member => admitted other (List.mem_cons_of_mem _ member)) ?_
    intro key stored
    rw [Table.find?_edit _ _ (Settings.placed_of_keyFault? ours)] at stored
    by_cases hit : key = edit.key
    · rw [hit]
      exact ours
    · rw [if_neg hit] at stored
      exact before key stored

/-- **Effects keep a store orderly.** -/
theorem orderly_onStore {store : Store} (orderly : store.Orderly) (effect : Effect)
    (admitted : effect.Admitted store.settings) : (effect.onStore store).Orderly := by
  cases effect with
  | make =>
    show (if store.table = none then (⟨store.settings, some {}⟩ : Store) else store).Orderly
    split
    · refine ⟨fun table there => ?_, fun table there key stored => ?_⟩
      · cases there
        exact Table.sound_empty
      · cases there
        rw [Table.find?_empty] at stored
        cases stored
    · exact orderly
  | drop => exact orderly_of_table_eq_none rfl
  | edit fault? edits =>
    cases fault? with
    | some fault => exact orderly
    | none =>
      refine ⟨fun table there => ?_, fun table there => ?_⟩
      · obtain ⟨old, was, rfl⟩ := Option.map_eq_some_iff.1 there
        exact Table.sound_edits (orderly.sound old was) edits
      · obtain ⟨old, was, rfl⟩ := Option.map_eq_some_iff.1 there
        exact admitted_edits edits (admitted rfl) (orderly.admitted old was)
  | keep => exact orderly

end Store

theorem Service.orderly_act {service : Service} (orderly : service.store.Orderly)
    (action : Action) : (service.act action).store.Orderly := by
  rw [(service.act_effect action).1]
  exact Store.orderly_onStore orderly _ (action.admitted_effect _)

end KeyWatch
