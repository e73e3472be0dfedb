/-
# Proofs.Watching -- which entries carry the record of which client

`Store.watchersOf` gives the watchers of the present entry of a key. What becomes of them is one
equation for any action (`Service.watchersOf_act`): they stay, or they go with their entry, and only
watching and unwatching change them in place. `Store.Carries` says that a client is among them; in
an orderly store this is what the entries of the table say (`carries_iff_exists_entry`).
-/
import KeyWatch.Proofs.Action

namespace KeyWatch

set_option autoImplicit false

/-! ## Lists of watchers -/

namespace Watchers

theorem has_add (watchers : Watchers) (watcher : Watcher) (client : ClientId) :
    (watchers.add watcher).has client = true
      ↔ watchers.has client = true ∨ watcher.client = client := by
  unfold add
  split
  · next known =>
    constructor
    · intro here
      exact .inl here
    · rintro (here | rfl)
      · exact here
      · exact known
  · simp [has, List.any_append]

theorem has_remove (watchers : Watchers) (gone client : ClientId) :
    (watchers.remove gone).has client = true ↔ watchers.has client = true ∧ client ≠ gone := by
  simp only [has, remove, List.any_filter, List.any_eq_true, Bool.and_eq_true, bne_iff_ne,
    beq_iff_eq]
  constructor
  · rintro ⟨watcher, member, apart, rfl⟩
    exact ⟨⟨watcher, member, rfl⟩, apart⟩
  · rintro ⟨⟨watcher, member, rfl⟩, apart⟩
    exact ⟨watcher, member, apart, rfl⟩

end Watchers

/-! ## Watchers after edits -/

namespace Table

variable (table : Table)

theorem watchersAt_edit (edit : Edit) (placed : (bucketOf? edit.key).isSome = true) (key : String) :
    watchersAt ((table.edit edit).find? key)
      = if key = edit.key then watchersAt (edit.onEntry (table.find? edit.key))
        else watchersAt (table.find? key) := by
  rw [find?_edit _ _ placed]
  split <;> rfl

/-- Edits that keep the watchers of their keys keep all watchers. -/
theorem watchersAt_edits_of_keeps (edits : List Edit)
    (placed : ∀ edit ∈ edits, (bucketOf? edit.key).isSome = true)
    (keeps : ∀ edit ∈ edits, ∀ found, watchersAt (edit.onEntry found) = watchersAt found)
    (key : String) :
    watchersAt ((edits.foldl Table.edit table).find? key) = watchersAt (table.find? key) := by
  induction edits generalizing table with
  | nil => rfl
  | cons edit rest ih =>
    have later := ih (table.edit edit) (fun other member => placed other (by simp [member]))
      fun other member => keeps other (by simp [member])
    refine later.trans ?_
    rw [watchersAt_edit _ _ (placed edit (by simp))]
    by_cases hit : key = edit.key
    · rw [if_pos hit, keeps edit (by simp), hit]
    · rw [if_neg hit]

theorem find?_deletes (keys : List String)
    (placed : ∀ key ∈ keys, (bucketOf? key).isSome = true) (wanted : String) :
    ((deletes keys).foldl Table.edit table).find? wanted
      = if wanted ∈ keys then none else table.find? wanted := by
  have each : ∀ (table : Table) (items : List String),
      (∀ key ∈ items, (bucketOf? key).isSome = true) →
        ((items.map Edit.delete).foldl Table.edit table).find? wanted
          = if wanted ∈ items then none else table.find? wanted := by
    intro table items
    induction items generalizing table with
    | nil =>
      intro _
      rfl
    | cons first rest ih =>
      intro homes
      have later := ih (table.edit (.delete first)) fun key member =>
        homes key (List.mem_cons_of_mem _ member)
      refine later.trans ?_
      rw [find?_edit table (.delete first) (homes first (by simp))]
      by_cases behind : wanted ∈ rest
      · rw [if_pos behind, if_pos (List.mem_cons_of_mem _ behind)]
      · rw [if_neg behind]
        by_cases hit : wanted = first
        · rw [if_pos (show wanted = (Edit.delete first).key from hit), if_pos (by simp [hit])]
          rfl
        · rw [if_neg (show ¬ wanted = (Edit.delete first).key from hit),
            if_neg (by simp [hit, behind])]
  have all := each table (eachOnce keys) fun key member => placed key ((mem_eachOnce keys key).1 member)
  simp only [mem_eachOnce] at all
  exact all

end Table

namespace Store

/-- The watchers of the present entry of a key. -/
def watchersOf (store : Store) (key : String) : Watchers :=
  watchersAt (store.table.bind fun table => table.find? key)

variable {store : Store}

theorem watchersOf_of_table {table : Table} (there : store.table = some table) (key : String) :
    store.watchersOf key = watchersAt (table.find? key) := by
  rw [watchersOf, there, Option.bind_some]

theorem exists_of_watchersOf {key : String} (some : store.watchersOf key ≠ []) :
    ∃ table entry, store.table = .some table ∧ table.find? key = .some entry
      ∧ entry.watchers = store.watchersOf key := by
  unfold watchersOf at some ⊢
  cases there : store.table with
  | none =>
    rw [there] at some
    exact absurd rfl some
  | some table =>
    rw [there] at some
    rw [Option.bind_some] at some ⊢
    cases found : table.find? key with
    | none =>
      rw [found] at some
      exact absurd rfl some
    | some entry => exact ⟨table, entry, rfl, found, rfl⟩

/-- In an orderly store a key that is watched is admitted. -/
theorem keyFault?_of_watchersOf (orderly : store.Orderly) {key : String}
    (some : store.watchersOf key ≠ []) : store.settings.keyFault? key = none := by
  obtain ⟨table, entry, there, found, -⟩ := exists_of_watchersOf some
  refine orderly.admitted table there key ?_
  rw [found]
  rfl

theorem watchersOf_puts (fault? : Option Error) (pairs : List (String × String))
    (placed : fault? = none → ∀ edit ∈ puts pairs, (bucketOf? edit.key).isSome = true)
    (key : String) :
    (store.after fault? (puts pairs)).watchersOf key = store.watchersOf key := by
  cases fault? with
  | some fault => rfl
  | none =>
    obtain ⟨settings, table?⟩ := store
    cases table? with
    | none => rfl
    | some table =>
      refine Table.watchersAt_edits_of_keeps table (puts pairs) (placed rfl) ?_ key
      intro edit member found
      obtain ⟨pair, _, rfl⟩ := List.mem_map.1 member
      rfl

theorem watchersOf_deletes (fault? : Option Error) (keys : List String)
    (placed : fault? = none → ∀ key ∈ keys, (bucketOf? key).isSome = true) (key : String) :
    (store.after fault? (deletes keys)).watchersOf key
      = if fault? = none ∧ key ∈ keys then [] else store.watchersOf key := by
  cases fault? with
  | some fault => simp [after]
  | none =>
    obtain ⟨settings, table?⟩ := store
    cases table? with
    | none =>
      show [] = if _ then [] else []
      rw [ite_self]
    | some table =>
      show watchersAt (((deletes keys).foldl Table.edit table).find? key)
        = if _ then _ else watchersAt (table.find? key)
      rw [Table.find?_deletes table keys (placed rfl)]
      by_cases member : key ∈ keys
      · rw [if_pos member, if_pos ⟨rfl, member⟩]
        rfl
      · rw [if_neg member, if_neg (fun both => member both.2)]

theorem watchersOf_watch (key : String) (watcher : Watcher) (other : String) :
    (store.after (store.settings.keyFault? key) [.watch key watcher]).watchersOf other
      = if other = key ∧ store.finds key = .ok true then (store.watchersOf key).add watcher
        else store.watchersOf other := by
  unfold finds given
  cases refused : store.settings.keyFault? key with
  | some fault => simp [after]
  | none =>
    obtain ⟨settings, table?⟩ := store
    cases table? with
    | none => simp [after, watchersOf]
    | some table =>
      have placed := Settings.placed_of_keyFault? refused
      have one := Table.watchersAt_edit table (.watch key watcher) placed other
      refine one.trans ?_
      by_cases hit : other = key
      · rw [if_pos (show other = (Edit.watch key watcher).key from hit)]
        show watchersAt ((table.find? key).map _)
          = if _ ∧ Except.ok (table.find? key).isSome = .ok true then
              (watchersAt (table.find? key)).add watcher
            else watchersAt (table.find? other)
        by_cases stored : (table.find? key).isSome = true
        · obtain ⟨entry, found⟩ := Option.isSome_iff_exists.1 stored
          rw [if_pos ⟨hit, congrArg Except.ok stored⟩, found]
          rfl
        · have missing : ¬ (other = key
              ∧ (Except.ok (table.find? key).isSome : Except Error Bool) = .ok true) := by
            rintro ⟨_, found⟩
            exact stored (Except.ok.inj found)
          rw [if_neg missing, hit, Option.not_isSome_iff_eq_none.1 stored]
          rfl
      · rw [if_neg (show ¬ other = (Edit.watch key watcher).key from hit),
          if_neg (fun all => hit all.1)]
        rfl

theorem watchersOf_unwatch (orderly : store.Orderly) (key : String) (client : ClientId)
    (other : String) :
    (store.after (store.settings.keyFault? key) [.unwatch key client]).watchersOf other
      = if other = key then (store.watchersOf key).remove client else store.watchersOf other := by
  cases refused : store.settings.keyFault? key with
  | some fault =>
    -- a key that is refused is not stored, and has no watchers
    have bare : store.watchersOf key = [] := by
      by_contra some
      have admitted := keyFault?_of_watchersOf orderly some
      rw [refused] at admitted
      cases admitted
    show store.watchersOf other = _
    split
    · next hit =>
      rw [hit, bare]
      rfl
    · rfl
  | none =>
    obtain ⟨settings, table?⟩ := store
    cases table? with
    | none =>
      show [] = if other = key then Watchers.remove [] client else []
      split <;> rfl
    | some table =>
      have placed := Settings.placed_of_keyFault? refused
      have one := Table.watchersAt_edit table (.unwatch key client) placed other
      refine one.trans ?_
      by_cases hit : other = key
      · rw [if_pos (show other = (Edit.unwatch key client).key from hit), if_pos hit]
        show watchersAt ((table.find? key).map _) = (watchersAt (table.find? key)).remove client
        cases table.find? key <;> rfl
      · rw [if_neg (show ¬ other = (Edit.unwatch key client).key from hit), if_neg hit]
        rfl

end Store

/-! ## Any action -/

/-- The operation takes the entry of a key away. -/
def Operation.removes (settings : Settings) (key : String) : Operation → Bool
  | .terminate => true
  | .erase other => settings.keyFault? other = none ∧ key = other
  | .delete keys _ => settings.keysFault? keys = none ∧ key ∈ keys
  | _ => false

/-- The watchers of a key after an action. -/
def Action.leavesWatching (store : Store) (key : String) : Action → Watchers
  | .perform operation =>
    if operation.removes store.settings key then [] else store.watchersOf key
  | .watch other watcher =>
    if key = other ∧ store.finds other = .ok true then (store.watchersOf key).add watcher
    else store.watchersOf key
  | .unwatch other client =>
    if key = other then (store.watchersOf key).remove client else store.watchersOf key
  | _ => store.watchersOf key

/-- **Watchers stay, or go with their entry;** only watching and unwatching change them in place. -/
theorem Service.watchersOf_act {service : Service} (orderly : service.store.Orderly)
    (action : Action) (key : String) :
    (service.act action).store.watchersOf key = action.leavesWatching service.store key := by
  rw [(service.act_effect action).1]
  have placed := fun (pairs : List (String × String))
      (admitted : service.store.settings.pairsFault? pairs = none) (edit : Edit)
      (member : edit ∈ puts pairs) =>
    Settings.placed_of_keyFault? (Action.admitted_puts service.store.settings pairs admitted edit member)
  cases action with
  | perform operation =>
    cases operation with
    | init =>
      show (if service.store.table = none then (⟨service.store.settings, some {}⟩ : Store)
        else service.store).watchersOf key = service.store.watchersOf key
      split
      · next fresh =>
        unfold Store.watchersOf
        rw [fresh, Option.bind_some, Table.find?_empty, Option.bind_none]
      · rfl
    | terminate => rfl
    | put other value => exact Store.watchersOf_puts _ _ (placed [(other, value)]) key
    | write pairs => exact Store.watchersOf_puts _ _ (placed pairs) key
    | erase other =>
      have gone := @Store.watchersOf_deletes service.store
        (service.store.settings.keyFault? other) [other] (fun admitted key member => by
          rw [List.mem_singleton.1 member]
          exact Settings.placed_of_keyFault? admitted) key
      rw [deletes_singleton] at gone
      refine gone.trans ?_
      show _ = if decide _ = true then _ else _
      simp only [List.mem_singleton, decide_eq_true_eq]
    | delete keys sink =>
      have gone := @Store.watchersOf_deletes service.store
        (service.store.settings.keysFault? keys) keys Settings.placed_of_keysFault? key
      refine gone.trans ?_
      show _ = if decide _ = true then _ else _
      simp only [decide_eq_true_eq]
    | _ => rfl
  | watch other watcher =>
    refine (Store.watchersOf_watch other watcher key).trans ?_
    show _ = if _ then (service.store.watchersOf key).add watcher else _
    split
    · next both => rw [both.1]
    · rfl
  | unwatch other client =>
    refine (Store.watchersOf_unwatch orderly other client key).trans ?_
    show _ = if _ then (service.store.watchersOf key).remove client else _
    split
    · next same => rw [same]
    · rfl
  | _ => rfl

/-! ## Records -/

namespace Store

/-- The present entry of a key has a client among its watchers. -/
def Carries (store : Store) (key : String) (client : ClientId) : Prop :=
  (store.watchersOf key).has client = true

variable {store : Store}

theorem not_carries_of_table_eq_none (gone : store.table = none) (key : String)
    (client : ClientId) : ¬ store.Carries key client := by
  unfold Carries watchersOf
  rw [gone]
  exact Bool.false_ne_true

theorem watchersOf_of_carries {key : String} {client : ClientId}
    (carries : store.Carries key client) : store.watchersOf key ≠ [] := by
  intro nobody
  unfold Carries at carries
  rw [nobody] at carries
  cases carries

/-- **Records are on the entries of the table.** -/
theorem carries_iff_exists_entry (orderly : store.Orderly) (key : String) (client : ClientId) :
    store.Carries key client ↔ ∃ table entry, store.table = some table ∧ entry ∈ table.entries
      ∧ entry.key = key ∧ entry.watchers.has client = true := by
  constructor
  · intro carries
    obtain ⟨table, entry, there, found, watchers⟩ :=
      exists_of_watchersOf (watchersOf_of_carries carries)
    have named := Table.key_of_find? found
    refine ⟨table, entry, there, ?_, named, ?_⟩
    · rw [Table.mem_entries_iff (orderly.sound table there), named]
      exact found
    · rw [watchers]
      exact carries
  · rintro ⟨table, entry, there, member, rfl, has⟩
    have found := (Table.mem_entries_iff (orderly.sound table there) entry).1 member
    unfold Carries watchersOf
    rw [there, Option.bind_some, found]
    exact has

/-- What a session asks of the store about one of its keys. -/
theorem isWatched_eq_ok_true_iff (orderly : store.Orderly) (key : String) (client : ClientId) :
    store.isWatched key client = .ok true ↔ store.Carries key client := by
  rw [isWatched_eq, given_eq_ok_iff]
  constructor
  · rintro ⟨_, table, there, has⟩
    unfold Carries watchersOf
    rw [there]
    exact has
  · intro carries
    have some := watchersOf_of_carries carries
    obtain ⟨table, entry, there, found, watchers⟩ := exists_of_watchersOf some
    refine ⟨keyFault?_of_watchersOf orderly some, table, there, ?_⟩
    unfold Carries watchersOf at carries
    rw [there] at carries
    exact carries

/-- **Watching a key gives one record,** if the key is stored. -/
theorem carries_watch (key : String) (watcher : Watcher) (other : String) (client : ClientId) :
    (store.after (store.settings.keyFault? key) [.watch key watcher]).Carries other client
      ↔ store.Carries other client
        ∨ store.finds key = .ok true ∧ other = key ∧ client = watcher.client := by
  unfold Carries
  rw [watchersOf_watch]
  by_cases both : other = key ∧ store.finds key = .ok true
  · rw [if_pos both, Watchers.has_add, both.1]
    simp only [both.2, true_and, eq_comm (a := client)]
  · rw [if_neg both]
    constructor
    · intro carries
      exact .inl carries
    · rintro (carries | ⟨found, hit, _⟩)
      · exact carries
      · exact absurd ⟨hit, found⟩ both

/-- **Unwatching a key takes one record,** if there is one. -/
theorem carries_unwatch (orderly : store.Orderly) (key : String) (gone : ClientId) (other : String)
    (client : ClientId) :
    (store.after (store.settings.keyFault? key) [.unwatch key gone]).Carries other client
      ↔ store.Carries other client ∧ ¬ (other = key ∧ client = gone) := by
  unfold Carries
  rw [watchersOf_unwatch orderly]
  by_cases hit : other = key
  · rw [if_pos hit, Watchers.has_remove, hit]
    simp
  · rw [if_neg hit]
    simp [hit]

end Store

/-- **Nothing but its own watching gives a client a record.** -/
theorem Service.carries_of_act {service : Service} (orderly : service.store.Orderly)
    (action : Action) (key : String) (client : ClientId)
    (others : ∀ key watcher, action = .watch key watcher → watcher.client ≠ client)
    (carries : (service.act action).store.Carries key client) : service.store.Carries key client := by
  unfold Store.Carries at carries ⊢
  rw [watchersOf_act orderly] at carries
  cases action with
  | perform operation =>
    change Watchers.has (if _ then _ else _) client = true at carries
    split at carries
    · cases carries
    · exact carries
  | watch other watcher =>
    change Watchers.has (if _ then _ else _) client = true at carries
    split at carries
    · rcases (Watchers.has_add _ _ _).1 carries with before | ours
      · exact before
      · exact absurd ours (others other watcher rfl)
    · exact carries
  | unwatch other gone =>
    change Watchers.has (if _ then _ else _) client = true at carries
    split at carries
    · exact ((Watchers.has_remove _ _ _).1 carries).1
    · exact carries
  | _ => exact carries

end KeyWatch
