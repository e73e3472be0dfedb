/-
# Proofs.Locality -- a command knows the keys that it names, and no others

What a command of a script answers depends on the values of the keys that it names (`Alike.execute`),
and only they have other values after it (`value?_execute`). Listing the store and starting a backup
are not like that: they look at everything that is stored.

Values are all that counts here. Which entries share a bucket, and where in it they are, a command
cannot tell.
-/
import KeyWatch.Proofs.Assignment
import KeyWatch.Proofs.Restoring
import KeyWatch.Proofs.Script

namespace KeyWatch

set_option autoImplicit false

/-! ## Values -/

namespace Store

/-- The value of a key, if there is a table and the key is stored. -/
def value? (store : Store) (key : String) : Option String :=
  (store.table.bind (·.find? key)).map (·.value)

/-- Two stores with a table, and with the same values of some keys under the same settings. -/
structure Agrees (keys : Set String) (store other : Store) : Prop where
  settings : store.settings = other.settings
  made : store.isInitialized = true
  made' : other.isInitialized = true
  values : ∀ key ∈ keys, store.value? key = other.value? key

theorem value?_of_table {store : Store} {table : Table} (there : store.table = some table)
    (key : String) : store.value? key = (table.find? key).map (·.value) := by
  rw [value?, there, Option.bind_some]

/-- **Reading a key finds its value.** -/
theorem get_of_initialized {store : Store} (made : store.isInitialized = true) (key : String) :
    store.get key
      = (refuse (store.settings.keyFault? key)).map fun _ => store.value? key := by
  obtain ⟨table, there⟩ := Option.isSome_iff_exists.1 made
  rw [get_eq, value?_of_table there]
  unfold given
  rw [there]
  cases store.settings.keyFault? key <;> rfl

variable {keys : Set String} {store other : Store} {α : Type}

theorem Agrees.refl (made : store.isInitialized = true) : store.Agrees keys store :=
  ⟨rfl, made, made, fun _ _ => rfl⟩

/-- What is answered from the same values is the same. -/
theorem Agrees.given (agrees : store.Agrees keys other) (fault? : Option Error)
    {answer : Table → α}
    (same : ∀ table table' : Table, (∀ key ∈ keys,
      (table.find? key).map (·.value) = (table'.find? key).map (·.value)) →
        answer table = answer table') :
    store.given fault? answer = other.given fault? answer := by
  obtain ⟨table, there⟩ := Option.isSome_iff_exists.1 agrees.made
  obtain ⟨table', there'⟩ := Option.isSome_iff_exists.1 agrees.made'
  have alike := same table table' fun key member => by
    rw [← value?_of_table there, ← value?_of_table there', agrees.values key member]
  unfold Store.given
  rw [there, there']
  cases fault? with
  | some fault => rfl
  | none => exact congrArg Except.ok alike

theorem Agrees.read (agrees : store.Agrees keys other) {named : List String}
    (known : ∀ key ∈ named, key ∈ keys) : store.read named = other.read named := by
  rw [read_eq, read_eq, agrees.settings]
  refine agrees.given _ fun table table' same => congrArg readLine (List.map_congr_left ?_)
  intro key member
  rw [same key (known key ((Ordered.mem_ascendingBy _ _ _).1 member))]

/-- What a deletion does not find. -/
theorem Agrees.missing (agrees : store.Agrees keys other) {named : List String}
    (known : ∀ key ∈ named, key ∈ keys) (fault? : Option Error) :
    (store.given fault? fun table => (eachOnce named).filter fun key => (table.find? key).isNone)
      = other.given fault? fun table =>
          (eachOnce named).filter fun key => (table.find? key).isNone := by
  refine agrees.given _ fun table table' same => List.filter_congr fun key member => ?_
  have value := same key (known key ((mem_eachOnce named key).1 member))
  rw [← Option.isNone_map, value, Option.isNone_map]

end Store

namespace Job

/-! ## What a command leaves -/

namespace Command

/-- The keys that a command names. -/
def named : Command → List String
  | write pairs => pairs.map Prod.fst
  | read keys => keys
  | delete keys => keys
  | _ => []

/-- A command that does not look at everything that is stored. -/
def isLocal : Command → Bool
  | showAll => false
  | backup => false
  | _ => true

/-- The value of a key after a command, by the one before. -/
def leaves (settings : Settings) (key : String) (before : Option String) :
    Command → Option String
  | write pairs =>
    if settings.pairsFault? pairs = none then (Contents.lastValue? pairs key).or before else before
  | delete keys => if settings.keysFault? keys = none ∧ key ∈ keys then none else before
  | _ => before

/-- **A key that a command does not name keeps its value.** -/
theorem leaves_of_not_mem {settings : Settings} {command : Command} {key : String}
    (apart : key ∉ command.named) (before : Option String) :
    command.leaves settings key before = before := by
  cases command with
  | write pairs =>
    have nothing : Contents.lastValue? pairs key = none := by
      rw [← Option.not_isSome_iff_eq_none, Contents.isSome_lastValue?_iff]
      exact apart
    show (if _ then _ else _) = _
    rw [nothing, Option.none_or, ite_self]
  | delete keys => exact if_neg fun both => apart both.2
  | _ => rfl

end Command

namespace Run

variable (run : Run) (job : String) (command : Command)

theorem settings_execute : (run.execute job command).2.service.store.settings
    = run.service.store.settings := by
  rw [store_execute, Effect.settings_onStore]

theorem isInitialized_execute (made : run.service.store.isInitialized = true) :
    (run.execute job command).2.service.store.isInitialized = true := by
  have kept : ∀ fault? edits, (run.service.store.after fault? edits).isInitialized = true := by
    intro fault? edits
    cases fault? with
    | some fault => exact made
    | none => exact (Option.isSome_map ..).trans made
  rw [store_execute]
  cases command with
  | write pairs => exact kept _ _
  | delete keys => exact kept _ _
  | _ => exact made

/-- **The values after a command** are those before, but for the keys that it writes or deletes. -/
theorem value?_execute (made : run.service.store.isInitialized = true) (key : String) :
    (run.execute job command).2.service.store.value? key
      = command.leaves run.service.store.settings key (run.service.store.value? key) := by
  obtain ⟨table, there⟩ := Option.isSome_iff_exists.1 made
  rw [store_execute]
  cases command with
  | write pairs =>
    show (run.service.store.after _ (puts pairs)).value? key = if _ then _ else _
    cases admitted : run.service.store.settings.pairsFault? pairs with
    | some fault => rfl
    | none =>
      have placed := Settings.placed_of_pairsFault? admitted
      have values := table.value_puts (lastPairs pairs)
        (fun pair kept => placed pair (mem_of_mem_lastPairs kept)) key
      rw [if_pos rfl, Store.value?_of_table there, ← Contents.lastValue?_lastPairs, ← values]
      refine Store.value?_of_table ?_ key
      show run.service.store.table.map _ = _
      rw [there]
      rfl
  | delete keys =>
    show (run.service.store.after _ (deletes keys)).value? key = if _ then _ else _
    cases admitted : run.service.store.settings.keysFault? keys with
    | some fault => rfl
    | none =>
      have gone := table.find?_deletes keys (Settings.placed_of_keysFault? admitted) key
      have after : (run.service.store.after none (deletes keys)).table
          = some ((deletes keys).foldl Table.edit table) := by
        show run.service.store.table.map _ = _
        rw [there]
        rfl
      rw [Store.value?_of_table after, gone, Store.value?_of_table there]
      by_cases named : key ∈ keys
      · rw [if_pos named, if_pos ⟨rfl, named⟩]
        rfl
      · rw [if_neg named, if_neg fun both => named both.2]
  | _ => rfl

/-! ## What a command answers -/

/-- Two runs that have said the same and counted the same, on stores that agree about some keys. -/
structure Alike (keys : Set String) (run other : Run) : Prop where
  store : run.service.store.Agrees keys other.service.store
  out : run.out = other.out
  report : run.report = other.report
  printed : run.printed = other.printed
  milliseconds : run.milliseconds = other.milliseconds

namespace Alike

variable {run other : Run} {keys : Set String}

theorem count (alike : run.Alike keys other) : run.count.Alike keys other.count :=
  ⟨alike.store, alike.out, congrArg (fun report => { report with commands := report.commands + 1 })
    alike.report, alike.printed, alike.milliseconds⟩

theorem fail (alike : run.Alike keys other) (warning : Warning) :
    (run.fail warning).Alike keys (other.fail warning) :=
  ⟨alike.store, alike.out, congrArg (fun report => { report with failed := report.failed + 1 })
    alike.report, alike.printed, alike.milliseconds⟩

/-- The stores still agree after a command, whatever it names. -/
theorem store_execute (alike : run.Alike keys other) (job : String) (command : Command) :
    (run.execute job command).2.service.store.Agrees keys
      (other.execute job command).2.service.store where
  settings := by rw [settings_execute, settings_execute, alike.store.settings]
  made := isInitialized_execute run job command alike.store.made
  made' := isInitialized_execute other job command alike.store.made'
  values := fun key member => by
    rw [value?_execute run job command alike.store.made,
      value?_execute other job command alike.store.made', alike.store.settings,
      alike.store.values key member]

/-- **A command answers the same** on stores that agree about the keys that it names. -/
theorem execute (alike : run.Alike keys other) (job : String) {command : Command}
    (isLocal : command.isLocal = true) (known : ∀ key ∈ command.named, key ∈ keys) :
    (run.execute job command).1 = (other.execute job command).1
      ∧ (run.execute job command).2.Alike keys (other.execute job command).2 := by
  have store := alike.store_execute job command
  obtain ⟨service, out, report, printed, milliseconds⟩ := run
  obtain ⟨service', out', report', printed', milliseconds'⟩ := other
  obtain ⟨agrees, rfl, rfl, rfl, rfl⟩ := alike
  dsimp only at agrees
  cases command with
  | write pairs =>
    have written : (service.write pairs).1 = (service'.write pairs).1 := by
      unfold Service.write
      rw [Service.apply_write, Service.apply_write, agrees.settings]
      exact agrees.given _ fun _ _ _ => rfl
    exact ⟨written, store, rfl, rfl, rfl, rfl⟩
  | read named =>
    have same : service.store.read named = service'.store.read named := agrees.read known
    have answered : (service.read named out).1 = (service'.read named out).1
        ∧ (service.read named out).2 = (service'.read named out).2 := by
      rw [Service.read_eq_written, Service.read_eq_written, same]
      exact ⟨rfl, rfl⟩
    exact ⟨answered.1, store, answered.2, rfl, rfl, rfl⟩
  | delete named =>
    have missing : (service.apply (service.store.delete named)).1
        = (service'.apply (service'.store.delete named)).1 := by
      rw [Service.apply_delete, Service.apply_delete, agrees.settings]
      exact agrees.missing known _
    have answered : (service.delete named out).1 = (service'.delete named out).1
        ∧ (service.delete named out).2.1 = (service'.delete named out).2.1 := by
      rw [Service.delete_eq_written, Service.delete_eq_written, missing]
      exact ⟨rfl, rfl⟩
    exact ⟨answered.1, store, answered.2, rfl, rfl, rfl⟩
  | wait delay =>
    cases delay with
    | zero => exact ⟨rfl, store, rfl, rfl, rfl, rfl⟩
    | succ delay =>
      refine ⟨?_, store, ?_, ?_, ?_, ?_⟩ <;> unfold Run.execute <;> dsimp only
        <;> rcases Service.output out waitingLine with ⟨result, after⟩ <;> cases result <;> rfl
  | help => exact ⟨rfl, store, rfl, rfl, rfl, rfl⟩
  | showAll => cases isLocal
  | backup => cases isLocal

end Alike

/-! ## Lines -/

/-- **A line does the same** on stores that agree about the keys that its command names. -/
theorem Alike.line {run other : Run} {keys : Set String} (alike : run.Alike keys other)
    (job : String) (number : Nat) {text : String}
    (isLocal : ∀ command ∈ command? text, command.isLocal = true)
    (known : ∀ command ∈ command? text, ∀ key ∈ command.named, key ∈ keys) :
    (run.line job number text).Alike keys (other.line job number text) := by
  unfold Run.line
  unfold command? at isLocal known
  cases parsed : Command.parse text with
  | error fault => exact alike.count.fail _
  | ok found? =>
    rw [parsed] at isLocal known
    cases found? with
    | none => exact alike
    | some command =>
      obtain ⟨same, after⟩ := alike.count.execute job (isLocal command rfl) (known command rfl)
      dsimp only
      rcases first : run.count.execute job command with ⟨result, ran⟩
      rcases second : other.count.execute job command with ⟨result', ran'⟩
      rw [first, second] at same after
      dsimp only at same after
      subst same
      cases result with
      | ok _ => exact after
      | error error => exact after.fail _

/-- **A line leaves the values of other keys** than its command names, and the settings. -/
theorem agrees_line (run : Run) (made : run.service.store.isInitialized = true) (job : String)
    (number : Nat) {text : String} {keys : Set String}
    (apart : ∀ command ∈ command? text, ∀ key ∈ keys, key ∉ command.named) :
    (run.line job number text).service.store.Agrees keys run.service.store := by
  have kept : ∀ (command : Command), (∀ key ∈ keys, key ∉ command.named) →
      (run.count.execute job command).2.service.store.Agrees keys run.service.store :=
    fun command apart => {
      settings := settings_execute run.count job command
      made := isInitialized_execute run.count job command made
      made' := made
      values := fun key member => (value?_execute run.count job command made key).trans
        (Command.leaves_of_not_mem (apart key member) _) }
  unfold Run.line
  unfold command? at apart
  cases parsed : Command.parse text with
  | error fault => exact .refl made
  | ok found? =>
    rw [parsed] at apart
    cases found? with
    | none => exact .refl made
    | some command =>
      have left := kept command (apart command rfl)
      dsimp only
      rcases done : run.count.execute job command with ⟨result, ran⟩
      rw [done] at left
      cases result with
      | ok _ => exact left
      | error error => exact left

end Run

end Job

end KeyWatch
