/-
# Proofs.Reference -- a store is a finite map that is there or not

The reference has no buckets, no locks and no order of its own: its state is a finite map from keys
to values, or nothing before `init` and after `terminate`. `Reference.perform` says what each
operation answers, writes and leaves. `Service.perform` is the same operation on the service that
runs, with bytes taken from the sink that it was given. `perform_outcome` and `perform_onward`
compare the two for one operation, `run_refines` for a sequence.
-/
import KeyWatch.Proofs.Contents
import KeyWatch.Proofs.Service
import KeyWatch.Proofs.Sink

namespace KeyWatch

set_option autoImplicit false

/-! ## Operations and what they answer -/

/-- An operation of a store; a reading and a deletion write to a sink. -/
inductive Operation where
  | init
  | terminate
  | put (key value : String)
  | write (pairs : List (String × String))
  | get (key : String)
  | read (keys : List String) (sink : Sink)
  | erase (key : String)
  | delete (keys : List String) (sink : Sink)
  | size
  deriving Repr, DecidableEq

/-- The sink of an operation, if it has one, takes everything. -/
def Operation.Heard : Operation → Prop
  | .read _ sink => sink.TakesAll
  | .delete _ sink => sink.TakesAll
  | _ => True

/-- What an operation answers that succeeds. -/
inductive Answer where
  | done
  | value (found : Option String)
  | existed (found : Bool)
  | count (size : Nat)
  deriving Repr, DecidableEq

/-- The result of an operation, and the bytes that it wrote. -/
structure Outcome where
  result : Except Error Answer
  output : Bytes := []

/-! ## The reference -/

namespace Reference

/-- What is answered from the contents, unless there is a fault or there are no contents. -/
def given {α : Type} (fault? : Option Error) (state : Option Contents) (act : Contents → α) :
    Except Error α :=
  match fault?, state with
  | some fault, _ => .error fault
  | none, none => .error .notInitialized
  | none, some contents => .ok (act contents)

/-- The state after a change that a fault prevents. -/
def changed (fault? : Option Error) (state : Option Contents) (change : Contents → Contents) :
    Option Contents :=
  if fault? = none then state.map change else state

/-- Keys, each with a text, on a line between brackets. -/
def line (parts : List (String × String)) : Bytes :=
  Text.utf8 ("[" ++ String.join (parts.map fun part => "(" ++ part.1 ++ "," ++ part.2 ++ ")")
    ++ "]\n")

/-- The answer to a reading: every key that was asked for, in the order of bytes. -/
def readOutput (keys : List String) (contents : Contents) : Bytes :=
  line ((Ordered.byBytes keys).map fun key => (key, (contents.lookup key).getD "KVSERROR"))

/-- The keys of a deletion that are not stored, each once and in the order of bytes. -/
def missing (keys : List String) (contents : Contents) : List String :=
  Ordered.byBytes (keys.dedup.filter fun key => key ∉ contents)

/-- The answer to a deletion: nothing if every key was stored. -/
def deleteOutput (keys : List String) (contents : Contents) : Bytes :=
  if missing keys contents = [] then []
  else line ((missing keys contents).map fun key => (key, "KVSMISSING"))

/-- The outcome that has an answer and an output, and no output if it has no answer. -/
def outcome : Except Error (Answer × Bytes) → Outcome
  | .error error => { result := .error error }
  | .ok (answer, output) => { result := .ok answer, output }

/-- **What an operation does,** in terms of keys and values alone. -/
def perform (settings : Settings) (state : Option Contents) :
    Operation → Outcome × Option Contents
  | .init =>
    match state with
    | none => (⟨.ok .done, []⟩, some ∅)
    | some _ => (⟨.error .alreadyInitialized, []⟩, state)
  | .terminate =>
    match state with
    | none => (⟨.error .notInitialized, []⟩, none)
    | some _ => (⟨.ok .done, []⟩, none)
  | .put key value =>
    let fault? := settings.pairsFault? [(key, value)]
    (outcome (given fault? state fun _ => (.done, [])),
      changed fault? state fun contents => contents.insert key value)
  | .write pairs =>
    let fault? := settings.pairsFault? pairs
    (outcome (given fault? state fun _ => (.done, [])),
      changed fault? state fun contents => contents.assign pairs)
  | .get key =>
    (outcome (given (settings.keyFault? key) state fun contents =>
      (.value (contents.lookup key), [])), state)
  | .read keys _ =>
    (outcome (given (settings.keysFault? keys) state fun contents =>
      (.done, readOutput keys contents)), state)
  | .erase key =>
    let fault? := settings.keyFault? key
    (outcome (given fault? state fun contents => (.existed (key ∈ contents), [])),
      changed fault? state fun contents => contents.erase key)
  | .delete keys _ =>
    let fault? := settings.keysFault? keys
    (outcome (given fault? state fun contents => (.done, deleteOutput keys contents)),
      changed fault? state fun contents => contents.without keys)
  | .size =>
    (outcome (given none state fun contents => (.count contents.keys.card, [])), state)

/-- The state after an operation. -/
def next (settings : Settings) (state : Option Contents) (operation : Operation) :
    Option Contents :=
  (perform settings state operation).2

/-- The outcomes of operations in order. -/
def run (settings : Settings) (state : Option Contents) : List Operation → List Outcome
  | [] => []
  | operation :: rest =>
    (perform settings state operation).1 :: run settings (next settings state operation) rest

end Reference

/-! ## The service at work -/

namespace Service

/-- Carry out an operation. Its output is what its sink took meanwhile. -/
def perform (service : Service) : Operation → Outcome × Service
  | .init => (⟨service.init.1.map fun _ => .done, []⟩, service.init.2)
  | .terminate => (⟨service.terminate.1.map fun _ => .done, []⟩, service.terminate.2)
  | .put key value =>
    let (result, after) := service.apply (service.store.put key value)
    (⟨result.map fun _ => .done, []⟩, after)
  | .write pairs =>
    let (result, after) := service.write pairs
    (⟨result.map fun _ => .done, []⟩, after)
  | .get key => (⟨(service.store.get key).map .value, []⟩, service)
  | .read keys sink =>
    let (result, taking) := service.read keys sink
    (⟨result.map fun _ => .done, taking.taken.drop sink.taken.length⟩, service)
  | .erase key =>
    let (result, after) := service.apply (service.store.erase key)
    (⟨result.map .existed, []⟩, after)
  | .delete keys sink =>
    let (result, taking, after) := service.delete keys sink
    (⟨result.map fun _ => .done, taking.taken.drop sink.taken.length⟩, after)
  | .size => (⟨service.store.size.map .count, []⟩, service)

/-- The outcomes of operations in order. -/
def run (service : Service) : List Operation → List Outcome
  | [] => []
  | operation :: rest =>
    (service.perform operation).1 :: run (service.perform operation).2 rest

end Service

/-! ## Order of the answers -/

/-- A batch names each of its keys once, in the order of bytes. -/
theorem filter_eachOnce (keys : List String) (wanted : String → Bool) :
    (eachOnce keys).filter wanted = Ordered.byBytes (keys.dedup.filter wanted) := by
  refine Ordered.eq_of_ascending ((pairwise_eachOnce keys).filter _)
    (Ordered.pairwise_byBytes ((List.nodup_dedup keys).filter _)) fun key => ?_
  rw [Ordered.mem_byBytes, List.mem_filter, List.mem_filter, mem_eachOnce, List.mem_dedup]

/-! ## The simulation -/

/-- The reference stands where the store stands. -/
def Store.Refines (store : Store) (state : Option Contents) : Prop :=
  Option.Rel Table.Holds store.table state

namespace Store.Refines

variable {store : Store} {state : Option Contents} {α β : Type}

/-- Both refuse for the same reason, or both answer, the one from its table, the other from the
contents of that table. -/
theorem given (refines : store.Refines state) (fault? : Option Error) (act : Table → α)
    (spec : Contents → α)
    (agree : ∀ table contents, table.Holds contents → act table = spec contents) :
    store.given fault? act = Reference.given fault? state spec := by
  unfold Store.given
  obtain ⟨settings, table?⟩ := store
  cases fault? with
  | some fault => rfl
  | none =>
    cases refines with
    | none => rfl
    | @some table contents holds => exact congrArg Except.ok (agree table contents holds)

theorem after (refines : store.Refines state) (fault? : Option Error) (edits : List Edit)
    (change : Contents → Contents)
    (agree : fault? = none → ∀ table contents, table.Holds contents →
      (edits.foldl Table.edit table).Holds (change contents)) :
    (store.after fault? edits).Refines (Reference.changed fault? state change) := by
  unfold Store.after Reference.changed
  obtain ⟨settings, table?⟩ := store
  cases fault? with
  | some fault => exact refines
  | none =>
    cases refines with
    | none => exact Option.Rel.none
    | @some table contents holds => exact Option.Rel.some (agree rfl table contents holds)

end Store.Refines

theorem Table.Holds.isSome_find? {table : Table} {contents : Contents} (holds : table.Holds contents)
    (key : String) : (table.find? key).isSome = decide (key ∈ contents) := by
  rw [Bool.eq_iff_iff, decide_eq_true_iff, ← Finmap.lookup_isSome, holds.lookup, Option.isSome_map]

namespace Service

/-! ## Answers in a sink -/

/-- Write an answer, if there is one, to a sink. -/
def written (sink : Sink) : Except Error String → Except Error Unit × Sink
  | .error error => (.error error, sink)
  | .ok text => output sink text

theorem read_eq_written (service : Service) (keys : List String) (sink : Sink) :
    service.read keys sink = written sink (service.store.read keys) := by
  unfold read written
  cases service.store.read keys <;> rfl

theorem delete_eq_written (service : Service) (keys : List String) (sink : Sink) :
    service.delete keys sink
      = ((written sink ((service.apply (service.store.delete keys)).1.map Store.missingLine)).1,
          (written sink ((service.apply (service.store.delete keys)).1.map Store.missingLine)).2,
          (service.apply (service.store.delete keys)).2) := by
  unfold delete
  obtain ⟨result, after⟩ := service.apply (service.store.delete keys)
  cases result <;> rfl

/-- A sink that takes everything takes an answer as it is, and nothing of a refusal. -/
theorem written_of_takesAll {sink : Sink} (takesAll : sink.TakesAll)
    (answer : Except Error String) :
    (⟨(written sink answer).1.map fun _ => .done,
        (written sink answer).2.taken.drop sink.taken.length⟩ : Outcome)
      = Reference.outcome (answer.map fun text => (.done, Text.utf8 text)) := by
  cases answer with
  | error error =>
    have nothing : sink.taken.drop sink.taken.length = [] := List.drop_length
    exact congrArg (Outcome.mk _) nothing
  | ok text =>
    have taken : output sink text = (.ok (), { sink with taken := sink.taken ++ Text.utf8 text }) := by
      rw [output, Sink.writeAll_of_takesAll takesAll]
      rfl
    have added : (sink.taken ++ Text.utf8 text).drop sink.taken.length = Text.utf8 text :=
      List.drop_left
    show (⟨(output sink text).1.map fun _ => .done,
      (output sink text).2.taken.drop sink.taken.length⟩ : Outcome) = _
    rw [taken]
    exact congrArg (Outcome.mk _) added

end Service

/-! ## One operation -/

namespace Store.Refines

variable {store : Store} {state : Option Contents} {α : Type}

/-- An answer without output, read from the table by the one and from its contents by the other. -/
theorem outcome (refines : store.Refines state) (fault? : Option Error) (answer : Table → α)
    (wrap : α → Answer) (spec : Contents → Answer)
    (agree : ∀ table contents, table.Holds contents → wrap (answer table) = spec contents) :
    (⟨(store.given fault? answer).map wrap, []⟩ : Outcome)
      = Reference.outcome (Reference.given fault? state fun contents => (spec contents, [])) := by
  have same := refines.given fault? (fun table => (wrap (answer table), ([] : Bytes)))
    (fun contents => (spec contents, [])) fun table contents holds => by
      rw [agree table contents holds]
  rw [← same]
  unfold Store.given
  cases fault? with
  | some fault => rfl
  | none => cases store.table <;> rfl

/-- An answer that is written out. -/
theorem outcome_written (refines : store.Refines state) {sink : Sink} (takesAll : sink.TakesAll)
    (fault? : Option Error) (text : Table → String) (spec : Contents → Bytes)
    (agree : ∀ table contents, table.Holds contents → Text.utf8 (text table) = spec contents) :
    (⟨(Service.written sink (store.given fault? text)).1.map fun _ => .done,
        (Service.written sink (store.given fault? text)).2.taken.drop sink.taken.length⟩ : Outcome)
      = Reference.outcome (Reference.given fault? state fun contents => (.done, spec contents)) := by
  have same := refines.given fault? (fun table => (Answer.done, Text.utf8 (text table)))
    (fun contents => (.done, spec contents)) fun table contents holds => by
      rw [agree table contents holds]
  rw [Service.written_of_takesAll takesAll, ← same]
  unfold Store.given
  cases fault? with
  | some fault => rfl
  | none => cases store.table <;> rfl

end Store.Refines

theorem utf8_readLine {table : Table} {contents : Contents} (holds : table.Holds contents)
    (keys : List String) :
    Text.utf8 (Store.readLine ((Ordered.ascendingBy id keys).map fun key =>
        (key, (table.find? key).map (·.value))))
      = Reference.readOutput keys contents := by
  have values : (fun key => (key, (contents.lookup key).getD "KVSERROR"))
      = fun key => (key, ((table.find? key).map (·.value)).getD notFoundText) := by
    funext key
    rw [holds.lookup]
    rfl
  unfold Reference.readOutput
  rw [Ordered.byBytes_eq, values, Store.readLine, List.map_map]
  rfl

theorem utf8_missingLine {table : Table} {contents : Contents} (holds : table.Holds contents)
    (keys : List String) :
    Text.utf8 (Store.missingLine ((eachOnce keys).filter fun key => (table.find? key).isNone))
      = Reference.deleteOutput keys contents := by
  have absent : (fun key => (table.find? key).isNone) = fun key => decide (key ∉ contents) := by
    funext key
    rw [decide_not, ← holds.isSome_find?, Option.not_isSome]
  have missing : ((eachOnce keys).filter fun key => (table.find? key).isNone)
      = Reference.missing keys contents := by
    rw [absent, filter_eachOnce]
    rfl
  rw [missing]
  unfold Reference.deleteOutput
  cases Reference.missing keys contents with
  | nil => rfl
  | cons first rest =>
    rw [if_neg (List.cons_ne_nil _ _)]
    rfl

/-- **An operation of the service leaves what the reference leaves,** whatever its sink takes. -/
theorem Service.perform_onward {service : Service} {state : Option Contents}
    (refines : service.store.Refines state) (operation : Operation) :
    (service.perform operation).2.store.Refines
        (Reference.next service.store.settings state operation)
      ∧ (service.perform operation).2.store.settings = service.store.settings := by
  -- one pair is written as a batch
  have write : ∀ pairs : List (String × String),
      (service.apply (service.store.write pairs)).2.store.Refines
          (Reference.next service.store.settings state (.write pairs))
        ∧ (service.apply (service.store.write pairs)).2.store.settings = service.store.settings := by
    intro pairs
    rw [apply_write]
    refine ⟨refines.after _ _ _ fun admitted table contents holds => ?_, Store.after_settings _ _ _⟩
    exact Table.holds_puts holds pairs (Settings.placed_of_pairsFault? admitted)
  cases operation with
  | init =>
    obtain ⟨⟨settings, table?⟩, exchange, files, backups, warnings⟩ := service
    cases refines with
    | none => exact ⟨Option.Rel.some Table.holds_empty, rfl⟩
    | some holds => exact ⟨Option.Rel.some holds, rfl⟩
  | terminate =>
    show service.terminate.2.store.Refines _ ∧ service.terminate.2.store.settings = _
    rw [terminate_store]
    refine ⟨?_, rfl⟩
    cases state with
    | none => exact Option.Rel.none
    | some contents => exact Option.Rel.none
  | put key value => exact write [(key, value)]
  | write pairs => exact write pairs
  | erase key =>
    show (service.apply (service.store.erase key)).2.store.Refines _
      ∧ (service.apply (service.store.erase key)).2.store.settings = _
    rw [apply_erase]
    refine ⟨refines.after _ _ _ fun admitted table contents holds => ?_, Store.after_settings _ _ _⟩
    exact Table.holds_edit holds (.delete key) (Settings.placed_of_keyFault? admitted)
  | delete keys sink =>
    show (service.delete keys sink).2.2.store.Refines _
      ∧ (service.delete keys sink).2.2.store.settings = _
    rw [delete_eq_written, apply_delete]
    refine ⟨refines.after _ _ _ fun admitted table contents holds => ?_, Store.after_settings _ _ _⟩
    exact Table.holds_deletes holds keys (Settings.placed_of_keysFault? admitted)
  | _ => exact ⟨refines, rfl⟩

/-- **An operation of the service has the outcome that it has in the reference.** -/
theorem Service.perform_outcome {service : Service} {state : Option Contents}
    (refines : service.store.Refines state) (operation : Operation) (heard : operation.Heard) :
    (service.perform operation).1
      = (Reference.perform service.store.settings state operation).1 := by
  have write : ∀ pairs : List (String × String),
      (⟨(service.apply (service.store.write pairs)).1.map fun _ => .done, []⟩ : Outcome)
        = (Reference.perform service.store.settings state (.write pairs)).1 := by
    intro pairs
    rw [apply_write]
    exact refines.outcome _ _ _ _ fun _ _ _ => rfl
  cases operation with
  | init =>
    obtain ⟨⟨settings, table?⟩, exchange, files, backups, warnings⟩ := service
    cases refines with
    | none => rfl
    | some holds => rfl
  | terminate =>
    have asked := service.finishBackups_store
    show (⟨service.terminate.1.map _, []⟩ : Outcome) = _
    unfold terminate
    dsimp only
    rw [asked]
    obtain ⟨⟨settings, table?⟩, exchange, files, backups, warnings⟩ := service
    cases refines with
    | none => rfl
    | some holds => rfl
  | put key value => exact write [(key, value)]
  | write pairs => exact write pairs
  | get key =>
    show (⟨(service.store.get key).map .value, []⟩ : Outcome) = _
    rw [Store.get_eq]
    refine refines.outcome _ _ _ _ ?_
    intro table contents holds
    rw [holds.lookup]
  | read keys sink =>
    show (⟨(service.read keys sink).1.map _, (service.read keys sink).2.taken.drop _⟩ : Outcome) = _
    rw [read_eq_written, Store.read_eq]
    exact refines.outcome_written heard _ _ _ fun table contents holds => utf8_readLine holds keys
  | erase key =>
    show (⟨(service.apply (service.store.erase key)).1.map _, []⟩ : Outcome) = _
    rw [apply_erase]
    refine refines.outcome _ _ _ _ ?_
    intro table contents holds
    rw [holds.isSome_find?]
  | delete keys sink =>
    have text := Store.given_map service.store (service.store.settings.keysFault? keys)
      (fun table => (eachOnce keys).filter fun key => (table.find? key).isNone) Store.missingLine
    show (⟨(service.delete keys sink).1.map _, (service.delete keys sink).2.1.taken.drop _⟩ : Outcome)
      = _
    rw [delete_eq_written, apply_delete]
    dsimp only
    rw [text]
    exact refines.outcome_written heard _ _ _ fun table contents holds =>
      utf8_missingLine holds keys
  | size =>
    show (⟨service.store.size.map .count, []⟩ : Outcome) = _
    rw [Store.size_eq]
    refine refines.outcome _ _ _ _ ?_
    intro table contents holds
    rw [Table.size_of_holds holds]

/-! ## Sequences of operations -/

theorem Service.run_refines {service : Service} {state : Option Contents}
    (refines : service.store.Refines state) (operations : List Operation)
    (heard : ∀ operation ∈ operations, operation.Heard) :
    service.run operations = Reference.run service.store.settings state operations := by
  induction operations generalizing service state with
  | nil => rfl
  | cons operation rest ih =>
    have outcome := perform_outcome refines operation (heard operation (by simp))
    obtain ⟨onward, settings⟩ := perform_onward refines operation
    have later := ih onward fun other member => heard other (List.mem_cons_of_mem _ member)
    show (service.perform operation).1 :: (service.perform operation).2.run rest = _
    rw [outcome, later, settings]
    rfl

/-- **A store is a finite map that is there or not.** From a store without a table on, every
sequence of operations has the outcomes of the reference, byte for byte. And no operation misses a
bucket: a set that is held for keys gives access to the bucket of each of them. -/
theorem Service.run_eq_reference (service : Service) (operations : List Operation)
    (fresh : service.store.table = none) (heard : ∀ operation ∈ operations, operation.Heard) :
    service.run operations = Reference.run service.store.settings none operations
      ∧ ∀ (keys : List String) (mode : Access) (held : Held), Held.ofKeys keys mode = .ok held →
        ∀ key ∈ keys, ∃ index, bucketOf key = .ok index ∧ ∀ table : Table,
          held.bucket? table index = some (table.bucket index)
            ∧ (mode = .write → ∀ (α : Type) (change : Bucket → Update Bucket α),
              held.update? table index change = some (table.updateAt index change)) := by
  refine ⟨?_, ?_⟩
  · have start : service.store.Refines none := by
      show Option.Rel Table.Holds service.store.table none
      rw [fresh]
      exact Option.Rel.none
    exact run_refines start operations heard
  · intro keys mode held planned key member
    obtain ⟨asked, covers⟩ := Held.covers_of_ofKeys planned
    obtain ⟨index, home, holds⟩ := covers key member
    refine ⟨index, home, fun table => ⟨Held.bucket?_of_holds holds table, ?_⟩⟩
    intro writing α change
    exact Held.update?_of_holds holds (asked.trans writing) table change

/-- A batch with a repeated key, and a reading of it in two bytes at a time. -/
theorem run_eq_reference_repeated_key :
    let service : Service := { store := { settings := {} } }
    let operations : List Operation :=
      [.init, .write [("b", "1"), ("a", "2"), ("b", "3")], .read ["b", "a", "c", "b"] { chunk := some 2 },
        .delete ["c", "a"] {}, .terminate, .size]
    service.store.table = none ∧ (∀ operation ∈ operations, operation.Heard)
      ∧ service.run operations = Reference.run {} none operations := by
  intro service operations
  have heard : ∀ operation ∈ operations, operation.Heard := by
    intro operation member
    simp only [operations, List.mem_cons, List.not_mem_nil, or_false] at member
    rcases member with rfl | rfl | rfl | rfl | rfl | rfl
    · trivial
    · trivial
    · exact ⟨rfl, by simp [Sink.Flows]⟩
    · exact ⟨rfl, by simp [Sink.Flows]⟩
    · trivial
    · trivial
  exact ⟨rfl, heard, (Service.run_eq_reference service operations rfl heard).1⟩

end KeyWatch
