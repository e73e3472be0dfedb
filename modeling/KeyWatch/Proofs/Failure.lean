/-
# Proofs.Failure -- what a call leaves that fails

A call on a service is settled before a byte of its output is written (`Service.settle`): it is
refused, and then nothing has happened (`settle_of_refused`), or it has done all that it does and its
output is known. Only then the output goes to the sink (`call_eq`). So a refusal finds everything as
it was, and a sink that fails has no say in what is stored, in what watchers are told, or in what the
output is (`call_atomic`).
-/
import KeyWatch.Proofs.Reference

namespace KeyWatch

set_option autoImplicit false

/-! ## Calls -/

/-- What is asked of a service that has a table: to change keys and values, to watch, or to answer. A
reading, a deletion and a listing write to the sink of the caller. -/
inductive Call where
  | write (pairs : List (String × String))
  | read (keys : List String)
  | delete (keys : List String)
  | put (key value : String)
  | get (key : String)
  | erase (key : String)
  | watch (key : String) (watcher : Watcher)
  | unwatch (key : String) (client : ClientId)
  | isWatched (key : String) (client : ClientId)
  | showAll
  deriving Repr, DecidableEq

namespace Service

/-- Carry out a call whose output goes to a sink. -/
def call (service : Service) (sink : Sink) : Call → Except Error Answer × Sink × Service
  | .write pairs =>
    let (result, after) := service.write pairs
    (result.map fun _ => .done, sink, after)
  | .read keys =>
    let (result, sink) := service.read keys sink
    (result.map fun _ => .done, sink, service)
  | .delete keys =>
    let (result, sink, after) := service.delete keys sink
    (result.map fun _ => .done, sink, after)
  | .put key value =>
    let (result, after) := service.apply (service.store.put key value)
    (result.map fun _ => .done, sink, after)
  | .get key => ((service.store.get key).map .value, sink, service)
  | .erase key =>
    let (result, after) := service.apply (service.store.erase key)
    (result.map .existed, sink, after)
  | .watch key watcher =>
    let (result, after) := service.apply (service.store.watch key watcher)
    (result.map .existed, sink, after)
  | .unwatch key client =>
    let (result, after) := service.apply (service.store.unwatch key client)
    (result.map .existed, sink, after)
  | .isWatched key client => ((service.store.isWatched key client).map .existed, sink, service)
  | .showAll =>
    let (result, sink) := service.showAll sink
    (result.map fun _ => .done, sink, service)

/-! ## Settling a call -/

/-- What a call answers and what it is going to write, and the service once that is known. -/
def settle (service : Service) : Call → Except Error (Answer × String) × Service
  | .write pairs =>
    let (result, after) := service.write pairs
    (result.map fun _ => (.done, ""), after)
  | .read keys => ((service.store.read keys).map fun line => (.done, line), service)
  | .delete keys =>
    let (result, after) := service.apply (service.store.delete keys)
    (result.map fun missing => (.done, Store.missingLine missing), after)
  | .put key value =>
    let (result, after) := service.apply (service.store.put key value)
    (result.map fun _ => (.done, ""), after)
  | .get key => ((service.store.get key).map fun found => (.value found, ""), service)
  | .erase key =>
    let (result, after) := service.apply (service.store.erase key)
    (result.map fun existed => (.existed existed, ""), after)
  | .watch key watcher =>
    let (result, after) := service.apply (service.store.watch key watcher)
    (result.map fun existed => (.existed existed, ""), after)
  | .unwatch key client =>
    let (result, after) := service.apply (service.store.unwatch key client)
    (result.map fun removed => (.existed removed, ""), after)
  | .isWatched key client =>
    ((service.store.isWatched key client).map fun watched => (.existed watched, ""), service)
  | .showAll => (service.store.showAll.map fun text => (.done, text), service)

/-- Write what a call has settled to its sink; a refusal writes nothing. -/
def deliver (sink : Sink) :
    Except Error (Answer × String) × Service → Except Error Answer × Sink × Service
  | (.error error, after) => (.error error, sink, after)
  | (.ok (answer, text), after) =>
    let (result, sink) := output sink text
    (result.map fun _ => answer, sink, after)

theorem output_empty (sink : Sink) : output sink "" = (.ok (), sink) := by
  have nothing : Text.utf8 "" = [] := by decide
  rw [output, nothing, Sink.writeAll, if_pos rfl]
  rfl

/-- A call without output leaves its sink alone. -/
theorem deliver_silent {α : Type} (sink : Sink) (result : Except Error α) (wrap : α → Answer)
    (after : Service) :
    deliver sink (result.map fun answer => (wrap answer, ""), after)
      = (result.map wrap, sink, after) := by
  cases result with
  | error error => rfl
  | ok answer =>
    show ((output sink "").1.map fun _ => wrap answer, (output sink "").2, after) = _
    rw [output_empty]
    rfl

/-- A call that answers in its sink alone. -/
theorem deliver_written (sink : Sink) (text : Except Error String) (after : Service) :
    deliver sink (text.map fun text => (.done, text), after)
      = ((written sink text).1.map fun _ => .done, (written sink text).2, after) := by
  cases text with
  | error error => rfl
  | ok text => rfl

/-- **A call is settled first, and written then.** -/
theorem call_eq (service : Service) (sink : Sink) (call : Call) :
    service.call sink call = deliver sink (service.settle call) := by
  cases call with
  | write pairs => exact (deliver_silent sink _ (fun _ => .done) _).symm
  | read keys =>
    refine Eq.trans ?_ (deliver_written sink _ service).symm
    rw [← read_eq_written]
    rfl
  | delete keys =>
    have settled : service.settle (.delete keys)
        = (((service.apply (service.store.delete keys)).1.map Store.missingLine).map
            fun text => (.done, text), (service.apply (service.store.delete keys)).2) := by
      show (((service.apply (service.store.delete keys)).1.map fun missing => _), _) = _
      cases (service.apply (service.store.delete keys)).1 with
      | error error => rfl
      | ok missing => rfl
    rw [settled, deliver_written]
    show ((service.delete keys sink).1.map fun _ => Answer.done, (service.delete keys sink).2) = _
    rw [delete_eq_written]
  | put key value => exact (deliver_silent sink _ (fun _ => .done) _).symm
  | get key => exact (deliver_silent sink _ Answer.value _).symm
  | erase key => exact (deliver_silent sink _ Answer.existed _).symm
  | watch key watcher => exact (deliver_silent sink _ Answer.existed _).symm
  | unwatch key client => exact (deliver_silent sink _ Answer.existed _).symm
  | isWatched key client => exact (deliver_silent sink _ Answer.existed _).symm
  | showAll =>
    refine Eq.trans ?_ (deliver_written sink _ service).symm
    show ((service.showAll sink).1.map fun _ => Answer.done, (service.showAll sink).2, service) = _
    unfold Service.showAll written
    cases service.store.showAll with
    | error error => rfl
    | ok text => rfl

end Service

/-! ## Refusals -/

/-- The error comes from a stream. -/
def Error.IsIo (error : Error) : Prop := ∃ fault, error = .io fault

namespace Settings

variable (settings : Settings)

theorem not_isIo_of_keyFault? {key : String} {error : Error}
    (refused : settings.keyFault? key = some error) : ¬ error.IsIo := by
  rintro ⟨fault, rfl⟩
  unfold keyFault? at refused
  split at refused
  · cases refused
  · cases refused

theorem not_isIo_of_sizeFault? {length : Nat} {error : Error}
    (refused : settings.sizeFault? length = some error) : ¬ error.IsIo := by
  rintro ⟨fault, rfl⟩
  unfold sizeFault? at refused
  split at refused
  · cases refused
  split at refused
  · cases refused
  · cases refused

theorem not_isIo_of_pairFault? {pair : String × String} {error : Error}
    (refused : settings.pairFault? pair = some error) : ¬ error.IsIo := by
  rcases Option.or_eq_some_iff.1 refused with key | ⟨-, value⟩
  · exact settings.not_isIo_of_keyFault? key
  · rintro ⟨fault, rfl⟩
    unfold valueFault? at value
    split at value
    · cases value
    · cases value

theorem not_isIo_of_keysFault? {keys : List String} {error : Error}
    (refused : settings.keysFault? keys = some error) : ¬ error.IsIo := by
  rcases Option.or_eq_some_iff.1 refused with size | ⟨-, element⟩
  · exact settings.not_isIo_of_sizeFault? size
  · obtain ⟨key, -, offending⟩ := List.exists_of_findSome?_eq_some element
    exact settings.not_isIo_of_keyFault? offending

theorem not_isIo_of_pairsFault? {pairs : List (String × String)} {error : Error}
    (refused : settings.pairsFault? pairs = some error) : ¬ error.IsIo := by
  rcases Option.or_eq_some_iff.1 refused with size | ⟨-, element⟩
  · exact settings.not_isIo_of_sizeFault? size
  · obtain ⟨pair, -, offending⟩ := List.exists_of_findSome?_eq_some element
    exact settings.not_isIo_of_pairFault? offending

end Settings

/-- An operation is refused for its fault, or for a missing table. -/
theorem Store.given_eq_error {α : Type} {store : Store} {fault? : Option Error} {act : Table → α}
    {error : Error} (refused : store.given fault? act = .error error) :
    fault? = some error ∨ fault? = none ∧ store.table = none ∧ error = .notInitialized := by
  unfold Store.given at refused
  cases fault? with
  | some fault =>
    cases refused
    exact .inl rfl
  | none =>
    cases there : store.table with
    | none =>
      rw [there] at refused
      cases refused
      exact .inr ⟨rfl, rfl, rfl⟩
    | some table =>
      rw [there] at refused
      cases refused

/-! ## What a call does -/

namespace Call

/-- What is wrong with what a call was given. -/
def fault? (settings : Settings) : Call → Option Error
  | write pairs => settings.pairsFault? pairs
  | read keys => settings.keysFault? keys
  | delete keys => settings.keysFault? keys
  | put key value => settings.pairsFault? [(key, value)]
  | get key => settings.keyFault? key
  | erase key => settings.keyFault? key
  | watch key _ => settings.keyFault? key
  | unwatch key _ => settings.keyFault? key
  | isWatched key _ => settings.keyFault? key
  | showAll => none

/-- The edits that a call makes. -/
def edits : Call → List Edit
  | write pairs => puts pairs
  | delete keys => deletes keys
  | put key value => puts [(key, value)]
  | erase key => [.delete key]
  | watch key watcher => [.watch key watcher]
  | unwatch key client => [.unwatch key client]
  | _ => []

/-- What a call answers and writes, by the table that it finds. -/
def told (table : Table) : Call → Answer × String
  | write _ => (.done, "")
  | read keys =>
    (.done, Store.readLine ((Ordered.ascendingBy id keys).map fun key =>
      (key, (table.find? key).map (·.value))))
  | delete keys =>
    (.done, Store.missingLine ((eachOnce keys).filter fun key => (table.find? key).isNone))
  | put _ _ => (.done, "")
  | get key => (.value ((table.find? key).map (·.value)), "")
  | erase key => (.existed (table.find? key).isSome, "")
  | watch key _ => (.existed (table.find? key).isSome, "")
  | unwatch key client => (.existed ((watchersAt (table.find? key)).has client), "")
  | isWatched key client => (.existed ((watchersAt (table.find? key)).has client), "")
  | showAll =>
    (.done, String.join (((Held.all .read).buckets table).map fun bucket =>
      String.join (bucket.entries.map fun entry => entryLine entry.key entry.value)))

/-- No call is refused for a fault of a stream. -/
theorem not_isIo_of_fault? {settings : Settings} {call : Call} {error : Error}
    (refused : call.fault? settings = some error) : ¬ error.IsIo := by
  cases call with
  | write pairs => exact settings.not_isIo_of_pairsFault? refused
  | read keys => exact settings.not_isIo_of_keysFault? refused
  | delete keys => exact settings.not_isIo_of_keysFault? refused
  | put key value => exact settings.not_isIo_of_pairsFault? refused
  | showAll => cases refused
  | _ => exact settings.not_isIo_of_keyFault? refused

end Call

namespace Service

variable {service : Service}

theorem after_nil (service : Service) (fault? : Option Error) : service.after fault? [] = service := by
  have store : service.store.after fault? [] = service.store := by
    obtain ⟨⟨settings, table?⟩, exchange, files, backups, warnings⟩ := service
    cases fault? with
    | some fault => rfl
    | none => cases table? <;> rfl
  have owed : service.store.owed fault? [] = [] := by
    unfold Store.owed
    cases fault? with
    | some fault => rfl
    | none => cases service.store.table <;> rfl
  unfold Service.after
  rw [store, owed]
  exact service.announce_nil

/-- A refused operation has done nothing. -/
theorem after_of_refused {α : Type} {fault? : Option Error} {act : Table → α} {error : Error}
    (refused : service.store.given fault? act = .error error) (edits : List Edit) :
    service.after fault? edits = service := by
  have nothing : service.after fault? edits = service.after fault? [] := by
    rcases Store.given_eq_error refused with rfl | ⟨rfl, gone, -⟩
    · rfl
    · unfold Service.after Store.after Store.owed
      dsimp only
      rw [gone]
      rfl
  rw [nothing, after_nil]

/-- **A call is refused, or answers from the table and makes its edits.** -/
theorem settle_eq (service : Service) (call : Call) :
    service.settle call
      = (service.store.given (call.fault? service.store.settings) call.told,
          service.after (call.fault? service.store.settings) call.edits) := by
  -- an operation that edits, as a call
  have edited : ∀ {α : Type} (result : Except Error α × Service) (fault? : Option Error)
      (act : Table → α) (edits : List Edit) (wrap : α → Answer × String),
      result = (service.store.given fault? act, service.after fault? edits) →
        (result.1.map wrap, result.2)
          = (service.store.given fault? fun table => wrap (act table),
              service.after fault? edits) := by
    rintro α _ fault? act edits wrap rfl
    rw [Store.given_map]
  -- and one that only looks
  have seen : ∀ {α : Type} (result : Except Error α) (fault? : Option Error) (act : Table → α)
      (wrap : α → Answer × String), result = service.store.given fault? act →
        (result.map wrap, service)
          = (service.store.given fault? fun table => wrap (act table), service.after fault? []) := by
    rintro α _ fault? act wrap rfl
    rw [Store.given_map, after_nil]
  cases call with
  | write pairs => exact edited _ _ _ _ (fun _ => (.done, "")) (service.apply_write pairs)
  | read keys => exact seen _ _ _ (fun line => (.done, line)) (service.store.read_eq keys)
  | delete keys =>
    exact edited _ _ _ _ (fun missing => (.done, Store.missingLine missing))
      (service.apply_delete keys)
  | put key value =>
    exact edited _ _ _ _ (fun _ => (.done, "")) (service.apply_write [(key, value)])
  | get key => exact seen _ _ _ (fun found => (.value found, "")) (service.store.get_eq key)
  | erase key => exact edited _ _ _ _ (fun existed => (.existed existed, "")) (service.apply_erase key)
  | watch key watcher =>
    exact edited _ _ _ _ (fun existed => (.existed existed, "")) (service.apply_watch key watcher)
  | unwatch key client =>
    have removed := service.apply_unwatch key client
    rw [Store.isWatched_eq] at removed
    exact edited _ _ _ _ (fun removed => (.existed removed, "")) removed
  | isWatched key client =>
    exact seen _ _ _ (fun watched => (.existed watched, "")) (service.store.isWatched_eq key client)
  | showAll =>
    refine seen _ _ _ (fun text => (.done, text)) ?_
    unfold Store.showAll Store.requireTable Store.given
    cases service.store.table with
    | none => rfl
    | some table => rfl

/-! ## Output -/

theorem output_eq (sink : Sink) (text : String) :
    output sink text
      = ((sink.writeAll (Text.utf8 text)).1.mapError .io, (sink.writeAll (Text.utf8 text)).2) := rfl

/-- A sink takes a text from its front, and is to blame if it does not take all of it. -/
theorem output_taken (sink : Sink) (text : String) :
    (∃ front rest, front ++ rest = Text.utf8 text
      ∧ (output sink text).2.taken = sink.taken ++ front)
      ∧ ∀ error, (output sink text).1 = .error error → error.IsIo := by
  obtain ⟨front, ⟨rest, whole⟩, taken, -⟩ := sink.writeAll_taken (Text.utf8 text)
  refine ⟨⟨front, rest, whole, taken⟩, fun error failed => ?_⟩
  rw [output_eq] at failed
  cases written : (sink.writeAll (Text.utf8 text)).1 with
  | ok _ =>
    rw [written] at failed
    cases failed
  | error fault =>
    rw [written] at failed
    cases failed
    exact ⟨fault, rfl⟩

theorem output_of_takesAll {sink : Sink} (takesAll : sink.TakesAll) (text : String) :
    output sink text = (.ok (), { sink with taken := sink.taken ++ Text.utf8 text }) := by
  rw [output_eq, Sink.writeAll_of_takesAll takesAll]
  rfl

/-- **A call is refused with nothing done, or done with nothing left but its output.** Which of the two
it is, and what is done, does not depend on the sink. -/
theorem call_cases (service : Service) (call : Call) :
    (∃ error, ¬ error.IsIo ∧ ∀ sink, service.call sink call = (.error error, sink, service))
      ∨ ∃ table after, service.store.table = some table
        ∧ call.fault? service.store.settings = none
        ∧ ∀ sink, service.call sink call
          = ((output sink (call.told table).2).1.map fun _ => (call.told table).1,
              (output sink (call.told table).2).2, after) := by
  have settled := service.settle_eq call
  cases given : service.store.given (call.fault? service.store.settings) call.told with
  | error error =>
    left
    rw [given, after_of_refused given] at settled
    refine ⟨error, ?_, fun sink => ?_⟩
    · rcases Store.given_eq_error given with fault | ⟨-, -, rfl⟩
      · exact Call.not_isIo_of_fault? fault
      · rintro ⟨fault, same⟩
        cases same
    · rw [call_eq, settled]
      rfl
  | ok told =>
    right
    obtain ⟨admitted, table, there, rfl⟩ := (Store.given_eq_ok_iff _ _ _).1 given
    rw [given] at settled
    refine ⟨table, service.after (call.fault? service.store.settings) call.edits, there, admitted,
      fun sink => ?_⟩
    rw [call_eq, settled]
    rfl

/-- A deletion that found every key has nothing to write. -/
theorem told_delete_of_stored (table : Table) {keys : List String}
    (stored : ∀ key ∈ keys, (table.find? key).isSome = true) :
    Call.told table (.delete keys) = (.done, "") := by
  have none : ((eachOnce keys).filter fun key => (table.find? key).isNone) = [] := by
    rw [List.filter_eq_nil_iff]
    intro key member
    have here := stored key ((mem_eachOnce keys key).1 member)
    rw [Option.isNone_iff_eq_none, ← Option.not_isSome_iff_eq_none, not_not]
    exact here
  show (Answer.done, Store.missingLine ((eachOnce keys).filter _)) = _
  rw [none]
  rfl

/-- **A call is refused with nothing done, or done whatever its sink takes.** The service after a call
is the same with every sink. If the call fails, but not for the sink, nothing has changed: neither the
service, with its entries and the channels of its watchers, nor the sink. If it fails for the sink, the
same call succeeds on a sink that takes everything, and what was taken is a front part of its output. A
deletion fails for the sink only if it named a key that was not stored. -/
theorem call_atomic (service : Service) (call : Call) (sink other : Sink)
    (takesAll : other.TakesAll) :
    let done := service.call sink call
    let whole := service.call other call
    done.2.2 = whole.2.2
      ∧ (∀ error, done.1 = .error error → ¬ error.IsIo → done.2 = (sink, service))
      ∧ (∀ error, done.1 = .error error → error.IsIo →
          (∃ answer, whole.1 = .ok answer)
          ∧ ∃ front rest, whole.2.1.taken = other.taken ++ (front ++ rest)
            ∧ done.2.1.taken = sink.taken ++ front)
      ∧ (∀ keys error, call = .delete keys → done.1 = .error error → error.IsIo →
          ∃ key ∈ keys, service.store.get key = .ok none) := by
  intro done whole
  obtain ⟨refusal, others, refused⟩ | ⟨table, after, there, admitted, carried⟩ :=
    service.call_cases call
  · -- the only error is the refusal, for which no sink is to blame
    have first : done = (.error refusal, sink, service) := refused sink
    have second : whole = (.error refusal, other, service) := refused other
    have only : ∀ error, done.1 = .error error → ¬ error.IsIo := by
      intro error failed
      rw [first] at failed
      cases failed
      exact others
    refine ⟨by rw [first, second], fun _ _ _ => by rw [first], ?_, ?_⟩
    · intro error failed io
      exact absurd io (only error failed)
    · intro keys error _ failed io
      exact absurd io (only error failed)
  · obtain ⟨⟨front, rest, text, taken⟩, blame⟩ := output_taken sink (call.told table).2
    have first : done = (_, _, after) := carried sink
    have second : whole = (.ok (call.told table).1,
        { other with taken := other.taken ++ Text.utf8 (call.told table).2 }, after) := by
      refine (carried other).trans ?_
      rw [output_of_takesAll takesAll]
      rfl
    refine ⟨by rw [first, second], ?_, ?_, ?_⟩
    · intro error failed others
      rw [first] at failed
      cases written : (output sink (call.told table).2).1 with
      | ok _ =>
        rw [written] at failed
        cases failed
      | error fault =>
        rw [written] at failed
        cases failed
        exact absurd (blame error written) others
    · intro error _ _
      rw [second, first]
      refine ⟨⟨_, rfl⟩, front, rest, ?_, taken⟩
      rw [text]
    · rintro keys error rfl failed -
      by_contra stored
      -- with every key stored there is nothing to write, and every sink takes that
      have silent : Call.told table (.delete keys) = (.done, "") := by
        refine told_delete_of_stored table fun key member => ?_
        by_contra missing
        refine stored ⟨key, member, ?_⟩
        rw [Store.get_eq, Store.given_eq_ok_iff]
        refine ⟨Settings.keyFault?_of_keysFault? admitted key member, table, there, ?_⟩
        rw [Option.not_isSome_iff_eq_none.1 missing]
        rfl
      rw [first, silent, output_empty] at failed
      cases failed

/-- A deletion that found one key of two, on a sink with room for three bytes. -/
theorem call_atomic_full_sink :
    let table : Table := ({} : Table).edit (.put "a" "1")
    let service : Service := { store := { settings := {}, table := some table } }
    let sink : Sink := { room := some 3 }
    let call : Call := .delete ["b", "a"]
    ({} : Sink).TakesAll ∧ (service.call sink call).1 = .error (.io .nothingWritten)
      ∧ (service.call sink call).2.2 = (service.call {} call).2.2
      ∧ (∃ front rest, (service.call {} call).2.1.taken = [] ++ (front ++ rest)
        ∧ (service.call sink call).2.1.taken = [] ++ front)
      ∧ ∃ key ∈ ["b", "a"], service.store.get key = .ok none := by
  intro table service sink call
  have healthy : ({} : Sink).TakesAll := ⟨rfl, nofun⟩
  have ascending : eachOnce ["b", "a"] = ["a", "b"] :=
    Ordered.eq_of_ascending (pairwise_eachOnce _) (by decide) fun key => by
      rw [mem_eachOnce, List.mem_pair, List.mem_pair, or_comm]
  have told : call.told table = (.done, "[(b,KVSMISSING)]\n") := by
    show (Answer.done, Store.missingLine ((eachOnce ["b", "a"]).filter _)) = _
    rw [ascending]
    decide +kernel
  have full : (output sink "[(b,KVSMISSING)]\n").1 = .error (.io .nothingWritten) := by
    decide +kernel
  have failed : (service.call sink call).1 = .error (.io .nothingWritten) := by
    rw [call_eq, settle_eq]
    show ((output sink (call.told table).2).1.map fun _ => (call.told table).1) = _
    rw [told, full]
    rfl
  have io : (Error.io .nothingWritten).IsIo := ⟨_, rfl⟩
  obtain ⟨same, -, cut, missing⟩ := call_atomic service call sink {} healthy
  exact ⟨healthy, failed, same, (cut _ failed io).2, missing _ _ rfl failed io⟩

end Service

end KeyWatch
