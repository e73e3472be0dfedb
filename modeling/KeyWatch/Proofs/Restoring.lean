/-
# Proofs.Restoring -- what a script reads can be written back

The grammar of scripts leaves a mark on whatever a script writes: keys and values have no blanks
around them and are not empty, no key holds a comma, and neither holds a closing parenthesis
(`Plain`). Pairs like that are read from a line as they are shown on it (`parse_pairsLine`),
whatever brackets, commas and opening parentheses stand in the values.

In a store that nothing but scripts have changed (`Store.Scripted`), every entry is like that, line
after line (`Store.restorable_of_scripted`). So the answer to a reading is itself a command that
writes what was read (`read_then_restored`).
-/
import KeyWatch.Job.Script
import KeyWatch.Proofs.Entries
import KeyWatch.Proofs.Grammar

namespace KeyWatch

set_option autoImplicit false

namespace Job.Command

open Text KeyWatch.Command

/-! ## Plain pairs -/

/-- A key and a value as the grammar of scripts leaves them. -/
structure Plain (pair : String × String) : Prop where
  key : Tight pair.1.toList
  value : Tight pair.2.toList
  keySome : pair.1.toList ≠ []
  valueSome : pair.2.toList ≠ []
  keyFree : ',' ∉ pair.1.toList ∧ ')' ∉ pair.1.toList
  valueFree : ')' ∉ pair.2.toList

/-- **Pairs are plain when they have been read.** -/
theorem Pairs.plain {text : List Char} {pairs : List (String × String)}
    (written : Pairs text pairs) : ∀ pair ∈ pairs, Plain pair := by
  induction written with
  | nothing => exact List.forall_mem_nil _
  | @pair gap key value rest pairs _ keyFree valueFree keySome valueSome _ ih =>
    refine List.forall_mem_cons.2 ⟨?_, ih⟩
    constructor <;> dsimp only <;> simp only [String.toList_ofList]
    · exact tight_trim key
    · exact tight_trim value
    · exact keySome
    · exact valueSome
    · exact ⟨mt mem_of_mem_trim keyFree.1, mt mem_of_mem_trim keyFree.2⟩
    · exact mt mem_of_mem_trim valueFree

theorem plain_of_parse {text : String} {pairs : List (String × String)}
    (parsed : parse text = .ok (some (.write pairs))) : ∀ pair ∈ pairs, Plain pair := by
  obtain ⟨-, gap, body, -, -, written⟩ := (parse_eq_some_iff text _).1 parsed
  exact written.plain

/-- A pair as it is shown. -/
def shown (pair : String × String) : List Char :=
  '(' :: (pair.1.toList ++ ',' :: (pair.2.toList ++ [')']))

theorem toList_pairsLine (pairs : List (String × String)) :
    (Store.pairsLine pairs).toList = '[' :: pairs.flatMap shown ++ [']', '\n'] := by
  have each (pair : String × String) :
      ("(" ++ pair.1 ++ "," ++ pair.2 ++ ")").toList = shown pair := by
    simp [shown]
  simp only [Store.pairsLine, String.toList_append, String.toList_join, List.flatMap_map, each]
  rfl

/-- Plain pairs are written where they are shown. -/
theorem pairs_flatMap_shown {pairs : List (String × String)} (plain : ∀ pair ∈ pairs, Plain pair) :
    Pairs (pairs.flatMap shown) pairs := by
  induction pairs with
  | nil => exact .nothing (List.forall_mem_nil _)
  | cons pair rest ih =>
    obtain ⟨first, others⟩ := List.forall_mem_cons.1 plain
    have key := first.key.trim_eq
    have value := first.value.trim_eq
    have found := Pairs.pair (List.forall_mem_nil _) first.keyFree first.valueFree
      (by rw [key]; exact first.keySome) (by rw [value]; exact first.valueSome) (ih others)
    rw [key, value, String.ofList_toList, String.ofList_toList] at found
    simpa only [List.flatMap_cons, shown, List.nil_append, List.append_assoc, List.cons_append]
      using found

/-- **A line of plain pairs is read as a command that writes them.** -/
theorem parse_pairsLine {pairs : List (String × String)} (some : pairs ≠ [])
    (plain : ∀ pair ∈ pairs, Plain pair) :
    parse ("WRITE " ++ Store.pairsLine pairs) = .ok (Option.some (.write pairs)) := by
  let line : List Char := "WRITE".toList ++ [' '] ++ ('[' :: pairs.flatMap shown ++ [']'])
  have whole : ("WRITE " ++ Store.pairsLine pairs).toList = [] ++ line ++ ['\n'] := by
    rw [String.toList_append, toList_pairsLine]
    simp [line]
  have tight : Tight line := by
    refine ⟨fun c first => ?_, fun c last => ?_⟩
    · cases first
      rfl
    · rw [List.getLast?_append, List.getLast?_append] at last
      cases last
      rfl
  have trimmed : trim ("WRITE " ++ Store.pairsLine pairs).toList = line :=
    Trims.eq ⟨tight, [], ['\n'], List.forall_mem_nil _, List.forall_mem_singleton.2 rfl, whole⟩
  refine (parse_eq_some_iff _ _).2 ⟨some, [' '], pairs.flatMap shown, ?_, trimmed, ?_⟩
  · exact List.forall_mem_singleton.2 rfl
  · exact pairs_flatMap_shown plain

/-! ## What commands do to a store -/

/-- The effect of a command under settings. -/
def effect (settings : Settings) : Command → Effect
  | .write pairs => .edit (settings.pairsFault? pairs) (puts pairs)
  | .delete keys => .edit (settings.keysFault? keys) (deletes keys)
  | _ => .keep

theorem admitted_effect (settings : Settings) (command : Command) :
    (command.effect settings).Admitted settings := by
  cases command with
  | write pairs => exact Action.admitted_puts settings pairs
  | delete keys => exact Action.admitted_deletes settings keys
  | _ => trivial

end Job.Command

/-- An entry with a plain pair, whose value is within a limit. -/
structure Entry.Plain (limit : Nat) (entry : Entry) : Prop where
  pair : Job.Command.Plain (entry.key, entry.value)
  value : entry.value.utf8ByteSize ≤ limit

namespace Job

/-- A command that was read keeps entries plain. -/
theorem Command.keeps_effect (settings : Settings) {text : String} {command : Command}
    (parsed : Command.parse text = .ok (some command)) :
    (command.effect settings).Keeps (Entry.Plain settings.maxKeyLength) := by
  cases command with
  | write pairs =>
    intro admitted edit member found _ entry made
    obtain ⟨pair, kept, rfl⟩ := List.mem_map.1 member
    have given := mem_of_mem_lastPairs kept
    have fits := (Settings.pairFault?_of_pairsFault? admitted pair given).2
    cases made
    exact ⟨plain_of_parse parsed pair given, (settings.valueFault?_eq_none_iff _ _).1 fits⟩
  | delete keys =>
    intro _ edit member
    obtain ⟨key, -, rfl⟩ := List.mem_map.1 member
    exact Edit.keeps_delete key
  | _ => trivial

namespace Run

variable (run : Run) (job : String)

/-- **A command leaves of the store what its effect says,** whatever becomes of its answer. -/
theorem store_execute (command : Command) :
    (run.execute job command).2.service.store
      = (command.effect run.service.store.settings).onStore run.service.store := by
  cases command with
  | write pairs =>
    show (run.service.apply (run.service.store.write pairs)).2.store = _
    rw [Service.apply_write]
    rfl
  | delete keys =>
    show (run.service.delete keys run.out).2.2.store = _
    rw [Service.delete_eq_written, Service.apply_delete]
    rfl
  | wait milliseconds =>
    cases milliseconds with
    | zero => rfl
    | succ milliseconds =>
      rw [execute]
      · split <;> rfl
      · exact Nat.succ_ne_zero milliseconds
  | backup =>
    have same := (run.service.backup_store (Path.backup job (run.report.backups + 1))).1
    rw [execute]
    split
    · next service backed => rw [backed] at same; exact same
    · next service backed => rw [backed] at same; exact same
  | _ => rfl

/-- A line changes the store by the command that it holds, if it holds one. -/
theorem store_line (number : Nat) (text : String) :
    (run.line job number text).service.store
      = match Command.parse text with
        | .ok (some command) =>
          (command.effect run.service.store.settings).onStore run.service.store
        | _ => run.service.store := by
  unfold line
  cases Command.parse text with
  | error fault => rfl
  | ok found? =>
    cases found? with
    | none => rfl
    | some command =>
      have executed := store_execute run.count job command
      dsimp only
      split
      · next after ran => rw [ran] at executed; exact executed
      · next error after ran => rw [ran] at executed; exact executed

end Run

end Job

/-! ## Stores that scripts have changed -/

/-- A store that was made by `init`, and that nothing but lines of scripts have changed since: of
one script or of several ones, whose answers go anywhere. -/
inductive Store.Scripted : Store → Prop
  | init {fresh made : Store} (initialized : fresh.init = .ok made) : Scripted made
  | line {run : Job.Run} (scripted : Scripted run.service.store) (job : String) (number : Nat)
      (text : String) : Scripted (run.line job number text).service.store

namespace Job

theorem Run.scripted_lines {run : Run} (scripted : run.service.store.Scripted) (job : String)
    (number : Nat) (lines : List Bytes) :
    (run.lines job number lines).2.service.store.Scripted := by
  fun_induction Run.lines run job number lines with
  | case1 => exact scripted
  | case2 => exact scripted
  | case3 run number bytes rest text _ ih => exact ih (scripted.line job number text)

theorem scripted_runScript {service : Service} (scripted : service.store.Scripted) (job : String)
    (script : Bytes) (out : Sink) :
    (runScript service job script out).2.service.store.Scripted := by
  let start : Run := { service, out }
  have begun : start.service.store.Scripted := scripted
  have ran := Run.scripted_lines begun job 1 (Text.lines script)
  unfold runScript
  dsimp only
  split
  · next run lines => rw [lines] at ran; exact ran
  · next error run lines => rw [lines] at ran; exact ran

end Job

/-- A store with a table, in which every entry can be written by a script. -/
structure Store.Restorable (store : Store) : Prop where
  orderly : store.Orderly
  contents : ∃ contents, store.Refines (some contents)
  plain : store.Each (Entry.Plain store.settings.maxKeyLength)

namespace Job.Command

/-- A command leaves contents where there are some. -/
theorem exists_contents_onStore {store : Store}
    (there : ∃ contents, store.Refines (some contents)) (command : Command) :
    ∃ contents, ((command.effect store.settings).onStore store).Refines (some contents) := by
  obtain ⟨contents, refines⟩ := there
  have changed (fault? : Option Error) (change : Contents → Contents) :
      ∃ after, Reference.changed fault? (some contents) change = some after := by
    unfold Reference.changed
    split
    · exact ⟨_, rfl⟩
    · exact ⟨_, rfl⟩
  cases command with
  | write pairs =>
    have onward := refines.after (store.settings.pairsFault? pairs) (puts pairs) (·.assign pairs)
      fun admitted table contents holds =>
        Table.holds_puts holds pairs (Settings.placed_of_pairsFault? admitted)
    obtain ⟨after, same⟩ := changed (store.settings.pairsFault? pairs) (·.assign pairs)
    exact ⟨after, same ▸ onward⟩
  | delete keys =>
    have onward := refines.after (store.settings.keysFault? keys) (deletes keys) (·.without keys)
      fun admitted table contents holds =>
        Table.holds_deletes holds keys (Settings.placed_of_keysFault? admitted)
    obtain ⟨after, same⟩ := changed (store.settings.keysFault? keys) (·.without keys)
    exact ⟨after, same ▸ onward⟩
  | _ => exact ⟨contents, refines⟩

end Job.Command

namespace Store

variable {store : Store}

/-- **A line of a script keeps a store restorable,** whatever it holds. -/
theorem Restorable.line {run : Job.Run} (restorable : run.service.store.Restorable) (job : String)
    (number : Nat) (text : String) : (run.line job number text).service.store.Restorable := by
  rw [run.store_line]
  split
  · next command parsed =>
    have admitted := command.admitted_effect run.service.store.settings
    refine ⟨orderly_onStore restorable.orderly _ admitted,
      command.exists_contents_onStore restorable.contents, ?_⟩
    rw [Effect.settings_onStore]
    exact each_onStore restorable.plain admitted (Job.Command.keeps_effect _ parsed)
  · exact restorable

theorem restorable_of_init {fresh made : Store} (initialized : fresh.init = .ok made) :
    made.Restorable := by
  obtain ⟨settings, table?⟩ := fresh
  cases table? with
  | some table => cases initialized
  | none =>
    cases initialized
    have orderly : (⟨settings, some {}⟩ : Store).Orderly := (proper_of_begins (.inr rfl)).orderly
    refine ⟨orderly, ⟨∅, Option.Rel.some Table.holds_empty⟩, fun table there => ?_⟩
    cases there
    exact Table.each_empty

/-- **All that scripts have written can be written by a script.** -/
theorem restorable_of_scripted (scripted : store.Scripted) : store.Restorable := by
  induction scripted with
  | init initialized => exact restorable_of_init initialized
  | line _ job number text ih => exact ih.line job number text

/-! ## Reading and writing back -/

namespace Refines

variable {contents : Contents} (refines : store.Refines (some contents))
include refines

theorem get_eq (key : String) : store.get key
    = Reference.given (store.settings.keyFault? key) (some contents) (·.lookup key) := by
  rw [Store.get_eq]
  exact refines.given _ _ _ fun table contents holds => (holds.lookup key).symm

theorem get_eq_ok_iff (key : String) (found : Option String) :
    store.get key = .ok found
      ↔ store.settings.keyFault? key = none ∧ contents.lookup key = found := by
  rw [refines.get_eq]
  cases store.settings.keyFault? key with
  | some fault => simp [Reference.given]
  | none => simp [Reference.given]

/-- Two stores under the same settings find the same of a key if their contents do. -/
theorem get_congr {other : Store} {contents' : Contents} (refines' : other.Refines (some contents'))
    (settings : other.settings = store.settings) {key : String}
    (same : contents'.lookup key = contents.lookup key) : other.get key = store.get key := by
  rw [refines.get_eq, refines'.get_eq, settings]
  cases store.settings.keyFault? key with
  | some fault => rfl
  | none => exact congrArg Except.ok same

end Refines

/-- What a restorable store answers can be written by a script. -/
theorem Restorable.of_get (restorable : store.Restorable) {key value : String}
    (found : store.get key = .ok (some value)) :
    Job.Command.Plain (key, value) ∧ store.settings.pairFault? (key, value) = none := by
  rw [get_eq, given_eq_ok_iff] at found
  obtain ⟨admitted, table, there, stored⟩ := found
  obtain ⟨entry, held, rfl⟩ := Option.map_eq_some_iff.1 stored
  have plain := restorable.plain table there key entry held
  have named := Table.key_of_find? held
  refine ⟨named ▸ plain.pair, Option.or_eq_none_iff.2 ⟨admitted, ?_⟩⟩
  exact (Settings.valueFault?_eq_none_iff _ _ _).2 plain.value

end Store

namespace Contents

/-- What contents answer to a reading: each key with its value, in the order of bytes. -/
def answers (contents : Contents) (keys : List String) : List (String × String) :=
  (Ordered.byBytes keys).map fun key => (key, (contents.lookup key).getD notFoundText)

theorem map_fst_answers (contents : Contents) (keys : List String) :
    (contents.answers keys).map Prod.fst = Ordered.byBytes keys := by
  rw [answers, List.map_map]
  exact List.map_id _

theorem length_answers (contents : Contents) (keys : List String) :
    (contents.answers keys).length = keys.length := by
  rw [answers, List.length_map, Ordered.byBytes_eq]
  exact (Ordered.ascendingBy_perm id keys).length_eq

/-- **Pairs that agree with contents assign what the contents say.** -/
theorem lookup_assign_of_agree (before contents : Contents) {pairs : List (String × String)}
    (agree : ∀ pair ∈ pairs, contents.lookup pair.1 = some pair.2) (key : String) :
    (before.assign pairs).lookup key
      = if key ∈ pairs.map Prod.fst then contents.lookup key else before.lookup key := by
  rw [lookup_assign, lastValue?]
  cases last : (pairs.filter fun pair => pair.1 = key).getLast? with
  | none =>
    have others : key ∉ pairs.map Prod.fst := fun member => by
      obtain ⟨pair, among, named⟩ := List.mem_map.1 member
      have kept := List.filter_eq_nil_iff.1 (List.getLast?_eq_none_iff.1 last) pair among
      exact kept (decide_eq_true named)
    rw [if_neg others]
    rfl
  | some pair =>
    obtain ⟨among, named⟩ := List.mem_filter.1 (List.mem_of_getLast? last)
    have named : pair.1 = key := of_decide_eq_true named
    have present : key ∈ pairs.map Prod.fst := named ▸ List.mem_map_of_mem among
    rw [if_pos present, ← named, agree pair among]
    rfl

end Contents

namespace Store.Refines

variable {store : Store} {contents : Contents} (refines : store.Refines (some contents))
include refines

theorem read_eq (keys : List String) (admitted : store.settings.keysFault? keys = none) :
    store.read keys = .ok (pairsLine (contents.answers keys)) := by
  have same := refines.given (store.settings.keysFault? keys)
    (fun table => readLine ((Ordered.ascendingBy id keys).map fun key =>
      (key, (table.find? key).map (·.value))))
    (fun contents => pairsLine (contents.answers keys)) fun table contents holds => by
      rw [readLine, List.map_map, Contents.answers, Ordered.byBytes_eq]
      simp only [holds.lookup]
      rfl
  rw [Store.read_eq, same, admitted]
  rfl

/-- Writing pairs that are admitted assigns them. -/
theorem execute_write {run : Job.Run} (there : run.service.store = store)
    {pairs : List (String × String)} (admitted : store.settings.pairsFault? pairs = none)
    (job : String) :
    let ran := run.execute job (.write pairs)
    ran.1 = .ok () ∧ ran.2.service.store.settings = store.settings
      ∧ ran.2.service.store.Refines (some (contents.assign pairs)) := by
  subst there
  have answer := refines.given (run.service.store.settings.pairsFault? pairs) (fun _ => ())
    (fun _ => ()) fun _ _ _ => rfl
  have onward := refines.after (run.service.store.settings.pairsFault? pairs) (puts pairs)
    (·.assign pairs) fun admitted table contents holds =>
      Table.holds_puts holds pairs (Settings.placed_of_pairsFault? admitted)
  show (run.service.apply (run.service.store.write pairs)).1 = _
    ∧ (run.service.apply (run.service.store.write pairs)).2.store.settings = _
    ∧ (run.service.apply (run.service.store.write pairs)).2.store.Refines _
  rw [Service.apply_write, answer, admitted]
  rw [admitted] at onward
  exact ⟨rfl, Store.after_settings _ _ _, onward⟩

end Store.Refines

namespace Settings

variable {settings : Settings}

/-- A batch is admitted that has the right size, and of which each element is admitted. -/
theorem keysFault?_eq_none {keys : List String} (nonempty : keys ≠ [])
    (fits : keys.length ≤ settings.maxBatch)
    (admitted : ∀ key ∈ keys, settings.keyFault? key = none) : settings.keysFault? keys = none := by
  have size : settings.sizeFault? keys.length = none := by
    rw [sizeFault?, if_neg (mt List.length_eq_zero_iff.1 nonempty), if_neg (by omega)]
  exact Option.or_eq_none_iff.2 ⟨size, List.findSome?_eq_none_iff.2 admitted⟩

/-- Pairs are admitted that are as many as admitted keys, and each of them is admitted. -/
theorem pairsFault?_eq_none {keys : List String} {pairs : List (String × String)}
    (keyed : settings.keysFault? keys = none) (alike : pairs.length = keys.length)
    (admitted : ∀ pair ∈ pairs, settings.pairFault? pair = none) :
    settings.pairsFault? pairs = none :=
  Option.or_eq_none_iff.2 ⟨alike ▸ (Option.or_eq_none_iff.1 keyed).1,
    List.findSome?_eq_none_iff.2 admitted⟩

end Settings

namespace Store

/-- The pairs that a reading answers are what is found of its keys. -/
theorem Refines.get_answers {store : Store} {contents : Contents}
    (refines : store.Refines (some contents)) {keys : List String}
    (stored : ∀ key ∈ keys, ∃ value, store.get key = .ok (some value)) :
    ∀ pair ∈ contents.answers keys, store.get pair.1 = .ok (some pair.2) := by
  intro pair member
  obtain ⟨key, among, rfl⟩ := List.mem_map.1 member
  obtain ⟨value, found⟩ := stored key ((Ordered.mem_byBytes keys key).1 among)
  rw [found, ((refines.get_eq_ok_iff key _).1 found).2]
  rfl

/-- **What was read can be written back.** Take a store that nothing but scripts have changed, and
keys that are all stored, as many as a batch may have. The line that a reading of them answers, with
the word for writing before it, is a command: it writes each of the keys, in the order of bytes,
with its value. Carried out on the same store it changes no value, and on a store that was just
made, under the same settings, it gives every one of the keys its value. -/
theorem read_then_restored {store : Store} (scripted : store.Scripted) {keys : List String}
    (nonempty : keys ≠ []) (fits : keys.length ≤ store.settings.maxBatch)
    (stored : ∀ key ∈ keys, ∃ value, store.get key = .ok (some value)) :
    ∃ line pairs,
      (∀ (service : Service) (sink : Sink), service.store = store → sink.TakesAll →
        service.read keys sink = (.ok (), { sink with taken := sink.taken ++ Text.utf8 line }))
      ∧ Job.Command.parse ("WRITE " ++ line) = .ok (some (.write pairs))
      ∧ pairs.map Prod.fst = Ordered.byBytes keys
      ∧ (∀ pair ∈ pairs, store.get pair.1 = .ok (some pair.2))
      ∧ ∀ (run : Job.Run) (job : String),
        let ran := run.execute job (.write pairs)
        (run.service.store = store →
          ran.1 = .ok () ∧ ∀ key, ran.2.service.store.get key = store.get key)
        ∧ ((⟨store.settings, none⟩ : Store).init = .ok run.service.store →
          ran.1 = .ok () ∧ ∀ key ∈ keys, ran.2.service.store.get key = store.get key) := by
  have restorable := restorable_of_scripted scripted
  obtain ⟨contents, refines⟩ := restorable.contents
  have named := contents.map_fst_answers keys
  have alike := contents.length_answers keys
  have told := refines.get_answers stored
  have keyed : store.settings.keysFault? keys = none :=
    Settings.keysFault?_eq_none nonempty fits fun key member => by
      obtain ⟨value, found⟩ := stored key member
      exact ((refines.get_eq_ok_iff key _).1 found).1
  have admitted : store.settings.pairsFault? (contents.answers keys) = none :=
    Settings.pairsFault?_eq_none keyed alike fun pair member =>
      (restorable.of_get (told pair member)).2
  have agree : ∀ pair ∈ contents.answers keys, contents.lookup pair.1 = some pair.2 :=
    fun pair member => ((refines.get_eq_ok_iff _ _).1 (told pair member)).2
  refine ⟨pairsLine (contents.answers keys), contents.answers keys, ?_, ?_, named, told, ?_⟩
  · intro service sink there takesAll
    rw [Service.read_eq_written, there, refines.read_eq keys keyed]
    show Service.output sink _ = _
    rw [Service.output, Sink.writeAll_of_takesAll takesAll]
    rfl
  · refine Job.Command.parse_pairsLine (fun empty => nonempty ?_) fun pair member =>
      (restorable.of_get (told pair member)).1
    rw [empty] at alike
    exact List.length_eq_zero_iff.1 alike.symm
  · intro run job
    have lookup (before : Contents) := before.lookup_assign_of_agree contents agree
    refine ⟨fun there => ?_, fun fresh => ?_⟩
    · obtain ⟨done, settings, onward⟩ := refines.execute_write there admitted job
      refine ⟨done, fun key => refines.get_congr onward settings ?_⟩
      rw [lookup, ite_self]
    · have empty : (⟨store.settings, some {}⟩ : Store).Refines (some ∅) :=
        Option.Rel.some Table.holds_empty
      obtain ⟨done, settings, onward⟩ := empty.execute_write (Except.ok.inj fresh).symm admitted job
      refine ⟨done, fun key member => refines.get_congr onward settings ?_⟩
      have among : key ∈ (contents.answers keys).map Prod.fst :=
        named ▸ (Ordered.mem_byBytes keys key).2 member
      rw [lookup, if_pos among]

/-- A value with brackets, a comma and a parenthesis, a key that was deleted between, and a reading
that names a key twice. -/
theorem read_then_restored_brackets :
    let fresh : Service := { store := { settings := {} } }
    let start : Job.Run := { service := fresh.init.2, out := {} }
    let run := (start.line "job" 1 "WRITE [ (b], [x,(1] ),(a , 2)]").line "job" 2 "DELETE[a]"
    let store := run.service.store
    let keys := ["b]", "b]"]
    store.Scripted ∧ keys ≠ [] ∧ keys.length ≤ store.settings.maxBatch
      ∧ (∀ key ∈ keys, ∃ value, store.get key = .ok (some value))
      ∧ ∃ line pairs, run.service.read keys {} = (.ok (), { taken := Text.utf8 line })
        ∧ Job.Command.parse ("WRITE " ++ line) = .ok (some (.write pairs))
        ∧ pairs.map Prod.fst = ["b]", "b]"]
        ∧ (run.execute "job" (.write pairs)).2.service.store.get "a" = .ok none
        ∧ (start.execute "job" (.write pairs)).2.service.store.get "b]" = .ok (some "[x,(1]") := by
  intro fresh start run store keys
  have made : fresh.store.init = .ok start.service.store := rfl
  have scripted : store.Scripted := ((Scripted.init made).line _ _ _).line _ _ _
  have written : Job.Command.parse "WRITE [ (b], [x,(1] ),(a , 2)]"
      = .ok (some (.write [("b]", "[x,(1]"), ("a", "2")])) := by decide +kernel
  have deleted : Job.Command.parse "DELETE[a]" = .ok (some (.delete ["a"])) := by decide +kernel
  have settings : store.settings = {} := by
    simp only [store, run, Job.Run.store_line, written, deleted, Effect.settings_onStore]
    rfl
  have a : store.get "a" = .ok none := by
    simp only [store, run, Job.Run.store_line, written, deleted, start, fresh]
    cbv
  have b : store.get "b]" = .ok (some "[x,(1]") := by
    simp only [store, run, Job.Run.store_line, written, deleted, start, fresh]
    cbv
  have fits : keys.length ≤ store.settings.maxBatch := by
    rw [settings]
    decide
  have stored : ∀ key ∈ keys, ∃ value, store.get key = .ok (some value) := by
    simp [keys, b]
  obtain ⟨line, pairs, answered, parsed, named, -, carried⟩ :=
    read_then_restored scripted (List.cons_ne_nil _ _) fits stored
  refine ⟨scripted, List.cons_ne_nil _ _, fits, stored, line, pairs, ?_, parsed, ?_, ?_, ?_⟩
  · exact answered run.service {} rfl ⟨rfl, by simp [Sink.Flows]⟩
  · rw [named]
    cbv
  · exact (((carried run "job").1 rfl).2 "a").trans a
  · have again : (⟨store.settings, none⟩ : Store).init = .ok start.service.store := by
      rw [settings]
      rfl
    exact (((carried start "job").2 again).2 "b]" (by simp)).trans b

end Store

end KeyWatch
