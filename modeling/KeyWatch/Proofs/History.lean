/-
# Proofs.History -- what a watcher can tell of the past of a key

The past of a watched key is a series of overwrites, and perhaps its deletion. A watcher is told of
each change by one frame of 82 bytes (`heard_of_makes`), whatever the operations that make them: one
put after the other, or batches that write and delete other keys as well. Frames of one key are the
same only for texts that are the same up to their first NUL (`Notification.frame_inj`), so what was
told says which texts were told (`told_inj`).

It does not quite say what happened. A deletion is told by a text that can be stored as a value, so
a deletion, and an overwrite with that text, look the same. Nothing else does.
-/
import KeyWatch.Proofs.Assignment

namespace KeyWatch

set_option autoImplicit false

/-! ## Histories -/

/-- What becomes of a key: the values that overwrite it, in order, and whether it is deleted then. -/
structure History where
  values : List String
  isDeleted : Bool
  deriving DecidableEq

namespace History

/-- The changes of a history, in order. -/
def changes (history : History) : List Change :=
  history.values.map .updated ++ if history.isDeleted then [.deleted] else []

/-- No value has a NUL. -/
def Clean (history : History) : Prop := ∀ value ∈ history.values, '\x00' ∉ value.toList

/-- What a watcher of a key is told of changes. -/
def toldOf (key : String) (changes : List Change) : Bytes :=
  changes.flatMap fun change => Notification.frame key change.text

/-- What a watcher of a key is told of a history. -/
def told (history : History) (key : String) : Bytes := toldOf key history.changes

/-- The one history overwrites with the text that tells of a deletion where the other deletes. -/
def Feigns (history other : History) : Prop :=
  ∃ values, history = ⟨values ++ [deletedText], false⟩ ∧ other = ⟨values, true⟩

/-- A deletion is the last change, if there is one. -/
theorem not_mem_dropLast_changes (history : History) :
    Change.deleted ∉ history.changes.dropLast := by
  obtain ⟨values, isDeleted⟩ := history
  have updates : Change.deleted ∉ values.map Change.updated := by simp
  cases isDeleted with
  | false =>
    show Change.deleted ∉ (values.map Change.updated ++ []).dropLast
    rw [List.append_nil]
    exact fun early => updates (List.mem_of_mem_dropLast early)
  | true =>
    show Change.deleted ∉ (values.map Change.updated ++ [Change.deleted]).dropLast
    rwa [List.dropLast_concat]

theorem map_text_changes (history : History) :
    history.changes.map Change.text
      = history.values ++ if history.isDeleted then [deletedText] else [] := by
  obtain ⟨values, isDeleted⟩ := history
  have texts : (values.map Change.updated).map Change.text = values := by
    rw [List.map_map]
    exact List.map_id _
  unfold changes
  rw [List.map_append, texts]
  cases isDeleted <;> rfl

/-- **Histories whose texts are the same** are the same, unless one of them feigns the other. -/
theorem map_text_changes_eq_iff (first second : History) :
    first.changes.map Change.text = second.changes.map Change.text
      ↔ first = second ∨ first.Feigns second ∨ second.Feigns first := by
  obtain ⟨values, isDeleted⟩ := first
  obtain ⟨values', isDeleted'⟩ := second
  rw [map_text_changes, map_text_changes]
  cases isDeleted <;> cases isDeleted' <;> simp [Feigns, eq_comm]

end History

/-! ## Frames of one key -/

/-- **Fields with the same bytes have the same text,** up to its first NUL. -/
theorem padded_inj {width : Nat} {first second : String} (clean : '\x00' ∉ first.toList)
    (clean' : '\x00' ∉ second.toList) (same : padded width first = padded width second) :
    first = second := by
  have read := fieldText_padded width first
  rw [same, fieldText_padded, (Text.cut_eq_self_iff _).2 clean, (Text.cut_eq_self_iff _).2 clean']
    at read
  exact (Except.ok.inj read).symm

theorem Notification.frame_inj {key first second : String} (clean : '\x00' ∉ first.toList)
    (clean' : '\x00' ∉ second.toList)
    (same : Notification.frame key first = Notification.frame key second) : first = second :=
  padded_inj clean clean' (List.append_cancel_left same)

theorem Notification.length_frame {key text : String} (keyFits : key.utf8ByteSize ≤ keyWidth)
    (textFits : text.utf8ByteSize ≤ keyWidth) :
    (Notification.frame key text).length = notificationSize :=
  Notification.length_fields keyFits textFits

/-- **What was told says which texts were told:** the frames of a key all have the same length. -/
theorem flatMap_frame_inj {key : String} (keyFits : key.utf8ByteSize ≤ keyWidth)
    {first second : List String}
    (fits : ∀ text ∈ first, text.utf8ByteSize ≤ keyWidth ∧ '\x00' ∉ text.toList)
    (fits' : ∀ text ∈ second, text.utf8ByteSize ≤ keyWidth ∧ '\x00' ∉ text.toList)
    (same : first.flatMap (Notification.frame key) = second.flatMap (Notification.frame key)) :
    first = second := by
  induction first generalizing second with
  | nil =>
    cases second with
    | nil => rfl
    | cons text rest =>
      have length := congrArg List.length same
      rw [List.flatMap_cons, List.length_append,
        Notification.length_frame keyFits (fits' text (by simp)).1] at length
      change 0 = 82 + _ at length
      omega
  | cons text rest ih =>
    have whole := Notification.length_frame keyFits (fits text (by simp)).1
    cases second with
    | nil =>
      have length := congrArg List.length same
      rw [List.flatMap_cons, List.length_append, whole] at length
      change 82 + _ = 0 at length
      omega
    | cons other rest' =>
      have whole' := Notification.length_frame keyFits (fits' other (by simp)).1
      rw [List.flatMap_cons, List.flatMap_cons] at same
      obtain ⟨now, later⟩ := List.append_inj same (whole.trans whole'.symm)
      rw [Notification.frame_inj (fits text (by simp)).2 (fits' other (by simp)).2 now,
        ih (fun text member => fits text (List.mem_cons_of_mem _ member))
          (fun text member => fits' text (List.mem_cons_of_mem _ member)) later]

/-- A live channel hands on everything to a sink that takes it. -/
theorem Channel.hear_of_takesAll {channel : Channel} (live : channel.isLive = true)
    (takesAll : channel.sink.TakesAll) (bytes : Bytes) :
    channel.hear bytes
      = { channel with sink := { channel.sink with taken := channel.sink.taken ++ bytes } } := by
  have offered : channel.sink.offered bytes
      = { channel.sink with taken := channel.sink.taken ++ bytes } := by
    rw [← Sink.writeAll_eq _ takesAll.2, Sink.writeAll_of_takesAll takesAll]
  rw [hear, if_pos live, offered]

/-! ## Operations that make a history -/

/-- What an operation that is accepted changes of a stored key. -/
def Operation.change? (key : String) : Operation → Option Change
  | .put other value => if other = key then some (.updated value) else none
  | .write pairs => (Contents.lastValue? pairs key).map .updated
  | .erase other => if other = key then some .deleted else none
  | .delete keys _ => if key ∈ keys then some .deleted else none
  | _ => none

namespace Operation

theorem change?_put (key other value : String) :
    (put other value).change? key = (write [(other, value)]).change? key := by
  show _ = (Contents.lastValue? [(other, value)] key).map Change.updated
  rw [Contents.lastValue?_cons]
  show (if _ then _ else _) = Option.map _ (if _ then _ else _)
  split <;> rfl

theorem change?_erase (key other : String) (sink : Sink) :
    (erase other).change? key = (delete [other] sink).change? key := by
  show (if _ then _ else _) = if _ then _ else _
  simp only [List.mem_singleton, eq_comm]

/-- An entry goes with the table, or by a change of its key. -/
theorem of_removes {settings : Settings} {key : String} {operation : Operation}
    (removes : operation.removes settings key = true) :
    operation = .terminate ∨ operation.change? key = some .deleted := by
  cases operation with
  | terminate => exact .inl rfl
  | erase other =>
    have both := of_decide_eq_true removes
    exact .inr (if_pos both.2.symm)
  | delete keys sink =>
    have both := of_decide_eq_true removes
    exact .inr (if_pos both.2)
  | _ => cases removes

end Operation

namespace Service

/-- The service after operations in order. -/
def performAll (service : Service) (operations : List Operation) : Service :=
  operations.foldl (fun service operation => (service.perform operation).2) service

/-- Operations make changes of a key, as far as a watcher of the key can hear: all are accepted, none
drops the table, and what else they change is no key that the watcher watches. -/
structure Makes (service : Service) (key : String) (watcher : Watcher) (changes : List Change)
    (operations : List Operation) : Prop where
  accepted : ∀ outcome ∈ service.run operations, ∃ answer, outcome.result = .ok answer
  made : operations.filterMap (·.change? key) = changes
  stays : .terminate ∉ operations
  apart : ∀ operation ∈ operations, ∀ other, other ≠ key →
    (operation.change? other).isSome = true → watcher ∉ service.store.watchersOf other

variable {service : Service} {key : String} {watcher : Watcher}

/-- **What is accepted is not refused by a fault or for want of a table.** -/
theorem of_accepted {operation : Operation} {answer : Answer}
    (accepted : (service.perform operation).1.result = .ok answer) {fault? : Option Error}
    {edits : List Edit}
    (effect : (Action.perform operation).effect service.store.settings = .edit fault? edits) :
    fault? = none ∧ ∃ table, service.store.table = some table := by
  have given : ∀ {α : Type} {fault? : Option Error} {act : Table → α} {wrap : α → Answer},
      (service.store.given fault? act).map wrap = .ok answer →
        fault? = none ∧ ∃ table, service.store.table = some table := by
    intro α fault? act wrap mapped
    cases outcome : service.store.given fault? act with
    | error error =>
      rw [outcome] at mapped
      cases mapped
    | ok found =>
      obtain ⟨none, table, there, -⟩ := (Store.given_eq_ok_iff _ _ _).1 outcome
      exact ⟨none, table, there⟩
  cases operation with
  | put key value =>
    change ((service.apply (service.store.write [(key, value)])).1.map _) = _ at accepted
    rw [apply_write] at accepted
    cases effect
    exact given accepted
  | write pairs =>
    change ((service.apply (service.store.write pairs)).1.map _) = _ at accepted
    rw [apply_write] at accepted
    cases effect
    exact given accepted
  | erase key =>
    change ((service.apply (service.store.erase key)).1.map _) = _ at accepted
    rw [apply_erase] at accepted
    cases effect
    exact given accepted
  | delete keys sink =>
    change ((service.delete keys sink).1.map _) = _ at accepted
    rw [delete_eq_written, apply_delete, Store.given_map] at accepted
    cases effect
    unfold Store.given at accepted
    cases refused : service.store.settings.keysFault? keys with
    | some fault =>
      rw [refused] at accepted
      cases accepted
    | none =>
      rw [refused] at accepted
      cases there : service.store.table with
      | none =>
        rw [there] at accepted
        cases accepted
      | some table => exact ⟨rfl, table, rfl⟩
  | _ => cases effect

/-! ## What is heard -/

/-- Of keys that are all distinct only one is meant. -/
theorem flatMap_of_nodup {α : Type} (text : String → List α) {keys : List String}
    (distinct : keys.Nodup) (wanted : String) :
    (keys.flatMap fun key => if key ∈ ({wanted} : Finset String) then text key else [])
      = if wanted ∈ keys then text wanted else [] := by
  induction keys with
  | nil => rfl
  | cons key rest ih =>
    obtain ⟨fresh, distinct⟩ := List.nodup_cons.1 distinct
    rw [List.flatMap_cons, ih distinct]
    by_cases hit : key = wanted
    · subst hit
      simp [fresh]
    · simp [hit, Ne.symm hit]

/-- On an entry that does not have a watcher its channel has no record. -/
theorem Wired.filter_unlisted {settings : Settings} (wired : service.Wired settings)
    (owns : watcher.Owns service.exchange) {key : String}
    (unlisted : watcher ∉ service.store.watchersOf key) :
    (service.store.watchersOf key).filter (fun other => other.channel = watcher.channel) = [] := by
  apply List.filter_eq_nil_iff.2
  intro other listed same
  obtain ⟨table, entry, there, found, watchers⟩ :=
    Store.exists_of_watchersOf (List.ne_nil_of_mem listed)
  have client := wired.own table there key entry found other (watchers ▸ listed)
  have channel : other.channel = watcher.channel := of_decide_eq_true same
  unfold Watcher.Owns at client owns
  rw [channel, owns] at client
  have whole : other = watcher := by
    obtain ⟨client', id⟩ := other
    obtain ⟨client, id'⟩ := watcher
    exact congrArg₂ Watcher.mk (Option.some.inj client).symm channel
  exact unlisted (whole ▸ listed)

theorem Wired.filter_listed {settings : Settings} (wired : service.Wired settings) {key : String}
    (listed : watcher ∈ service.store.watchersOf key) :
    (service.store.watchersOf key).filter (fun other => other.channel = watcher.channel)
      = [watcher] := by
  obtain ⟨table, entry, there, found, watchers⟩ :=
    Store.exists_of_watchersOf (List.ne_nil_of_mem listed)
  rw [← watchers] at listed ⊢
  exact Watchers.filter_own (wired.proper.each table there key entry found).clients
    (wired.own table there key entry found) listed

/-- Edits of distinct keys, of which a watcher watches one at most, are heard as the one edit. -/
theorem framesOn_one (key : String) {table : Table} {keys : List String} (distinct : keys.Nodup)
    (edit : String → Edit) (change : String → Change) (named : ∀ key, (edit key).key = key)
    (owes : ∀ key found, (edit key).notices found = (watchersAt found).notices key (change key))
    (placed : ∀ key ∈ keys, (bucketOf? key).isSome = true)
    (own : ∀ other ∈ keys, (watchersAt (table.find? other)).filter
        (fun other => other.channel = watcher.channel) = if other = key then [watcher] else []) :
    Exchange.framesOn watcher.channel (table.noticesOf (keys.map edit))
      = if key ∈ keys then Notification.frame key (change key).text else [] := by
  have told := @framesOn_noticesOf watcher table {key} keys distinct edit change named owes placed
    (fun other member => by simpa using own other member)
  rw [told]
  exact flatMap_of_nodup (fun key => Notification.frame key (change key).text) distinct key

/-- On the keys that an operation changes, a watcher has a record of one at most. -/
def OnlyOn (table : Table) (key : String) (watcher : Watcher) (operation : Operation) : Prop :=
  ∀ other, (operation.change? other).isSome = true → (watchersAt (table.find? other)).filter
    (fun other => other.channel = watcher.channel) = if other = key then [watcher] else []

theorem framesOn_write {table : Table} {pairs : List (String × String)}
    (placed : ∀ pair ∈ pairs, (bucketOf? pair.1).isSome = true)
    (only : OnlyOn table key watcher (.write pairs)) :
    Exchange.framesOn watcher.channel (table.noticesOf (puts pairs))
      = ((Operation.write pairs).change? key).elim [] fun change =>
          Notification.frame key change.text := by
  have changed : ∀ other ∈ Ordered.byBytes (pairs.map Prod.fst).dedup,
      (Contents.lastValue? pairs other).isSome = true := by
    intro other member
    rw [Ordered.mem_byBytes, List.mem_dedup] at member
    exact (Contents.isSome_lastValue?_iff pairs other).2 member
  rw [puts_eq, framesOn_one key
    ((Ordered.pairwise_byBytes (List.nodup_dedup _)).imp ne_of_lt) _
    (fun other => .updated ((Contents.lastValue? pairs other).getD "")) (fun _ => rfl)
    (fun _ _ => rfl)
    (fun other member => by
      obtain ⟨pair, given, rfl⟩ := List.mem_map.1
        ((Contents.isSome_lastValue?_iff pairs other).1 (changed other member))
      exact placed pair given)
    fun other member => only other (by
      show (Option.map _ _).isSome = true
      rw [Option.isSome_map]
      exact changed other member)]
  simp only [Ordered.mem_byBytes, List.mem_dedup, ← Contents.isSome_lastValue?_iff]
  show _ = ((Contents.lastValue? pairs key).map Change.updated).elim _ _
  cases Contents.lastValue? pairs key <;> rfl

theorem framesOn_delete {table : Table} {keys : List String} (sink : Sink)
    (placed : ∀ key ∈ keys, (bucketOf? key).isSome = true)
    (only : OnlyOn table key watcher (.delete keys sink)) :
    Exchange.framesOn watcher.channel (table.noticesOf (deletes keys))
      = ((Operation.delete keys sink).change? key).elim [] fun change =>
          Notification.frame key change.text := by
  have named : ∀ other ∈ Ordered.byBytes keys.dedup, other ∈ keys := fun other member =>
    List.mem_dedup.1 ((Ordered.mem_byBytes _ _).1 member)
  rw [deletes_eq, framesOn_one key
    ((Ordered.pairwise_byBytes (List.nodup_dedup _)).imp ne_of_lt) _ (fun _ => .deleted)
    (fun _ => rfl) (fun _ _ => rfl) (fun other member => placed other (named other member))
    fun other member => only other (by
      show (if _ then _ else _ : Option Change).isSome = true
      rw [if_pos (named other member)]
      rfl)]
  simp only [Ordered.mem_byBytes, List.mem_dedup]
  show _ = (if key ∈ keys then some Change.deleted else none).elim _ _
  split <;> rfl

/-- **An operation is heard as the change that it makes of a key,** if it changes nothing else that
the watcher watches. -/
theorem framesOn_perform {operation : Operation} {answer : Answer}
    (accepted : (service.perform operation).1.result = .ok answer)
    (only : ∀ table, service.store.table = some table → OnlyOn table key watcher operation) :
    Exchange.framesOn watcher.channel
        (((Action.perform operation).effect service.store.settings).owed service.store)
      = (operation.change? key).elim [] fun change => Notification.frame key change.text := by
  have wrote : ∀ pairs : List (String × String),
      (service.store.settings.pairsFault? pairs = none ∧ ∃ table, service.store.table = some table) →
      (∀ table, service.store.table = some table → OnlyOn table key watcher (.write pairs)) →
      Exchange.framesOn watcher.channel
          (service.store.owed (service.store.settings.pairsFault? pairs) (puts pairs))
        = ((Operation.write pairs).change? key).elim [] fun change =>
            Notification.frame key change.text := by
    rintro pairs ⟨admitted, table, there⟩ only
    unfold Store.owed
    rw [admitted, there]
    exact framesOn_write (Settings.placed_of_pairsFault? admitted) (only table there)
  cases operation with
  | put other value =>
    unfold OnlyOn at only
    simp only [Operation.change?_put] at only ⊢
    exact wrote _ (of_accepted accepted rfl) only
  | write pairs => exact wrote pairs (of_accepted accepted rfl) only
  | erase other =>
    obtain ⟨admitted, table, there⟩ := of_accepted accepted rfl
    have erased := @framesOn_delete key watcher table [other] {} (fun key member => by
      rw [List.mem_singleton.1 member]
      exact Settings.placed_of_keyFault? admitted) (by
        have one := only table there
        unfold OnlyOn at one ⊢
        simpa only [Operation.change?_erase _ _ {}] using one)
    rw [Operation.change?_erase key other {}, ← erased, deletes_singleton]
    show Exchange.framesOn _ (service.store.owed (service.store.settings.keyFault? other) _) = _
    unfold Store.owed
    rw [admitted, there]
    rfl
  | delete keys sink =>
    obtain ⟨admitted, table, there⟩ := of_accepted accepted rfl
    show Exchange.framesOn _ (service.store.owed (service.store.settings.keysFault? keys) _) = _
    unfold Store.owed
    rw [admitted, there]
    exact framesOn_delete sink (Settings.placed_of_keysFault? admitted) (only table there)
  | _ => rfl

/-- What an operation that is accepted tells fits its field, if the settings admit no more. -/
theorem fits_change? {operation : Operation} {answer : Answer}
    (accepted : (service.perform operation).1.result = .ok answer)
    (short : service.store.settings.maxKeyLength ≤ keyWidth) :
    ∀ change ∈ operation.change? key, change.text.utf8ByteSize ≤ keyWidth := by
  have wrote : ∀ pairs : List (String × String),
      service.store.settings.pairsFault? pairs = none →
      ∀ change ∈ (Operation.write pairs).change? key, change.text.utf8ByteSize ≤ keyWidth := by
    intro pairs admitted change made
    obtain ⟨value, last, rfl⟩ := Option.map_eq_some_iff.1 made
    obtain ⟨-, valueFits⟩ := Settings.pairFault?_of_pairsFault? admitted (key, value)
      (Contents.mem_of_lastValue? last)
    exact ((Settings.valueFault?_eq_none_iff _ _ _).1 valueFits).trans short
  have gone : Change.deleted.text.utf8ByteSize ≤ keyWidth := by decide
  cases operation with
  | put other value =>
    rw [Operation.change?_put]
    exact wrote _ (of_accepted accepted rfl).1
  | write pairs => exact wrote pairs (of_accepted accepted rfl).1
  | erase other =>
    intro change made
    obtain ⟨-, rfl⟩ := Option.ite_some_none_eq_some.1 made
    exact gone
  | delete keys sink =>
    intro change made
    obtain ⟨-, rfl⟩ := Option.ite_some_none_eq_some.1 made
    exact gone
  | _ =>
    intro change made
    cases made

/-- An operation takes a watcher off no entry but one that it deletes. -/
theorem watchersOf_perform (orderly : service.store.Orderly) {operation : Operation}
    (stays : operation ≠ .terminate) (key : String) :
    (service.perform operation).2.store.watchersOf key = service.store.watchersOf key
      ∨ operation.change? key = some .deleted
        ∧ (service.perform operation).2.store.watchersOf key = [] := by
  have left : (service.perform operation).2.store.watchersOf key
      = if operation.removes service.store.settings key then [] else service.store.watchersOf key :=
    watchersOf_act orderly (.perform operation) key
  split at left
  · next removes => exact .inr ⟨(Operation.of_removes removes).resolve_left stays, left⟩
  · exact .inl left

theorem Makes.changes_eq {operation : Operation} {rest : List Operation} {changes : List Change}
    (makes : service.Makes key watcher changes (operation :: rest)) :
    changes = (operation.change? key).toList ++ rest.filterMap (·.change? key) := by
  rw [← makes.made, List.filterMap_cons]
  cases operation.change? key <;> rfl

/-- If a deletion comes last or not at all, this is so later on, and nothing comes behind one. -/
theorem once_of_append {first : Option Change} {later : List Change}
    (once : .deleted ∉ (first.toList ++ later).dropLast) :
    .deleted ∉ later.dropLast ∧ (later ≠ [] → first ≠ some .deleted) := by
  by_cases none : later = []
  · subst none
    exact ⟨List.not_mem_nil, fun more => absurd rfl more⟩
  · rw [List.dropLast_append_of_ne_nil none, List.mem_append, not_or] at once
    refine ⟨once.2, fun _ gone => once.1 ?_⟩
    rw [gone]
    exact List.mem_cons_self

/-- Operations after one that makes changes make the others. -/
theorem Makes.tail {operation : Operation} {rest : List Operation} {changes : List Change}
    (orderly : service.store.Orderly)
    (makes : service.Makes key watcher changes (operation :: rest)) :
    (service.perform operation).2.Makes key watcher (rest.filterMap (·.change? key)) rest where
  accepted := fun outcome member => makes.accepted outcome (List.mem_cons_of_mem _ member)
  made := rfl
  stays := fun member => makes.stays (List.mem_cons_of_mem _ member)
  apart := by
    intro later member other apart changes listed
    have before := makes.apart later (List.mem_cons_of_mem _ member) other apart changes
    have stays : operation ≠ .terminate := fun drops => makes.stays (by simp [drops])
    rcases watchersOf_perform orderly stays other with same | ⟨-, nobody⟩
    · exact before (same ▸ listed)
    · rw [nobody] at listed
      cases listed

/-- **A watcher hears of an operation the change that it makes of its key.** -/
theorem Wired.channel?_perform {settings : Settings} (wired : service.Wired settings)
    (short : settings.maxKeyLength ≤ keyWidth) (owns : watcher.Owns service.exchange)
    {channel : Channel} (here : service.exchange.channel? watcher.channel = some channel)
    (flows : channel.sink.Flows) {operation : Operation} {answer : Answer}
    (accepted : (service.perform operation).1.result = .ok answer)
    (listed : (operation.change? key).isSome = true → watcher ∈ service.store.watchersOf key)
    (apart : ∀ other, other ≠ key → (operation.change? other).isSome = true →
      watcher ∉ service.store.watchersOf other) :
    (service.perform operation).2.exchange.channel? watcher.channel
      = some (channel.hear (History.toldOf key (operation.change? key).toList)) := by
  have only : ∀ table, service.store.table = some table → OnlyOn table key watcher operation := by
    intro table there other changes
    rw [← Store.watchersOf_of_table there]
    by_cases hit : other = key
    · subst hit
      rw [if_pos rfl]
      exact wired.filter_listed (listed changes)
    · rw [if_neg hit]
      exact wired.filter_unlisted owns (apart other hit changes)
  have posted := Exchange.channel?_postAll here flows _
    ((Action.perform operation).fits_owed service.store (wired.configured ▸ short))
  rw [framesOn_perform accepted only] at posted
  have exchange : (service.perform operation).2.exchange = _ :=
    (service.act_effect (.perform operation)).2
  rw [exchange, posted]
  cases operation.change? key with
  | none => rfl
  | some change =>
    show _ = some (channel.hear (Notification.frame key change.text ++ []))
    rw [List.append_nil]
    rfl

/-- **What operations make of a key is what its watcher hears,** one frame for each change. -/
theorem heard_of_makes (settings : Settings) (short : settings.maxKeyLength ≤ keyWidth)
    {operations : List Operation} {changes : List Change} {channel : Channel}
    (wired : service.Wired settings) (owns : watcher.Owns service.exchange)
    (here : service.exchange.channel? watcher.channel = some channel)
    (flows : channel.sink.Flows) (makes : service.Makes key watcher changes operations)
    (listed : changes ≠ [] → watcher ∈ service.store.watchersOf key)
    (once : .deleted ∉ changes.dropLast) :
    (service.performAll operations).exchange.channel? watcher.channel
        = some (channel.hear (History.toldOf key changes))
      ∧ ∀ change ∈ changes, change.text.utf8ByteSize ≤ keyWidth := by
  induction operations generalizing service changes channel with
  | nil =>
    have none : changes = [] := makes.made.symm
    subst none
    refine ⟨?_, by simp⟩
    show service.exchange.channel? watcher.channel = some (channel.hear [])
    rw [Channel.hear_nil]
    exact here
  | cons operation rest ih =>
    obtain ⟨answer, accepted⟩ := makes.accepted (service.perform operation).1 List.mem_cons_self
    have made := makes.changes_eq
    have fits : ∀ change ∈ operation.change? key, change.text.utf8ByteSize ≤ keyWidth :=
      fits_change? accepted (wired.configured ▸ short)
    have now := wired.channel?_perform short owns here flows accepted
      (fun changes => listed (by
        obtain ⟨change, some⟩ := Option.isSome_iff_exists.1 changes
        rw [made, some]
        exact List.cons_ne_nil _ _))
      (makes.apart operation (by simp))
    have orderly := wired.proper.orderly
    have stays : operation ≠ .terminate := fun drops => makes.stays (by simp [drops])
    obtain ⟨onceLater, early⟩ := once_of_append (made ▸ once)
    -- nothing comes behind a deletion, so a watcher that has more to hear is still registered
    have still : rest.filterMap (·.change? key) ≠ [] →
        watcher ∈ (service.perform operation).2.store.watchersOf key := by
      intro more
      rcases watchersOf_perform orderly stays key with same | ⟨gone, -⟩
      · rw [same]
        refine listed ?_
        rw [made]
        exact List.append_ne_nil_of_right_ne_nil _ more
      · exact absurd gone (early more)
    obtain ⟨heard, fitsLater⟩ := ih (wired_undergo wired (.action (.perform operation)) trivial)
      (client?_undergo (.action (.perform operation)) owns) now
      (Channel.flows_hear channel _ flows) (makes.tail orderly) still onceLater
    rw [made]
    refine ⟨?_, fun change member => ?_⟩
    · rw [History.toldOf, List.flatMap_append, ← Channel.hear_hear]
      exact heard
    · rcases List.mem_append.1 member with first | later
      · exact fits change (Option.mem_toList.1 first)
      · exact fitsLater change later

/-- **A watcher can tell what happened, but for one thing.** Of two histories of a watched key that
a service with the default settings accepts, none of their values with a NUL, it is told the same
only if they are the same, or differ by their last change alone, which deletes in the one and
overwrites with the mark of a deletion in the other. An overwrite with any other value and a deletion
never make the same frame. -/
theorem Reachable.told_apart (reachable : Reachable {} service) {channel : Channel}
    (listens : service.Listens key watcher channel) {first second : History}
    {operations operations' : List Operation} (clean : first.Clean) (clean' : second.Clean)
    (makes : service.Makes key watcher first.changes operations)
    (makes' : service.Makes key watcher second.changes operations') :
    let after := fun told : Bytes =>
      some { channel with sink := { channel.sink with taken := channel.sink.taken ++ told } }
    (service.performAll operations).exchange.channel? watcher.channel = after (first.told key)
      ∧ (service.performAll operations').exchange.channel? watcher.channel
        = after (second.told key)
      ∧ (first.told key = second.told key
        ↔ first = second ∨ first.Feigns second ∨ second.Feigns first)
      ∧ ∀ value, '\x00' ∉ value.toList → value ≠ deletedText →
        Notification.frame key (Change.updated value).text
          ≠ Notification.frame key Change.deleted.text := by
  intro after
  have wired := reachable.wired
  have cleanMark : '\x00' ∉ deletedText.toList := by decide
  have keyFits : key.utf8ByteSize ≤ keyWidth := by
    have admitted := Store.keyFault?_of_watchersOf wired.proper.orderly
      (List.ne_nil_of_mem listens.watches)
    exact Store.keyFits_of_short (wired.configured ▸ by decide) admitted
  have owns : watcher.Owns service.exchange := by
    obtain ⟨table, entry, there, found, watchers⟩ :=
      Store.exists_of_watchersOf (List.ne_nil_of_mem listens.watches)
    exact wired.own table there key entry found watcher (watchers ▸ listens.watches)
  have heard : ∀ {history : History} {operations : List Operation}, history.Clean →
      service.Makes key watcher history.changes operations →
      (service.performAll operations).exchange.channel? watcher.channel = after (history.told key)
        ∧ ∀ text ∈ history.changes.map Change.text,
          text.utf8ByteSize ≤ keyWidth ∧ '\x00' ∉ text.toList := by
    intro history operations clean makes
    obtain ⟨told, fits⟩ := heard_of_makes {} (by decide) wired owns listens.here
      listens.takesAll.2 makes (fun _ => listens.watches) history.not_mem_dropLast_changes
    refine ⟨?_, fun text member => ⟨?_, ?_⟩⟩
    · rw [told, Channel.hear_of_takesAll listens.live listens.takesAll]
      rfl
    · obtain ⟨change, among, rfl⟩ := List.mem_map.1 member
      exact fits change among
    · rw [History.map_text_changes] at member
      rcases List.mem_append.1 member with value | mark
      · exact clean text value
      · have same : text = deletedText := by
          split at mark
          · exact List.mem_singleton.1 mark
          · cases mark
        exact same ▸ cleanMark
  obtain ⟨told, fits⟩ := heard clean makes
  obtain ⟨told', fits'⟩ := heard clean' makes'
  refine ⟨told, told', ?_, fun value clean apart same => ?_⟩
  · have texts : ∀ history : History,
        history.told key = (history.changes.map Change.text).flatMap (Notification.frame key) :=
      fun history => (List.flatMap_map _ _ _).symm
    rw [← History.map_text_changes_eq_iff, texts, texts]
    exact ⟨flatMap_frame_inj keyFits fits fits', fun same => by rw [same]⟩
  · exact apart (Notification.frame_inj clean cleanMark same)

/-- One operation on a key makes one change of it. -/
theorem makes_singleton {operation : Operation} {change : Change} {answer : Answer}
    (accepted : (service.perform operation).1.result = .ok answer)
    (made : operation.change? key = some change) (stays : operation ≠ .terminate)
    (alone : ∀ other, other ≠ key → operation.change? other = none) :
    service.Makes key watcher [change] [operation] where
  accepted := by
    intro outcome member
    rw [List.mem_singleton.1 member]
    exact ⟨answer, accepted⟩
  made := by rw [List.filterMap_cons, made, List.filterMap_nil]
  stays := by simpa using stays.symm
  apart := by
    intro only member other apart changes
    rw [List.mem_singleton.1 member, alone other apart] at changes
    cases changes

/-- Values that are batched with other keys, and a deletion, are told apart from one overwrite. -/
theorem told_apart_watchingA :
    let service := watchingA {}
    let first : History := ⟨["2", "3"], true⟩
    let second : History := ⟨["2"], false⟩
    let operations := [.write [("b", "9"), ("a", "2")], .put "a" "3", .delete ["a"] {}]
    service.Listens "a" ⟨7, 0⟩ { client := 7, sink := {} } ∧ first.Clean ∧ second.Clean
      ∧ service.Makes "a" ⟨7, 0⟩ first.changes operations
      ∧ service.Makes "a" ⟨7, 0⟩ second.changes [.put "a" "2"]
      ∧ first.told "a" ≠ second.told "a" := by
  intro service first second operations
  have listens : service.Listens "a" ⟨7, 0⟩ { client := 7, sink := {} } :=
    listens_watchingA 40 (by simp)
  have clean : first.Clean := by simp [first, History.Clean]
  have clean' : second.Clean := by simp [second, History.Clean]
  have unwatched : service.store.watchersOf "b" = [] := by
    simp only [service]
    cbv
  have makes : service.Makes "a" ⟨7, 0⟩ first.changes operations := by
    have outcomes : service.run operations = List.replicate 3 ⟨.ok .done, []⟩ := by
      simp only [service, operations]
      cbv
    refine ⟨?_, by decide, by decide, ?_⟩
    · rw [outcomes]
      intro outcome member
      exact ⟨.done, by rw [(List.mem_replicate.1 member).2]⟩
    · intro operation member other apart changes
      simp only [operations, List.mem_cons, List.not_mem_nil, or_false] at member
      rcases member with rfl | rfl | rfl
      · have named := (Contents.isSome_lastValue?_iff _ other).1 (by
          simpa only [Operation.change?, Option.isSome_map] using changes)
        have hit : other = "b" := by simpa [apart] using named
        rw [hit, unwatched]
        exact List.not_mem_nil
      · simp [Operation.change?, Ne.symm apart] at changes
      · simp [Operation.change?, apart] at changes
  have accepted : (service.perform (.put "a" "2")).1.result = .ok .done := by
    simp only [service]
    cbv
  have makes' : service.Makes "a" ⟨7, 0⟩ second.changes [.put "a" "2"] :=
    makes_singleton accepted rfl (by decide) fun other apart => if_neg apart.symm
  obtain ⟨-, -, apart, -⟩ :=
    (reachable_watchingA {}).told_apart listens clean clean' makes makes'
  refine ⟨listens, clean, clean', makes, makes', fun same => ?_⟩
  simpa [first, second, History.Feigns] using apart.1 same

/-- **A deletion can be feigned:** an overwrite with the value DELETE, which is accepted, and a
deletion are told by the same bytes. -/
theorem told_alike_watchingA :
    let service := watchingA {}
    let first : History := ⟨["DELETE"], false⟩
    let second : History := ⟨[], true⟩
    let taken := fun operation => (((service.perform operation).2.exchange.channel? 0).map
      (·.sink.taken))
    Reachable {} service ∧ service.Listens "a" ⟨7, 0⟩ { client := 7, sink := {} }
      ∧ first ≠ second ∧ first.Clean ∧ second.Clean
      ∧ service.Makes "a" ⟨7, 0⟩ first.changes [.put "a" "DELETE"]
      ∧ service.Makes "a" ⟨7, 0⟩ second.changes [.erase "a"]
      ∧ taken (.put "a" "DELETE") = some (Notification.frame "a" "DELETE")
      ∧ taken (.erase "a") = some (Notification.frame "a" "DELETE") := by
  intro service first second taken
  have put : (service.perform (.put "a" "DELETE")).1.result = .ok .done := by
    simp only [service]
    cbv
  have erased : (service.perform (.erase "a")).1.result = .ok (.existed true) := by
    simp only [service]
    cbv
  have told : taken (.put "a" "DELETE") = some (Notification.frame "a" "DELETE") := by
    simp only [taken, service]
    cbv
  have told' : taken (.erase "a") = some (Notification.frame "a" "DELETE") := by
    simp only [taken, service]
    cbv
  exact ⟨reachable_watchingA {}, listens_watchingA 40 (by simp), by decide,
    by simp [first, History.Clean], by simp [second, History.Clean],
    makes_singleton put rfl (by decide) fun other apart => if_neg apart.symm,
    makes_singleton erased rfl (by decide) fun other apart => if_neg apart.symm, told, told'⟩

end Service

end KeyWatch
