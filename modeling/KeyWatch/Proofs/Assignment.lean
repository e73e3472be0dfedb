/-
# Proofs.Assignment -- a batch is what it assigns

A batch of pairs assigns to each of its keys the value of the last pair with that key
(`Contents.lastValue?`). Two batches that assign the same make the same edits in the same order
(`puts_congr`), whatever else they differ in: the order of their pairs (`lastValue?_perm`), or pairs
that a later one overrides (`lastValue?_overridden`). So nobody can tell which of them was written.

Pairs that are put one by one, in the order in which they were given, leave other entries in other
places and tell other news, but the same values: `Table.value_puts` reads the value of a key off the
assignment, for any order of the edits that keeps the last pair of each key the last.
-/
import KeyWatch.Proofs.Telling

namespace KeyWatch

set_option autoImplicit false

namespace Contents

/-! ## What a batch assigns -/

theorem lastValue?_append (first second : List (String × String)) (key : String) :
    lastValue? (first ++ second) key = (lastValue? second key).or (lastValue? first key) := by
  unfold lastValue?
  rw [List.filter_append, List.getLast?_append]
  cases (second.filter fun pair => pair.1 = key).getLast? <;> rfl

theorem lastValue?_cons (pair : String × String) (rest : List (String × String)) (key : String) :
    lastValue? (pair :: rest) key
      = (lastValue? rest key).or (if pair.1 = key then some pair.2 else none) := by
  refine (lastValue?_append [pair] rest key).trans (congrArg _ ?_)
  unfold lastValue?
  rw [List.filter_singleton]
  by_cases hit : pair.1 = key
  · simp [hit]
  · simp [hit]

/-- A batch assigns a value to the keys that it names. -/
theorem isSome_lastValue?_iff (pairs : List (String × String)) (key : String) :
    (lastValue? pairs key).isSome = true ↔ key ∈ pairs.map Prod.fst := by
  induction pairs with
  | nil => simp [lastValue?]
  | cons pair rest ih =>
    rw [lastValue?_cons, List.map_cons, List.mem_cons, ← ih, Option.isSome_or, Bool.or_eq_true,
      or_comm]
    refine or_congr_left ?_
    by_cases hit : pair.1 = key
    · simp [hit]
    · simp [hit, Ne.symm hit]

/-- The value that is assigned comes with its key in one of the pairs. -/
theorem mem_of_lastValue? {pairs : List (String × String)} {key value : String}
    (last : lastValue? pairs key = some value) : (key, value) ∈ pairs := by
  obtain ⟨pair, final, rfl⟩ := Option.map_eq_some_iff.1 last
  obtain ⟨member, named⟩ := List.mem_filter.1 (List.mem_of_getLast? final)
  exact of_decide_eq_true named ▸ member

/-- **The order of pairs does not count** among pairs with distinct keys. -/
theorem lastValue?_perm {first second : List (String × String)} (perm : first.Perm second)
    (distinct : (first.map Prod.fst).Nodup) (key : String) :
    lastValue? first key = lastValue? second key := by
  have filtered := perm.filter fun pair => decide (pair.1 = key)
  have few : (first.filter fun pair => pair.1 = key).length ≤ 1 := by
    have count := List.nodup_iff_count_le_one.1 distinct key
    rw [List.count_eq_length_filter, List.filter_map, List.length_map] at count
    have test : ((fun other : String => other == key) ∘ Prod.fst : String × String → Bool)
        = fun pair => decide (pair.1 = key) := by
      funext pair
      exact Bool.beq_eq_decide_eq pair.1 key
    exact test ▸ count
  unfold lastValue?
  have same : (first.filter fun pair => pair.1 = key) = second.filter fun pair => pair.1 = key := by
    cases left : first.filter fun pair => decide (pair.1 = key) with
    | nil =>
      rw [left] at filtered
      exact (List.nil_perm.1 filtered).symm
    | cons pair rest =>
      rw [left] at filtered few
      have alone : rest = [] := by
        cases rest with
        | nil => rfl
        | cons other rest => simp at few
      rw [alone] at filtered ⊢
      exact List.singleton_perm.1 filtered
  rw [same]

/-- **A pair does not count** that a later one with its key overrides. -/
theorem lastValue?_overridden (before after : List (String × String)) {pair : String × String}
    (later : pair.1 ∈ after.map Prod.fst) (key : String) :
    lastValue? (before ++ pair :: after) key = lastValue? (before ++ after) key := by
  rw [lastValue?_append, lastValue?_append, lastValue?_cons]
  by_cases hit : pair.1 = key
  · obtain ⟨value, last⟩ := Option.isSome_iff_exists.1 ((isSome_lastValue?_iff after key).2 (hit ▸ later))
    rw [last]
    rfl
  · rw [if_neg hit, Option.or_none]

end Contents

/-- **Batches that assign the same make the same edits.** -/
theorem puts_congr {first second : List (String × String)}
    (alike : ∀ key, Contents.lastValue? first key = Contents.lastValue? second key) :
    puts first = puts second := by
  have keys : Ordered.byBytes (first.map Prod.fst).dedup
      = Ordered.byBytes (second.map Prod.fst).dedup := by
    refine Ordered.eq_of_ascending (Ordered.pairwise_byBytes (List.nodup_dedup _))
      (Ordered.pairwise_byBytes (List.nodup_dedup _)) fun key => ?_
    simp only [Ordered.mem_byBytes, List.mem_dedup, ← Contents.isSome_lastValue?_iff, alike]
  rw [puts_eq, puts_eq, keys]
  simp only [alike]

/-! ## Values after edits -/

/-- **After pairs are written, the last one with a key counts,** and a key without a pair has the
value that it had. -/
theorem Table.value_puts (table : Table) (pairs : List (String × String))
    (placed : ∀ pair ∈ pairs, (bucketOf? pair.1).isSome = true) (key : String) :
    (((pairs.map fun pair => Edit.put pair.1 pair.2).foldl Table.edit table).find? key).map (·.value)
      = (Contents.lastValue? pairs key).or ((table.find? key).map (·.value)) := by
  induction pairs generalizing table with
  | nil => rfl
  | cons pair rest ih =>
    have later := ih (table.edit (.put pair.1 pair.2)) fun other member =>
      placed other (List.mem_cons_of_mem _ member)
    have now : ((table.edit (.put pair.1 pair.2)).find? key).map (·.value)
        = (if pair.1 = key then some pair.2 else none).or ((table.find? key).map (·.value)) := by
      rw [find?_edit _ (.put pair.1 pair.2) (placed pair List.mem_cons_self)]
      by_cases hit : pair.1 = key
      · subst hit
        rw [if_pos rfl]
        exact congrArg (Option.map _) (if_pos rfl)
      · rw [if_neg hit]
        exact congrArg (Option.map _) (if_neg (Ne.symm hit))
    rw [Contents.lastValue?_cons, Option.or_assoc, ← now]
    exact later

namespace Service

/-- Put pairs one by one. Answers what came of each. -/
def putEach (service : Service) : List (String × String) → List (Except Error Unit) × Service
  | [] => ([], service)
  | (key, value) :: rest =>
    let (result, after) := service.apply (service.store.put key value)
    let (results, last) := after.putEach rest
    (result :: results, last)

variable {service : Service}

/-- **Admitted pairs are written in the order in which they are put.** -/
theorem putEach_spec {table : Table} (there : service.store.table = some table)
    (pairs : List (String × String))
    (admitted : ∀ pair ∈ pairs, service.store.settings.pairsFault? [pair] = none) :
    (∀ result ∈ (service.putEach pairs).1, result = .ok ())
      ∧ (service.putEach pairs).2.store = { service.store with
          table := some ((pairs.map fun pair => Edit.put pair.1 pair.2).foldl Table.edit table) } := by
  induction pairs generalizing service table with
  | nil =>
    refine ⟨fun result none => (List.not_mem_nil none).elim, ?_⟩
    show service.store = _
    obtain ⟨⟨settings, table?⟩, exchange, files, backups, warnings⟩ := service
    exact congrArg (Store.mk settings) there
  | cons pair rest ih =>
    obtain ⟨key, value⟩ := pair
    have applied : service.apply (service.store.put key value) = _ :=
      service.apply_write [(key, value)]
    rw [admitted (key, value) (by simp), puts_singleton] at applied
    let after := service.after none [.put key value]
    have left : after.store.table = some (table.edit (.put key value)) := by
      show service.store.table.map _ = _
      rw [there]
      rfl
    obtain ⟨results, last⟩ := @ih after _ left fun other member =>
      admitted other (List.mem_cons_of_mem _ member)
    have accepted : (service.store.given none fun _ => ()) = .ok () := by
      unfold Store.given
      rw [there]
    unfold putEach
    rw [applied, accepted]
    refine ⟨fun result member => ?_, last⟩
    rcases List.mem_cons.1 member with rfl | later
    · rfl
    · exact results result later

/-- A batch that is accepted is written to a table, and each of its pairs is admitted by itself. -/
theorem of_write_accepted {pairs : List (String × String)}
    (accepted : (service.write pairs).1 = .ok ()) :
    (∃ table, service.store.table = some table) ∧ service.store.settings.pairsFault? pairs = none
      ∧ ∀ pair ∈ pairs, service.store.settings.pairsFault? [pair] = none := by
  unfold write at accepted
  rw [apply_write] at accepted
  obtain ⟨admitted, table, there, -⟩ := (Store.given_eq_ok_iff _ _ _).1 accepted
  refine ⟨⟨table, there⟩, admitted, fun pair member => ?_⟩
  obtain ⟨keyFits, valueFits⟩ := Settings.pairFault?_of_pairsFault? admitted pair member
  have size := (Option.or_eq_none_iff.1 admitted).1
  have room : ¬ service.store.settings.maxBatch < 1 := by
    have some : 0 < pairs.length := List.length_pos_of_mem member
    unfold Settings.sizeFault? at size
    rw [if_neg (by omega)] at size
    split at size
    · cases size
    · omega
  show (Settings.sizeFault? _ 1).or ([pair].findSome? _) = none
  rw [Settings.sizeFault?, if_neg (by omega), if_neg room, List.findSome?_singleton,
    Settings.pairFault?, keyFits, valueFits]
  rfl

/-- **A write is known by what it assigns.** Of two batches that are accepted and assign the same
last values to the same keys, either leaves the service that the other leaves: every entry in its
place, with its value and its watchers, and every channel with what it was sent. And to the pairs of
a batch that are put one by one, in the order in which they were given, nothing is refused, and every
reading finds then what it finds after the batch. -/
theorem write_eq_of_alike (service : Service) (first second : List (String × String))
    (accepted : (service.write first).1 = .ok ()) (accepted' : (service.write second).1 = .ok ())
    (alike : ∀ key, Contents.lastValue? first key = Contents.lastValue? second key) :
    (service.write first).2 = (service.write second).2
      ∧ (∀ result ∈ (service.putEach first).1, result = .ok ())
      ∧ ∀ key, (service.putEach first).2.store.get key = (service.write first).2.store.get key := by
  obtain ⟨⟨table, there⟩, admitted, each⟩ := of_write_accepted accepted
  obtain ⟨-, admitted', -⟩ := of_write_accepted accepted'
  obtain ⟨results, last⟩ := putEach_spec there first each
  have written : ∀ pairs, (service.write pairs).2
      = service.after (service.store.settings.pairsFault? pairs) (puts pairs) := fun pairs =>
    congrArg Prod.snd (service.apply_write pairs)
  refine ⟨?_, results, fun key => ?_⟩
  · rw [written, written, admitted, admitted', puts_congr alike]
  · have placed := Settings.placed_of_pairsFault? admitted
    have batch : (service.write first).2.store
        = { service.store with table := some ((puts first).foldl Table.edit table) } := by
      rw [written, admitted, after_store]
      unfold Store.after
      rw [there]
      rfl
    -- the sorted pairs without repetition, and the pairs as given, have the same last values
    have same : (((puts first).foldl Table.edit table).find? key).map (·.value)
        = (Contents.lastValue? (lastPairs first) key).or ((table.find? key).map (·.value)) :=
      table.value_puts (lastPairs first)
          (fun pair kept => placed pair (mem_of_mem_lastPairs kept)) key
    rw [Contents.lastValue?_lastPairs, ← table.value_puts first placed key] at same
    rw [last, batch, Store.get_eq, Store.get_eq]
    unfold Store.given
    dsimp only
    rw [same]

/-- A pair that is overridden later, and the order of the others, make no difference to a watcher of
one of the keys. -/
theorem write_overridden_watchingA :
    let service := watchingA {}
    let first := [("b", "1"), ("a", "2"), ("b", "3")]
    let second := [("b", "3"), ("a", "2")]
    (service.write first).1 = .ok () ∧ (service.write second).1 = .ok ()
      ∧ service.Listens "a" ⟨7, 0⟩ { client := 7, sink := {} }
      ∧ (service.write first).2 = (service.write second).2
      ∧ ∀ key, (service.putEach first).2.store.get key = (service.write first).2.store.get key := by
  intro service first second
  have accepted : (service.write first).1 = .ok () := by
    simp only [service, first]
    cbv
  have accepted' : (service.write second).1 = .ok () := by
    simp only [service, second]
    cbv
  have alike : ∀ key, Contents.lastValue? first key = Contents.lastValue? second key := fun key =>
    (Contents.lastValue?_overridden [] [("a", "2"), ("b", "3")] (by simp) key).trans
      (Contents.lastValue?_perm (List.Perm.swap _ _ _) (by decide) key)
  obtain ⟨same, -, values⟩ := service.write_eq_of_alike first second accepted accepted' alike
  exact ⟨accepted, accepted', listens_watchingA 40 (by simp), same, values⟩

end Service

end KeyWatch
