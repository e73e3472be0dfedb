/-
# Proofs.Contention -- operations that wait for each other's locks

An operation takes the locks of its code one at a time: the barrier of the table, if it takes it,
and then buckets in ascending order (`pairwise_needs`). It gives none back before it has them all.

A request waits while somebody holds the lock and one of the two writes. It may also wait behind a
writer that waits for the lock itself; which writers hold readers back is left open, and may be
different at every turn. So it does not matter whether waiting is fair.

Whoever is waited for holds a lock, and has all that it needs or waits further up; or it waits for
the same lock as a writer while the other one reads. `Party.reach` grows in both cases. That is why
nobody waits in a circle, and why following the waiting leads to somebody who can go on
(`exists_step`), so that all operations can be brought to their end (`exists_run_done`).
-/
import KeyWatch.Proofs.Locks
import Mathlib

namespace KeyWatch.Locks

set_option autoImplicit false

/-! ## What operations need -/

/-- A lock of the table. -/
inductive Lock where
  | barrier
  | bucket (index : BucketIndex)
  deriving Repr, DecidableEq

/-- Locks in the order in which they may be taken: the barrier is above every bucket. -/
def Lock.rank : Lock → Nat
  | barrier => 0
  | bucket index => index + 1

theorem Lock.rank_le (lock : Lock) : lock.rank ≤ bucketCount := by
  cases lock with
  | barrier => exact Nat.zero_le _
  | bucket index => exact index.isLt

/-- A lock, and what it is taken for. -/
structure Need where
  lock : Lock
  mode : Access
  deriving Repr, DecidableEq

/-- The locks of a held set. -/
def needsOf (held : Held) : List Need :=
  held.indices.toList.map fun index => ⟨.bucket index, held.mode⟩

/-- Operations by the locks that they take. -/
inductive Use where
  /-- Writing, reading or deleting a batch of keys. -/
  | batch (keys : List String) (mode : Access)
  | showAll
  /-- Reading or deleting one key, watching it or not any more, and asking whether it is watched. -/
  | single (key : String) (mode : Access)
  | size
  /-- Copying the table for a backup. -/
  | capture
  deriving Repr, DecidableEq

namespace Use

/-- The barrier is taken first, and for writing only by a copy; counting does without. -/
def gate : Use → List Need
  | size => []
  | capture => [⟨.barrier, .write⟩]
  | _ => [⟨.barrier, .read⟩]

/-- Then the buckets, in the order of the plan; none if there is no plan. -/
def buckets : Use → List Need
  | batch keys mode =>
    match Held.ofKeys keys mode with
    | .ok held => needsOf held
    | .error _ => []
  | single key mode =>
    match bucketOf? key with
    | some index => [⟨.bucket index, mode⟩]
    | none => []
  | _ => needsOf (Held.all .read)

/-- The locks of an operation in the order in which it takes them. -/
def needs (use : Use) : List Need := use.gate ++ use.buckets

/-- The same locks in the order in which it gives them back: the barrier last. -/
def returns (use : Use) : List Need := use.buckets ++ use.gate

theorem mem_returns (use : Use) (need : Need) : need ∈ use.returns ↔ need ∈ use.needs := by
  rw [returns, needs, List.mem_append, List.mem_append, or_comm]

end Use

/-- The buckets of an operation are taken for the same use and in ascending order. -/
theorem Use.buckets_eq (use : Use) : ∃ (indices : List BucketIndex) (mode : Access),
    indices.Pairwise (· < ·) ∧ use.buckets = indices.map fun index => ⟨.bucket index, mode⟩ := by
  have held : ∀ (indices : List Nat) (mode : Access),
      ∃ (taken : List BucketIndex) (mode' : Access), taken.Pairwise (· < ·)
        ∧ needsOf (Held.ofIndices indices mode) = taken.map fun index => ⟨.bucket index, mode'⟩ :=
    fun _ mode => ⟨_, mode, pairwise_inOrder _, rfl⟩
  cases use with
  | batch keys mode =>
    rw [buckets, Held.ofKeys]
    cases plan keys with
    | error error => exact ⟨[], mode, List.Pairwise.nil, rfl⟩
    | ok indices => exact held _ mode
  | single key mode =>
    rw [buckets]
    cases bucketOf? key with
    | none => exact ⟨[], mode, List.Pairwise.nil, rfl⟩
    | some index => exact ⟨[index], mode, List.pairwise_singleton _ _, rfl⟩
  | _ => exact held _ .read

/-- **Locks are taken in ascending order,** the barrier before every bucket. -/
theorem Use.pairwise_needs (use : Use) :
    use.needs.Pairwise fun first second => first.lock.rank < second.lock.rank := by
  obtain ⟨indices, mode, ascending, buckets⟩ := use.buckets_eq
  have first : ∃ mode, use.gate = [] ∨ use.gate = [⟨.barrier, mode⟩] := by
    cases use with
    | size => exact ⟨.read, .inl rfl⟩
    | capture => exact ⟨.write, .inr rfl⟩
    | _ => exact ⟨.read, .inr rfl⟩
  have upward : (indices.map fun index => (⟨.bucket index, mode⟩ : Need)).Pairwise
      fun first second => first.lock.rank < second.lock.rank :=
    List.pairwise_map.2 (ascending.imp fun ascends => Nat.succ_lt_succ ascends)
  obtain ⟨entry, none | barrier⟩ := first
  · rw [needs, none, buckets]
    exact upward
  · rw [needs, barrier, buckets]
    refine List.pairwise_cons.2 ⟨fun need member => ?_, upward⟩
    obtain ⟨index, _, rfl⟩ := List.mem_map.1 member
    exact Nat.succ_pos _

/-- **A batch takes the barrier and the bucket of each of its keys,** and nothing else. -/
theorem Use.mem_needs_batch (keys : List String) (mode : Access)
    (placed : ∀ key ∈ keys, (bucketOf? key).isSome = true) (need : Need) :
    need ∈ (Use.batch keys mode).needs
      ↔ need = ⟨.barrier, .read⟩
        ∨ ∃ key ∈ keys, ∃ index, bucketOf? key = some index ∧ need = ⟨.bucket index, mode⟩ := by
  have held : Held.ofKeys keys mode
      = .ok ⟨mode, (inOrder (inOrder (keys.filterMap bucketOf?))).toArray⟩ := by
    rw [Held.ofKeys, plan, mapM_bucketOf keys placed]
    exact congrArg Except.ok (Held.ofIndices_val _ mode)
  have buckets : need ∈ (Use.batch keys mode).buckets
      ↔ ∃ index, (∃ key ∈ keys, bucketOf? key = some index) ∧ ⟨.bucket index, mode⟩ = need := by
    simp only [Use.buckets, held, needsOf, List.mem_map, mem_inOrder, List.mem_filterMap]
  have barrierFirst : (Use.batch keys mode).gate = [⟨.barrier, .read⟩] := rfl
  rw [needs, barrierFirst, List.singleton_append, List.mem_cons, buckets]
  constructor
  · rintro (barrier | ⟨index, ⟨key, member, home⟩, rfl⟩)
    · exact .inl barrier
    · exact .inr ⟨key, member, index, home, rfl⟩
  · rintro (barrier | ⟨key, member, index, home, rfl⟩)
    · exact .inl barrier
    · exact .inr ⟨index, ⟨key, member, home⟩, rfl⟩

/-! ## Parties -/

/-- An operation under way: how many of its locks it has taken, and how many it has given back. -/
structure Party where
  use : Use
  taken : Nat := 0
  freed : Nat := 0
  deriving Repr, DecidableEq

namespace Party

variable (party : Party)

/-- The lock that is to be taken next. -/
def next? : Option Need := party.use.needs[party.taken]?

/-- The locks that are held. -/
def held : List Need :=
  (party.use.needs.take party.taken).filter fun need => need ∉ party.use.returns.take party.freed

/-- Everything was taken and given back. -/
def isDone : Bool :=
  party.next?.isNone && decide (party.use.returns.length ≤ party.freed)

/-- The party with one more lock. -/
def take : Party := { party with taken := party.taken + 1 }

/-- The party with one lock less. -/
def free : Party := { party with freed := party.freed + 1 }

/-- The locks that are still to be taken and given back. -/
def remaining : Nat :=
  (party.use.needs.length - party.taken) + (party.use.returns.length - party.freed)

/-- How far up a party is: where it waits, a writer above a reader; highest if it has everything. -/
def reach : Nat :=
  match party.next? with
  | some need => 2 * need.lock.rank + if need.mode = .write then 1 else 0
  | none => 2 * (bucketCount + 1)

end Party

/-- The same lock is wanted twice, and one of the two writes. -/
def Need.conflicts (first second : Need) : Bool :=
  first.lock == second.lock && (first.mode == .write || second.mode == .write)

/-- A party stands in the way of a need: it holds the lock for a use that conflicts, or it waits in
line for it as a writer and the need is a reader's. -/
def Party.bars (party : Party) (inLine : Bool) (need : Need) : Bool :=
  party.held.any need.conflicts
    || inLine && need.mode == .read && party.next? == some ⟨need.lock, .write⟩

theorem Need.conflicts_iff (first second : Need) :
    first.conflicts second = true
      ↔ first.lock = second.lock ∧ (first.mode = .write ∨ second.mode = .write) := by
  simp [conflicts]

theorem Need.conflicts_comm (first second : Need) :
    first.conflicts second = second.conflicts first := by
  rw [Bool.eq_iff_iff, conflicts_iff, conflicts_iff, eq_comm, or_comm]

theorem Party.bars_iff (party : Party) (inLine : Bool) (need : Need) :
    party.bars inLine need = true
      ↔ (∃ taken ∈ party.held, need.conflicts taken = true)
        ∨ inLine = true ∧ need.mode = .read ∧ party.next? = some ⟨need.lock, .write⟩ := by
  simp [bars, and_assoc]

namespace Party

variable {party : Party} {need : Need}

/-- **Everything that is held is below what is needed next.** -/
theorem rank_lt_of_held {taken : Need} (member : taken ∈ party.held)
    (next : party.next? = some need) : taken.lock.rank < need.lock.rank := by
  have earlier := (List.mem_filter.1 member).1
  obtain ⟨place, inside, here⟩ := List.mem_take_iff_getElem.1 earlier
  obtain ⟨later, there⟩ := List.getElem?_eq_some_iff.1 next
  have ascends := List.pairwise_iff_getElem.1 party.use.pairwise_needs place party.taken
    (by omega) later (by omega)
  rw [here, there] at ascends
  exact ascends

theorem reach_of_next? (next : party.next? = some need) :
    party.reach = 2 * need.lock.rank + if need.mode = .write then 1 else 0 := by
  rw [reach, next]

theorem reach_le : party.reach ≤ 2 * (bucketCount + 1) := by
  cases next : party.next? with
  | none => rw [reach, next]
  | some need =>
    have low := need.lock.rank_le
    rw [reach_of_next? next]
    split <;> omega

/-- Who holds a lock is not done. -/
theorem isDone_of_held {taken : Need} (member : taken ∈ party.held) : party.isDone = false := by
  obtain ⟨earlier, kept⟩ := List.mem_filter.1 member
  rw [Bool.eq_false_iff]
  intro done
  have whole : party.use.returns.length ≤ party.freed := by
    simpa using (Bool.and_eq_true_iff.1 done).2
  rw [List.take_of_length_le whole] at kept
  have returned := (party.use.mem_returns taken).2 (List.mem_of_mem_take earlier)
  simp [returned] at kept

theorem isDone_of_bars {inLine : Bool} (bars : party.bars inLine need = true) :
    party.isDone = false := by
  rcases (party.bars_iff inLine need).1 bars with ⟨taken, member, -⟩ | ⟨-, -, next⟩
  · exact isDone_of_held member
  · rw [isDone, next]
    rfl

/-- **Who stands in the way is further up,** or has everything. -/
theorem reach_lt_of_bars {blocker : Party} {inLine : Bool} (next : party.next? = some need)
    (bars : blocker.bars inLine need = true) : party.reach < blocker.reach := by
  rw [reach_of_next? next]
  rcases (blocker.bars_iff inLine need).1 bars with ⟨taken, member, conflict⟩ | ⟨-, reads, waits⟩
  · obtain ⟨same, -⟩ := (need.conflicts_iff taken).1 conflict
    cases further : blocker.next? with
    | none =>
      have low := need.lock.rank_le
      rw [reach, further]
      dsimp only
      split <;> omega
    | some goal =>
      have above := rank_lt_of_held member further
      rw [← same] at above
      rw [reach_of_next? further]
      split <;> omega
  · rw [reach_of_next? waits, reads]
    simp

theorem remaining_take (next : party.next? = some need) :
    party.take.remaining < party.remaining := by
  have inside := (List.getElem?_eq_some_iff.1 next).1
  show (party.use.needs.length - (party.taken + 1)) + (party.use.returns.length - party.freed)
    < party.remaining
  unfold remaining
  omega

theorem remaining_free (next : party.next? = none) (busy : party.isDone = false) :
    party.free.remaining < party.remaining := by
  have inside : party.freed < party.use.returns.length := by
    simpa [isDone, next] using busy
  show (party.use.needs.length - party.taken) + (party.use.returns.length - (party.freed + 1))
    < party.remaining
  unfold remaining
  omega

/-- What is held after one more lock is taken. -/
theorem held_take (member : need ∈ party.take.held) :
    need ∈ party.held ∨ party.next? = some need := by
  obtain ⟨earlier, kept⟩ := List.mem_filter.1 member
  have step : party.use.needs.take (party.taken + 1)
      = party.use.needs.take party.taken ++ party.next?.toList := List.take_add_one
  change need ∈ party.use.needs.take (party.taken + 1) at earlier
  rw [step] at earlier
  rcases List.mem_append.1 earlier with old | new
  · exact .inl (List.mem_filter.2 ⟨old, kept⟩)
  · exact .inr (Option.mem_toList.1 new)

/-- What is held after one lock is given back was held before. -/
theorem held_free (member : need ∈ party.free.held) : need ∈ party.held := by
  obtain ⟨earlier, kept⟩ := List.mem_filter.1 member
  refine List.mem_filter.2 ⟨earlier, ?_⟩
  simp only [decide_eq_true_eq] at kept ⊢
  intro given
  exact kept ((List.take_prefix_take_left (Nat.le_succ _)).subset given)

end Party

/-! ## Crowds -/

/-- All operations under way, by place. -/
abbrev Crowd := List Party

namespace Crowd

/-- Everybody before the first lock. -/
def start (uses : List Use) : Crowd := uses.map fun use => { use }

variable (crowd : Crowd) (line : Nat → Bool)

/-- A need is admitted if nobody stands in its way. Only writers in line hold readers back. -/
def admits (need : Need) : Bool := crowd.zipIdx.all fun entry => !entry.1.bars (line entry.2) need

/-- One step of the party at a place, if it can take one: it takes its next lock, or gives one back
once it has had them all. -/
def step? (place : Nat) : Option Crowd :=
  match crowd[place]? with
  | none => none
  | some party =>
    match party.next? with
    | some need => if crowd.admits line need then some (crowd.set place party.take) else none
    | none => if party.isDone = true then none else some (crowd.set place party.free)

/-- Turns in order, each with the writers that are in line; who cannot take a step waits. -/
def run (turns : List (Nat × (Nat → Bool))) : Crowd :=
  turns.foldl (fun crowd turn => (step? crowd turn.2 turn.1).getD crowd) crowd

/-- The party at one place waits for the one at another: it needs a lock, and the other stands in
its way. -/
def WaitsFor (place other : Nat) : Prop :=
  ∃ party need blocker, crowd[place]? = some party ∧ party.next? = some need
    ∧ crowd[other]? = some blocker ∧ blocker.bars (line other) need = true

/-- Nobody holds a lock that conflicts with one that somebody else holds. -/
def Exclusive : Prop :=
  ∀ (first second : Nat) (one other : Party), first ≠ second → crowd[first]? = some one →
    crowd[second]? = some other → ∀ need ∈ one.held, ∀ taken ∈ other.held,
      need.conflicts taken = false

variable {crowd line}

/-- **All that a step can be:** a lock is taken that was admitted, or one is given back. -/
theorem step?_cases {place : Nat} {next : Crowd} (stepped : crowd.step? line place = some next) :
    ∃ party, crowd[place]? = some party
      ∧ ((∃ need, party.next? = some need ∧ crowd.admits line need = true
          ∧ next = crowd.set place party.take)
        ∨ party.next? = none ∧ party.isDone = false ∧ next = crowd.set place party.free) := by
  unfold step? at stepped
  cases here : crowd[place]? with
  | none =>
    rw [here] at stepped
    cases stepped
  | some party =>
    refine ⟨party, rfl, ?_⟩
    rw [here] at stepped
    dsimp only at stepped
    cases goal : party.next? with
    | some need =>
      rw [goal] at stepped
      dsimp only at stepped
      split at stepped
      · next admitted =>
        cases stepped
        exact .inl ⟨need, rfl, admitted, rfl⟩
      · cases stepped
    | none =>
      rw [goal] at stepped
      dsimp only at stepped
      split at stepped
      · cases stepped
      · next busy =>
        cases stepped
        exact .inr ⟨rfl, Bool.eq_false_iff.2 busy, rfl⟩

theorem bars_of_not_admits {need : Need} (refused : ¬ crowd.admits line need = true) :
    ∃ (other : Nat) (blocker : Party),
      crowd[other]? = some blocker ∧ blocker.bars (line other) need = true := by
  simp only [admits, List.all_eq_true, not_forall, Bool.not_eq_true', Bool.not_eq_false] at refused
  obtain ⟨⟨blocker, other⟩, member, bars⟩ := refused
  exact ⟨other, blocker, List.mem_zipIdx_iff_getElem?.1 member, bars⟩

theorem bars_of_admits {need : Need} (admitted : crowd.admits line need = true) {other : Nat}
    {blocker : Party} (there : crowd[other]? = some blocker) :
    blocker.bars (line other) need = false := by
  have all := List.all_eq_true.1 admitted (blocker, other) (List.mem_zipIdx_iff_getElem?.2 there)
  simpa using all

theorem conflicts_of_admits {need taken : Need} (admitted : crowd.admits line need = true)
    {other : Nat} {holder : Party} (there : crowd[other]? = some holder)
    (member : taken ∈ holder.held) : need.conflicts taken = false := by
  rw [Bool.eq_false_iff]
  intro conflict
  have bars := (holder.bars_iff (line other) need).2 (.inl ⟨taken, member, conflict⟩)
  rw [bars_of_admits admitted there] at bars
  cases bars

/-! ## Waiting -/

/-- How far up the party at a place is. -/
def reachAt (crowd : Crowd) (place : Nat) : Nat := (crowd[place]?).elim 0 Party.reach

theorem reachAt_lt_of_waitsFor {place other : Nat} (waits : crowd.WaitsFor line place other) :
    crowd.reachAt place < crowd.reachAt other := by
  obtain ⟨party, need, blocker, here, next, there, bars⟩ := waits
  rw [reachAt, reachAt, here, there]
  exact Party.reach_lt_of_bars next bars

/-- **Nobody waits in a circle.** -/
theorem not_transGen_waitsFor_self (place : Nat) :
    ¬ Relation.TransGen (crowd.WaitsFor line) place place := by
  intro circle
  have upward : Relation.TransGen (· < ·) (crowd.reachAt place) (crowd.reachAt place) :=
    Relation.TransGen.lift crowd.reachAt (fun _ _ waits => reachAt_lt_of_waitsFor waits)
      place place circle
  rw [Relation.transGen_eq_self] at upward
  exact lt_irrefl _ upward

/-- **Somebody can go on:** the party itself, or one that it waits for, or one that this one waits
for, and so on; each of them is further up. -/
theorem exists_step {place : Nat} {party : Party} (here : crowd[place]? = some party)
    (busy : party.isDone = false) : ∃ place next, crowd.step? line place = some next := by
  induction left : 2 * (bucketCount + 1) - party.reach using Nat.strong_induction_on
    generalizing place party with
  | _ left ih =>
    cases goal : party.next? with
    | none =>
      refine ⟨place, crowd.set place party.free, ?_⟩
      simp only [step?, here, goal, busy, Bool.false_eq_true, if_false]
    | some need =>
      by_cases admitted : crowd.admits line need = true
      · refine ⟨place, crowd.set place party.take, ?_⟩
        simp only [step?, here, goal, admitted, if_true]
      · obtain ⟨other, blocker, there, bars⟩ := bars_of_not_admits admitted
        have further := Party.reach_lt_of_bars goal bars
        have low := blocker.reach_le
        exact ih _ (by omega) there (Party.isDone_of_bars bars) rfl

/-! ## Steps and runs -/

/-- What is held at a place after a step was held there before, or is the lock that was admitted. -/
theorem held_step {place : Nat} {next : Crowd} (stepped : crowd.step? line place = some next)
    {other : Nat} {after : Party} (there : next[other]? = some after) :
    ∃ before : Party, crowd[other]? = some before ∧ before.use = after.use
      ∧ ∀ need ∈ after.held,
        need ∈ before.held ∨ other = place ∧ crowd.admits line need = true := by
  obtain ⟨party, here, change⟩ := step?_cases stepped
  have elsewhere : ∀ changed : Party, next = crowd.set place changed → other ≠ place →
      crowd[other]? = some after := by
    rintro changed rfl apart
    rwa [List.getElem?_set_ne (Ne.symm apart)] at there
  have itself : ∀ changed : Party, next = crowd.set place changed → other = place →
      after = changed := by
    rintro changed rfl rfl
    rw [List.getElem?_set_self (List.getElem?_eq_some_iff.1 here).1] at there
    exact (Option.some.inj there).symm
  by_cases same : other = place
  · rcases change with ⟨need, goal, admitted, changed⟩ | ⟨-, -, changed⟩
    · have whole := itself _ changed same
      subst whole
      refine ⟨party, same ▸ here, rfl, fun taken member => ?_⟩
      rcases Party.held_take member with old | new
      · exact .inl old
      · rw [goal] at new
        cases new
        exact .inr ⟨same, admitted⟩
    · have whole := itself _ changed same
      subst whole
      exact ⟨party, same ▸ here, rfl, fun taken member => .inl (Party.held_free member)⟩
  · have kept : crowd[other]? = some after := by
      rcases change with ⟨_, _, _, changed⟩ | ⟨-, -, changed⟩
      · exact elsewhere _ changed same
      · exact elsewhere _ changed same
    exact ⟨after, kept, rfl, fun taken member => .inl member⟩

/-- **A step keeps locks exclusive:** what is taken was admitted beside all that is held. -/
theorem exclusive_step {place : Nat} {next : Crowd} (exclusive : crowd.Exclusive)
    (stepped : crowd.step? line place = some next) : next.Exclusive := by
  intro first second one other apart here there need mine taken theirs
  obtain ⟨oneBefore, oneHere, -, oneHeld⟩ := held_step stepped here
  obtain ⟨otherBefore, otherThere, -, otherHeld⟩ := held_step stepped there
  -- at most one of the two locks is new, and that one was admitted beside the other
  rcases oneHeld need mine with old | ⟨rfl, admitted⟩
  · rcases otherHeld taken theirs with before | ⟨rfl, admitted⟩
    · exact exclusive first second oneBefore otherBefore apart oneHere otherThere need old taken
        before
    · rw [Need.conflicts_comm]
      exact conflicts_of_admits admitted oneHere old
  · rcases otherHeld taken theirs with before | ⟨rfl, -⟩
    · exact conflicts_of_admits admitted otherThere before
    · exact absurd rfl apart

theorem uses_step {place : Nat} {next : Crowd} (stepped : crowd.step? line place = some next) :
    next.map (·.use) = crowd.map (·.use) := by
  obtain ⟨party, here, change⟩ := step?_cases stepped
  obtain ⟨inside, present⟩ := List.getElem?_eq_some_iff.1 here
  have kept : ∀ changed : Party, changed.use = party.use →
      (crowd.set place changed).map (·.use) = crowd.map (·.use) := by
    intro changed same
    have within : place < (crowd.map (·.use)).length := by rwa [List.length_map]
    have own : (crowd.map (·.use))[place] = party.use := by rw [List.getElem_map, present]
    rw [List.map_set, same, ← own, List.set_getElem_self]
  rcases change with ⟨_, _, _, rfl⟩ | ⟨-, -, rfl⟩
  · exact kept _ rfl
  · exact kept _ rfl

theorem exclusive_start (uses : List Use) : (start uses).Exclusive := by
  intro first second one other _ here _ need mine
  obtain ⟨use, _, rfl⟩ := List.mem_map.1 (List.mem_of_getElem? here)
  simp [Party.held] at mine

/-- **Every run keeps locks exclusive,** whoever takes its turn when and whoever is in line. -/
theorem exclusive_run (exclusive : crowd.Exclusive) (turns : List (Nat × (Nat → Bool))) :
    (crowd.run turns).Exclusive ∧ (crowd.run turns).map (·.use) = crowd.map (·.use) := by
  induction turns generalizing crowd with
  | nil => exact ⟨exclusive, rfl⟩
  | cons turn rest ih =>
    show (Crowd.run ((crowd.step? turn.2 turn.1).getD crowd) rest).Exclusive
      ∧ (Crowd.run ((crowd.step? turn.2 turn.1).getD crowd) rest).map (·.use) = _
    cases stepped : crowd.step? turn.2 turn.1 with
    | none => exact ih exclusive
    | some next =>
      obtain ⟨onward, uses⟩ := ih (exclusive_step exclusive stepped)
      exact ⟨onward, uses.trans (uses_step stepped)⟩

/-- **Operations on a table never deadlock.** Let any operations, with any keys and uses, take and
give back their locks in any order of turns, and let any of the waiting writers hold readers back,
others at every turn. As long as somebody is not done, somebody can take a step. Nobody ever waits
in a circle. And no two hold a lock for uses that conflict. -/
theorem never_stuck (uses : List Use) (turns : List (Nat × (Nat → Bool))) :
    let crowd := (start uses).run turns
    crowd.map (·.use) = uses
      ∧ (∀ line, (∃ party ∈ crowd, party.isDone = false) →
        ∃ place next, crowd.step? line place = some next)
      ∧ (∀ line place, ¬ Relation.TransGen (crowd.WaitsFor line) place place)
      ∧ crowd.Exclusive := by
  intro crowd
  obtain ⟨exclusive, same⟩ := exclusive_run (exclusive_start uses) turns
  refine ⟨same.trans ?_, fun line ⟨party, member, busy⟩ => ?_,
    fun _ => not_transGen_waitsFor_self, exclusive⟩
  · rw [start, List.map_map]
    exact List.map_id _
  · obtain ⟨place, here⟩ := List.getElem?_of_mem member
    exact exists_step here busy

/-- Two batches that name the same keys in opposite order, and a copy. The second batch and the copy
have to wait, but not the first batch. -/
theorem never_stuck_opposite_batches :
    let uses : List Use := [.batch ["b", "a"] .write, .batch ["a", "b"] .write, .capture]
    let nobody : Nat → Bool := fun _ => false
    let turns := [(0, nobody), (1, nobody), (0, nobody), (1, nobody), (2, nobody)]
    let crowd := (start uses).run turns
    (∃ party ∈ crowd, party.isDone = false)
      ∧ crowd.step? nobody 1 = none ∧ crowd.step? nobody 2 = none
      ∧ ∃ place next, crowd.step? nobody place = some next := by
  intro uses nobody turns crowd
  have busy : crowd.any (fun party => !party.isDone) = true := by
    simp only [crowd, turns, uses, nobody]
    cbv
  have waits : crowd.step? nobody 1 = none ∧ crowd.step? nobody 2 = none := by
    simp only [crowd, turns, uses, nobody]
    constructor <;> cbv
  obtain ⟨party, member, working⟩ := List.any_eq_true.1 busy
  have unfinished : ∃ party ∈ crowd, party.isDone = false := ⟨party, member, by simpa using working⟩
  exact ⟨unfinished, waits.1, waits.2, (never_stuck uses turns).2.1 nobody unfinished⟩

/-! ## To the end -/

/-- The locks that are still to be taken and given back. -/
def remaining : Crowd → Nat
  | [] => 0
  | party :: rest => party.remaining + remaining rest

theorem remaining_set {place : Nat} {party changed : Party} (here : crowd[place]? = some party)
    (less : changed.remaining < party.remaining) :
    remaining (crowd.set place changed) < crowd.remaining := by
  induction crowd generalizing place with
  | nil => cases here
  | cons first rest ih =>
    cases place with
    | zero =>
      cases here
      exact Nat.add_lt_add_right less _
    | succ place => exact Nat.add_lt_add_left (ih here) _

/-- **Every step leaves less to do.** -/
theorem remaining_step {place : Nat} {next : Crowd} (stepped : crowd.step? line place = some next) :
    next.remaining < crowd.remaining := by
  obtain ⟨party, here, change⟩ := step?_cases stepped
  rcases change with ⟨need, goal, _, rfl⟩ | ⟨goal, busy, rfl⟩
  · exact remaining_set here (Party.remaining_take goal)
  · exact remaining_set here (Party.remaining_free goal busy)

/-- **Every crowd can be brought to its end.** -/
theorem exists_run_done (crowd : Crowd) :
    ∃ turns, ∀ party ∈ crowd.run turns, party.isDone = true := by
  induction left : crowd.remaining using Nat.strong_induction_on generalizing crowd with
  | _ left ih =>
    by_cases done : ∀ party ∈ crowd, party.isDone = true
    · exact ⟨[], done⟩
    · simp only [not_forall, Bool.not_eq_true] at done
      obtain ⟨party, member, busy⟩ := done
      obtain ⟨place, here⟩ := List.getElem?_of_mem member
      have line : Nat → Bool := fun _ => true
      obtain ⟨mover, next, stepped⟩ : ∃ place next, crowd.step? line place = some next :=
        exists_step here busy
      obtain ⟨turns, finished⟩ := ih _ (left ▸ remaining_step stepped) next rfl
      refine ⟨(mover, line) :: turns, ?_⟩
      show ∀ party ∈ Crowd.run ((crowd.step? line mover).getD crowd) turns, _
      rw [stepped]
      exact finished

end Crowd

end KeyWatch.Locks
