/-
# Proofs.Sink -- how much a sink takes

Whatever the size of its chunks, a sink takes of each writing as much as it has room for, from the
front, and keeps account of its room (`writeAll_eq`). So a sink with unlimited room takes everything
(`writeAll_of_takesAll`), and one with room for a number of bytes takes, of any series of writings,
that many of the bytes that they make together (`offered_offered`).
-/
import KeyWatch.Stream.Sink

namespace KeyWatch.Sink

set_option autoImplicit false

/-- A write takes something as long as there is room. -/
def Flows (sink : Sink) : Prop := sink.chunk ≠ some 0

/-- The front part of `bytes` for which there is room. -/
def portion (sink : Sink) (bytes : Bytes) : Bytes := sink.room.elim bytes fun room => bytes.take room

theorem accepts_eq_zero {sink : Sink} (flows : sink.Flows) {offered : Nat} (some : 0 < offered)
    (nothing : sink.accepts offered = 0) : sink.room = .some 0 := by
  have inChunk : 0 < sink.chunk.elim offered (min offered) := by
    cases chunk : sink.chunk with
    | none => exact some
    | some size =>
      have : size ≠ 0 := by
        rintro rfl
        exact flows chunk
      simp only [Option.elim]
      omega
  unfold accepts at nothing
  cases room : sink.room with
  | none =>
    rw [room] at nothing
    exact absurd nothing (Nat.ne_of_gt inChunk)
  | some left =>
    rw [room] at nothing
    simp only [Option.elim] at nothing inChunk
    congr 1
    omega

theorem accepts_le_room {sink : Sink} {offered room : Nat} (limited : sink.room = some room) :
    sink.accepts offered ≤ room := by
  simp only [accepts, limited, Option.elim]
  exact Nat.min_le_right _ _

/-- The sink once it was offered bytes: it has taken the portion that it had room for. -/
def offered (sink : Sink) (bytes : Bytes) : Sink :=
  { sink with
    taken := sink.taken ++ sink.portion bytes
    room := sink.room.map (· - bytes.length) }

theorem offered_nil (sink : Sink) : sink.offered [] = sink := by
  obtain ⟨taken, room, chunk, fullFault, flushFault⟩ := sink
  cases room <;> simp [offered, portion]

/-- **Offers add up:** what is offered in two parts is offered as a whole. -/
theorem offered_offered (sink : Sink) (first second : Bytes) :
    (sink.offered first).offered second = sink.offered (first ++ second) := by
  obtain ⟨taken, room, chunk, fullFault, flushFault⟩ := sink
  cases room with
  | none => simp [offered, portion]
  | some left =>
    have parts : (first ++ second).take left = first.take left ++ second.take (left - first.length) :=
      List.take_append
    simp only [offered, portion, Option.map_some, Option.elim, List.append_assoc, parts,
      List.length_append]
    congr 2
    omega

/-- **A sink takes the portion that it has room for.** -/
theorem writeAll_eq (sink : Sink) (flows : sink.Flows) (bytes : Bytes) :
    (sink.writeAll bytes).2 = sink.offered bytes := by
  show _ = ({ sink with
    taken := sink.taken ++ sink.portion bytes
    room := sink.room.map (· - bytes.length) } : Sink)
  fun_induction writeAll sink bytes with
  | case1 sink =>
    obtain ⟨taken, room, chunk, fullFault, flushFault⟩ := sink
    cases room <;> simp [portion]
  | case2 sink bytes offered count none =>
    have full := accepts_eq_zero flows (List.length_pos_iff.2 offered) none
    obtain ⟨taken, room, chunk, fullFault, flushFault⟩ := sink
    subst full
    simp [portion]
  | case3 sink bytes offered count some ih =>
    have within : count ≤ bytes.length := accepts_le sink _
    rw [ih flows]
    cases room : sink.room with
    | none => simp [portion, take, room]
    | some left =>
      have fits : count ≤ left := accepts_le_room room
      have parts : bytes.take count ++ (bytes.drop count).take (left - count) = bytes.take left := by
        rw [← List.take_add, Nat.add_sub_cancel' fits]
      simp only [portion, take, room, Option.map_some, Option.elim, List.length_take,
        List.length_drop, List.append_assoc, Nat.min_eq_left within, parts]
      congr 2
      omega

/-- A sink that takes whatever is written. -/
def TakesAll (sink : Sink) : Prop := sink.room = none ∧ sink.Flows

theorem writeAll_of_takesAll {sink : Sink} (takesAll : sink.TakesAll) (bytes : Bytes) :
    sink.writeAll bytes = (.ok (), { sink with taken := sink.taken ++ bytes }) := by
  refine Prod.ext ?_ ?_
  · fun_induction writeAll sink bytes with
    | case1 => rfl
    | case2 sink bytes offered count none =>
      have full := accepts_eq_zero takesAll.2 (List.length_pos_iff.2 offered) none
      rw [takesAll.1] at full
      cases full
    | case3 sink bytes _ count _ ih =>
      refine ih ⟨?_, takesAll.2⟩
      simp [take, takesAll.1]
  · rw [writeAll_eq sink takesAll.2]
    simp [offered, portion, takesAll.1]

/-! ## Sending -/

/-- **A message arrives from its front,** and wholly if the sending succeeds. -/
theorem send_taken (sink : Sink) (bytes : Bytes) :
    ∃ front, front <+: bytes ∧ (sink.send bytes).2.taken = sink.taken ++ front
      ∧ ((sink.send bytes).1.isOk = true → front = bytes) := by
  obtain ⟨front, begins, joined, whole⟩ := sink.writeAll_taken bytes
  refine ⟨front, begins, ?_, ?_⟩
  · unfold send
    split
    · next fault after done =>
      rw [done] at joined
      exact joined
    · next after done =>
      rw [done] at joined
      exact joined
  · unfold send
    split
    · intro none
      cases none
    · next after done =>
      rw [done] at whole
      intro _
      exact whole rfl

/-- A sink that takes whatever is written, and hands it on. -/
def Healthy (sink : Sink) : Prop := sink.TakesAll ∧ sink.flushFault = none

theorem send_of_healthy {sink : Sink} (healthy : sink.Healthy) (bytes : Bytes) :
    sink.send bytes = (.ok (), { sink with taken := sink.taken ++ bytes }) := by
  rw [send, writeAll_of_takesAll healthy.1]
  show (flush _, _) = _
  rw [flush, healthy.2]

end KeyWatch.Sink
