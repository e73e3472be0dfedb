/-
# Stream.Sink -- where written bytes go

A sink keeps what it took. It may have room for a limited number of bytes, take only so many in
one write, and fail when flushed. `writeAll` offers the rest again and again until all is taken or
the sink refuses. Whatever a sink's limits are, it takes a front part of what it is offered, and
all of it when there is no refusal (`writeAll_taken`); a sink without limits never refuses
(`writeAll_unlimited`), and one that is deserted refuses everything (`writeAll_desert`).
-/
import KeyWatch.Stream.Fault
import KeyWatch.Text.Utf8

namespace KeyWatch

set_option autoImplicit false

/-- A place that takes bytes in order. -/
structure Sink where
  taken : Bytes := []
  /-- How many more bytes it will take; `none` for any number. -/
  room : Option Nat := none
  /-- The most bytes that one write takes; `none` for any number. -/
  chunk : Option Nat := none
  /-- How a write fails when there is no room; `none` for a write that takes nothing. -/
  fullFault : Option IoFault := none
  flushFault : Option IoFault := none
  deriving Repr, DecidableEq

namespace Sink

/-- How many bytes one write takes when `offered` are offered. -/
def accepts (sink : Sink) (offered : Nat) : Nat :=
  let inChunk := sink.chunk.elim offered (min offered)
  sink.room.elim inChunk (min inChunk)

def take (sink : Sink) (bytes : Bytes) : Sink :=
  { sink with taken := sink.taken ++ bytes, room := sink.room.map (· - bytes.length) }

/-- The sink once nobody reads what is written: it takes nothing more. -/
def desert (sink : Sink) : Sink :=
  { sink with room := some 0, fullFault := some (.system .brokenPipe) }

/-- Why a write that takes nothing fails. -/
def refusal (sink : Sink) : IoFault :=
  if sink.room = some 0 then sink.fullFault.getD .nothingWritten else .nothingWritten

theorem accepts_le (sink : Sink) (offered : Nat) : sink.accepts offered ≤ offered := by
  have inChunk : sink.chunk.elim offered (min offered) ≤ offered := by
    cases sink.chunk with
    | none => exact Nat.le_refl _
    | some chunk => exact Nat.min_le_left offered chunk
  unfold accepts
  cases sink.room with
  | none => exact inChunk
  | some room => exact Nat.le_trans (Nat.min_le_left _ room) inChunk

/-- Write all bytes, as much at a time as the sink takes. -/
def writeAll (sink : Sink) (bytes : Bytes) : Except IoFault Unit × Sink :=
  if bytes = [] then (.ok (), sink)
  else
    let count := sink.accepts bytes.length
    if count = 0 then (.error sink.refusal, sink)
    else (sink.take (bytes.take count)).writeAll (bytes.drop count)
  termination_by bytes.length
  decreasing_by
    have := sink.accepts_le bytes.length
    simp only [List.length_drop]
    omega

/-- Hand on what the sink holds back. -/
def flush (sink : Sink) : Except IoFault Unit :=
  match sink.flushFault with
  | none => .ok ()
  | some fault => .error fault

def send (sink : Sink) (bytes : Bytes) : Except IoFault Unit × Sink :=
  match sink.writeAll bytes with
  | (.error fault, sink) => (.error fault, sink)
  | (.ok (), sink) => (sink.flush, sink)

/-! ## Laws -/

/-- **A sink takes a front part.** What was taken before stays in front, and success means that
everything offered was taken. -/
theorem writeAll_taken (sink : Sink) (bytes : Bytes) :
    ∃ front, front <+: bytes ∧ (sink.writeAll bytes).2.taken = sink.taken ++ front
      ∧ ((sink.writeAll bytes).1 = .ok () → front = bytes) := by
  fun_induction writeAll sink bytes with
  | case1 sink => exact ⟨[], List.prefix_refl _, by simp, fun _ => rfl⟩
  | case2 sink bytes _ count none => exact ⟨[], List.nil_prefix, by simp, by simp⟩
  | case3 sink bytes _ count some ih =>
    obtain ⟨front, begins, joined, whole⟩ := ih
    refine ⟨bytes.take count ++ front, ?_, ?_, ?_⟩
    · obtain ⟨rest, split⟩ := begins
      exact ⟨rest, by rw [List.append_assoc, split, List.take_append_drop]⟩
    · rw [joined, take, List.append_assoc]
    · intro done
      rw [whole done, List.take_append_drop]

/-- A sink that has neither a limit nor a chunk takes everything at once. -/
theorem writeAll_unlimited (sink : Sink) (bytes : Bytes) (noRoom : sink.room = none)
    (noChunk : sink.chunk = none) :
    sink.writeAll bytes = (.ok (), { sink with taken := sink.taken ++ bytes }) := by
  by_cases empty : bytes = []
  · rw [writeAll]; simp [empty]
  · have count : sink.accepts bytes.length = bytes.length := by simp [accepts, noRoom, noChunk]
    have some : bytes.length ≠ 0 := by simpa using empty
    rw [writeAll]
    simp only [empty, if_false, count, some, List.take_length, List.drop_length]
    rw [writeAll]
    simp [take, noRoom]

theorem writeAll_desert (sink : Sink) (bytes : Bytes) (offered : bytes ≠ []) :
    sink.desert.writeAll bytes = (.error (.system .brokenPipe), sink.desert) := by
  rw [writeAll]
  simp [offered, accepts, desert, refusal]

end Sink

end KeyWatch
