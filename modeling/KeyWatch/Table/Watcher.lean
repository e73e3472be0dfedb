/-
# Table.Watcher -- who is told about an entry

An entry keeps the watchers that want to hear of its changes, in the order in which they came and
at most one for each client. A change owes each of them one notice, in that order
(`Watchers.notices`); what becomes of a notice is no concern of the entry.
-/
import KeyWatch.Wire.Message

namespace KeyWatch

set_option autoImplicit false

abbrev ClientId := Nat

abbrev ChannelId := Nat

/-- A client that watches an entry, and the channel on which it is told. -/
structure Watcher where
  client : ClientId
  channel : ChannelId
  deriving Repr, DecidableEq

inductive Change where
  | updated (value : String)
  | deleted
  deriving Repr, DecidableEq

/-- Stands in a notification for the value of a deleted key. -/
def deletedText : String := "DELETE"

/-- The value by which a change is told. -/
def Change.text : Change → String
  | .updated value => value
  | .deleted => deletedText

/-- One watcher's news of one change. -/
structure Notice where
  watcher : Watcher
  key : String
  change : Change
  deriving Repr, DecidableEq

/-- What an operation on stored entries leaves: its answer, the new state, and the notices that it
owes, in the order of the changes. -/
structure Update (σ α : Type) where
  answer : α
  state : σ
  notices : List Notice := []

abbrev Watchers := List Watcher

namespace Watchers

def clients (watchers : Watchers) : List ClientId := watchers.map (·.client)

def has (watchers : Watchers) (client : ClientId) : Bool := watchers.any (·.client == client)

/-- Add a watcher unless its client is one already. -/
def add (watchers : Watchers) (watcher : Watcher) : Watchers :=
  if watchers.has watcher.client then watchers else watchers ++ [watcher]

def remove (watchers : Watchers) (client : ClientId) : Watchers :=
  watchers.filter (·.client != client)

/-- The notices that a change owes. -/
def notices (watchers : Watchers) (key : String) (change : Change) : List Notice :=
  watchers.map fun watcher => ⟨watcher, key, change⟩

/-! ## Laws -/

theorem has_iff (watchers : Watchers) (client : ClientId) :
    watchers.has client = true ↔ client ∈ watchers.clients := by
  simp [has, clients]

theorem nodup_clients_add (watchers : Watchers) (watcher : Watcher)
    (distinct : watchers.clients.Nodup) : (watchers.add watcher).clients.Nodup := by
  unfold add
  split
  · exact distinct
  · next new =>
    have absent : watcher.client ∉ watchers.clients := fun present =>
      new ((has_iff _ _).2 present)
    simp only [clients, List.map_append, List.map_cons, List.map_nil]
    rw [List.nodup_append]
    refine ⟨distinct, by simp, ?_⟩
    intro first old second new same
    simp only [List.mem_singleton] at new
    exact absent (by rw [← new, ← same]; exact old)

theorem clients_remove (watchers : Watchers) (client : ClientId) :
    (watchers.remove client).clients = watchers.clients.filter (· != client) := by
  simp [remove, clients, List.filter_map, Function.comp_def]

end Watchers

end KeyWatch
