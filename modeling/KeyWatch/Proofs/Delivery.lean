/-
# Proofs.Delivery -- what one channel hears of a series of notices

A notice reaches the channel of its watcher and no other, and it reaches it as one frame if key and
value fit their fields. So what a channel is offered of a series of notices is the frames of those
that are for it, in their order (`channel?_postAll`): nothing depends on what the others are, on
whether they can be delivered, or on how their sinks behave. A channel that is closed or that nobody
owns is offered nothing.
-/
import KeyWatch.Exchange
import KeyWatch.Proofs.Field
import KeyWatch.Proofs.Sink

namespace KeyWatch

set_option autoImplicit false

/-! ## Frames -/

/-- A key and a value in their fields. -/
def Notification.frame (key value : String) : Bytes :=
  padded keyWidth key ++ padded keyWidth value

/-- **A key and a value that fit their fields make a frame.** -/
theorem Notification.encode_eq_ok {key value : String} (keyFits : key.utf8ByteSize ≤ keyWidth)
    (valueFits : value.utf8ByteSize ≤ keyWidth) :
    Notification.encode ⟨key, value⟩ = .ok (Notification.frame key value) := by
  rw [encode, fieldBytes_eq_ok keyFits, fieldBytes_eq_ok valueFits]
  rfl

namespace Notice

/-- Key and value fit their fields. -/
def Fits (notice : Notice) : Prop :=
  notice.key.utf8ByteSize ≤ keyWidth ∧ notice.change.text.utf8ByteSize ≤ keyWidth

/-- The frame of a notice. -/
def frame (notice : Notice) : Bytes := Notification.frame notice.key notice.change.text

end Notice

/-! ## Channels -/

namespace Channel

/-- What is sent to a channel reaches its sink. -/
def isLive (channel : Channel) : Bool := channel.isOpen && channel.isOwned

/-- The channel after bytes were sent to it. -/
def hear (channel : Channel) (bytes : Bytes) : Channel :=
  if channel.isLive then { channel with sink := channel.sink.offered bytes } else channel

@[simp] theorem isLive_hear (channel : Channel) (bytes : Bytes) :
    (channel.hear bytes).isLive = channel.isLive := by
  unfold hear
  split <;> rfl

theorem flows_hear (channel : Channel) (bytes : Bytes) (flows : channel.sink.Flows) :
    (channel.hear bytes).sink.Flows := by
  unfold hear
  split
  · exact flows
  · exact flows

theorem hear_nil (channel : Channel) : channel.hear [] = channel := by
  unfold hear
  split
  · rw [Sink.offered_nil]
  · rfl

theorem hear_hear (channel : Channel) (first second : Bytes) :
    (channel.hear first).hear second = channel.hear (first ++ second) := by
  by_cases live : channel.isLive = true
  · have still : (channel.hear first).isLive = true := by rw [isLive_hear, live]
    unfold hear at still ⊢
    rw [if_pos live] at still ⊢
    rw [if_pos still, if_pos live, Sink.offered_offered]
  · have still : ¬ (channel.hear first).isLive = true := by rwa [isLive_hear]
    unfold hear at still ⊢
    rw [if_neg live] at still ⊢
    rw [if_neg live, if_neg live]

end Channel

namespace Exchange

variable (exchange : Exchange)

theorem channel?_modify (id other : ChannelId) (change : Channel → Channel) :
    (exchange.modify id change).channel? other
      = if id = other then (exchange.channel? other).map change else exchange.channel? other := by
  show (exchange.channels.modify id change)[other]? = _
  rw [Array.getElem?_modify]
  rfl

theorem channel?_openChannel (client : ClientId) (sink : Sink) (id : ChannelId) :
    (exchange.openChannel client sink).2.channel? id
      = if id = exchange.channels.size then some { client, sink } else exchange.channel? id := by
  show (exchange.channels.push { client, sink })[id]? = _
  rw [Array.getElem?_push]
  rfl

/-- **A notice reaches no other channel.** -/
theorem channel?_post_of_ne (notice : Notice) {id : ChannelId}
    (apart : notice.watcher.channel ≠ id) :
    (exchange.post notice).2.channel? id = exchange.channel? id := by
  have sent : (exchange.send notice.watcher.channel ⟨notice.key, notice.change.text⟩).2.channel? id
      = exchange.channel? id := by
    unfold send
    cases Notification.encode ⟨notice.key, notice.change.text⟩ with
    | error fault => rfl
    | ok frame =>
      dsimp only
      cases exchange.channel? notice.watcher.channel with
      | none => rfl
      | some channel =>
        dsimp only
        split
        · exact (channel?_modify exchange _ _ _).trans (if_neg apart)
        · rfl
  unfold post
  split
  · rcases done : exchange.send notice.watcher.channel ⟨notice.key, notice.change.text⟩
      with ⟨result, after⟩
    rw [done] at sent
    cases result with
    | ok _ => exact sent
    | error error => exact sent
  · rfl

/-- **A notice reaches its channel as one frame.** -/
theorem channel?_post_self {notice : Notice} {id : ChannelId} {channel : Channel}
    (ours : notice.watcher.channel = id) (here : exchange.channel? id = some channel)
    (flows : channel.sink.Flows) (fits : notice.Fits) :
    (exchange.post notice).2.channel? id = some (channel.hear notice.frame) := by
  subst ours
  have sent : (exchange.send notice.watcher.channel
        ⟨notice.key, notice.change.text⟩).2.channel? notice.watcher.channel
      = some (if channel.isOpen then { channel with sink := channel.sink.offered notice.frame }
          else channel) := by
    unfold send
    rw [Notification.encode_eq_ok fits.1 fits.2]
    dsimp only
    rw [here]
    dsimp only
    by_cases isOpen : channel.isOpen = true
    · have written : (channel.sink.send (Notification.frame notice.key notice.change.text)).2
          = channel.sink.offered notice.frame := by
        have all := Sink.writeAll_eq channel.sink flows notice.frame
        show (channel.sink.send notice.frame).2 = _
        unfold Sink.send
        rcases done : channel.sink.writeAll notice.frame with ⟨result, after⟩
        rw [done] at all
        cases result with
        | ok _ => exact all
        | error fault => exact all
      rw [if_pos isOpen, if_pos isOpen]
      refine (channel?_modify exchange _ _ _).trans ?_
      rw [if_pos rfl, here, Option.map_some, written]
    · rw [if_neg isOpen, if_neg isOpen]
      exact here
  unfold post
  rw [here, Option.map_some, Option.getD_some]
  by_cases isOwned : channel.isOwned = true
  · rw [if_pos isOwned]
    have heard : channel.hear notice.frame
        = if channel.isOpen then { channel with sink := channel.sink.offered notice.frame }
          else channel := by
      unfold Channel.hear Channel.isLive
      rw [isOwned, Bool.and_true]
    rw [heard]
    rcases done : exchange.send notice.watcher.channel ⟨notice.key, notice.change.text⟩
      with ⟨result, after⟩
    rw [done] at sent
    cases result with
    | ok _ => exact sent
    | error error => exact sent
  · have deaf : ¬ channel.isLive = true := by
      unfold Channel.isLive
      rw [Bool.and_eq_true]
      exact fun both => isOwned both.2
    rw [if_neg isOwned, Channel.hear, if_neg deaf]
    exact here

/-- The frames of the notices for a channel. -/
def framesOn (id : ChannelId) (notices : List Notice) : Bytes :=
  (notices.filter fun notice => notice.watcher.channel = id).flatMap Notice.frame

/-- **A channel is offered the frames of its own notices,** in order. -/
theorem channel?_postAll {exchange : Exchange} {id : ChannelId} {channel : Channel}
    (here : exchange.channel? id = some channel) (flows : channel.sink.Flows)
    (notices : List Notice) (fits : ∀ notice ∈ notices, notice.Fits) :
    (exchange.postAll notices).2.channel? id = some (channel.hear (framesOn id notices)) := by
  induction notices generalizing exchange channel with
  | nil =>
    show exchange.channel? id = some (channel.hear [])
    rw [Channel.hear_nil]
    exact here
  | cons notice rest ih =>
    have restFits : ∀ other ∈ rest, other.Fits := fun other member =>
      fits other (List.mem_cons_of_mem _ member)
    rw [postAll_cons]
    by_cases ours : notice.watcher.channel = id
    · have onward := channel?_post_self exchange ours here flows (fits notice (by simp))
      have later := ih onward (Channel.flows_hear channel notice.frame flows) restFits
      have frames : framesOn id (notice :: rest) = notice.frame ++ framesOn id rest := by
        unfold framesOn
        rw [List.filter_cons_of_pos (by simpa using ours), List.flatMap_cons]
      rw [frames, ← Channel.hear_hear]
      exact later
    · have onward : (exchange.post notice).2.channel? id = some channel := by
        rw [channel?_post_of_ne exchange notice ours]
        exact here
      have frames : framesOn id (notice :: rest) = framesOn id rest := by
        unfold framesOn
        rw [List.filter_cons_of_neg (by simpa using ours)]
      rw [frames]
      exact ih onward flows restFits

end Exchange

end KeyWatch
