/-
# Exchange -- notification channels and what reaches them

The exchange keeps every channel that was opened, by number, so that what a channel received stays
known. A channel carries notifications of one client while it is open. Its owner can close it, and
can go away: then notices for it are passed over in silence. `post` delivers one notice and
touches no other channel; a delivery that fails is reported and stops nobody else's
(`postAll_cons`).
-/
import KeyWatch.Stream.Sink
import KeyWatch.Warning

namespace KeyWatch

set_option autoImplicit false

structure Channel where
  client : ClientId
  sink : Sink
  isOpen : Bool := true
  isOwned : Bool := true
  deriving Repr

def Channel.describe (channel : Channel) : String :=
  "Notifier \x7b client: " ++ toString channel.client ++ ", closed: "
    ++ (if channel.isOpen then "false" else "true") ++ " \x7d"

inductive Delivery where
  | delivered
  /-- Nobody owns the channel any more. -/
  | passedOver
  | failed (error : Error)
  deriving Repr, DecidableEq

structure Exchange where
  channels : Array Channel := #[]
  deriving Repr

namespace Exchange

def openChannel (exchange : Exchange) (client : ClientId) (sink : Sink) : ChannelId × Exchange :=
  (exchange.channels.size, ⟨exchange.channels.push { client, sink }⟩)

def channel? (exchange : Exchange) (id : ChannelId) : Option Channel := exchange.channels[id]?

def modify (exchange : Exchange) (id : ChannelId) (change : Channel → Channel) : Exchange :=
  ⟨exchange.channels.modify id change⟩

def isClosed (exchange : Exchange) (id : ChannelId) : Bool :=
  ((exchange.channel? id).map (!·.isOpen)).getD true

def close (exchange : Exchange) (id : ChannelId) : Exchange :=
  exchange.modify id fun channel => { channel with isOpen := false }

/-- The client stops reading a channel. -/
def desert (exchange : Exchange) (id : ChannelId) : Exchange :=
  exchange.modify id fun channel => { channel with sink := channel.sink.desert }

/-- The owner of a channel goes away. -/
def disown (exchange : Exchange) (id : ChannelId) : Exchange :=
  exchange.modify id fun channel => { channel with isOwned := false }

/-- Write one notification. A text too long for its field is refused before the channel is
looked at. -/
def send (exchange : Exchange) (id : ChannelId) (notification : Notification) :
    Except Error Unit × Exchange :=
  match notification.encode with
  | .error fault => (.error (.protocol fault), exchange)
  | .ok frame =>
    match exchange.channel? id with
    | none => (.ok (), exchange)
    | some channel =>
      if channel.isOpen then
        let (result, sink) := channel.sink.send frame
        (result.mapError .io, exchange.modify id fun channel => { channel with sink })
      else (.error (.session (.notificationsClosed channel.client)), exchange)

def post (exchange : Exchange) (notice : Notice) : Delivery × Exchange :=
  if ((exchange.channel? notice.watcher.channel).map (·.isOwned)).getD false then
    match exchange.send notice.watcher.channel ⟨notice.key, notice.change.text⟩ with
    | (.ok (), exchange) => (.delivered, exchange)
    | (.error error, exchange) => (.failed error, exchange)
  else (.passedOver, exchange)

/-- Deliver notices in order. Answers what became of each. -/
def postAll (exchange : Exchange) : List Notice → List (Notice × Delivery) × Exchange
  | [] => ([], exchange)
  | notice :: rest =>
      let (delivery, exchange) := exchange.post notice
      let (deliveries, exchange) := exchange.postAll rest
      ((notice, delivery) :: deliveries, exchange)

/-- The warnings that deliveries call for. -/
def warnings (deliveries : List (Notice × Delivery)) : List Warning :=
  deliveries.filterMap fun
    | (notice, .failed error) => some (.notNotified notice.watcher.client notice.key error)
    | _ => none

/-! ## Laws -/

theorem postAll_cons (exchange : Exchange) (notice : Notice) (rest : List Notice) :
    exchange.postAll (notice :: rest)
      = ((notice, (exchange.post notice).1) :: ((exchange.post notice).2.postAll rest).1,
          ((exchange.post notice).2.postAll rest).2) := rfl

/-- **Every notice is answered,** whatever became of those before it. -/
theorem map_fst_postAll (exchange : Exchange) (notices : List Notice) :
    (exchange.postAll notices).1.map (·.1) = notices := by
  induction notices generalizing exchange with
  | nil => rfl
  | cons notice rest ih => rw [postAll_cons, List.map_cons, ih]

end Exchange

end KeyWatch
