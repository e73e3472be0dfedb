/-
# Network.Peer -- a client as its channels see it

A peer is what a client wrote and read, and which of its ends it has closed. The server may open a
channel long after the client has begun to write; what was written meanwhile waits in the channel.
Each channel opens once.

A connect message is free to name channels of several peers, and each of them for any purpose. So
a peer and a visit meet by path alone: what reaches a peer on a channel is what the visit that
holds the channel sends there (`Peer.holder?`, `Visit.sent`), and bytes are read only where they
arrive on the channel that the visit takes for its requests (`Visit.receive`). Paths come again;
whether a visit belongs to an earlier user of a path is told by the number of its session.
-/
import KeyWatch.Client.Call
import KeyWatch.Session.Host

namespace KeyWatch

set_option autoImplicit false

/-! ## The server's ends -/

namespace Visit

def sent (visit : Visit) (exchange : Exchange) (path : String) : Bytes :=
  if path = visit.request.responses then visit.session.responses.taken
  else if path = visit.request.notifications then
    ((exchange.channel? visit.session.channel).map (·.sink.taken)).getD []
  else []

def hasShut (visit : Visit) (exchange : Exchange) (path : String) : Bool :=
  if path = visit.request.responses then !visit.session.isAnswering
  else if path = visit.request.notifications then exchange.isClosed visit.session.channel
  else visit.requests.isClosed

def receive (visit : Visit) (path : String) (bytes : Bytes) : Visit :=
  if path = visit.request.requests then
    { visit with requests := { visit.requests with bytes := visit.requests.bytes ++ bytes } }
  else visit

def lose (visit : Visit) (path : String) : Visit :=
  if path = visit.request.requests then
    { visit with requests := { visit.requests with isEnded := true } }
  else if path = visit.request.responses then
    { visit with
      session := { visit.session with responses := visit.session.responses.desert } }
  else visit

end Visit

/-- The client's end of a channel that a visit holds is closed. -/
def Host.lose (host : Host) (visit : Visit) (path : String) : Host :=
  let exchange := host.service.exchange
  let exchange := if path = visit.request.notifications then
      exchange.desert visit.session.channel
    else exchange
  let service := { host.service with exchange }
  { host with service }.modifyVisit visit.session.id (·.lose path)

/-! ## The client's ends -/

/-- A client and its ends of its channels. -/
structure Peer where
  paths : ConnectRequest
  /-- The least number that its session can have. -/
  firstId : ClientId
  /-- Number of attempts at opening channels that were made before it came. -/
  firstAttempt : Nat
  missing : List String := []
  closed : List String := []
  line : Client.Line := {}
  /-- Response bytes that have reached the line. -/
  heard : Nat := 0
  told : Nat := 0
  isGone : Bool := false
  deriving Repr

namespace Peer

def offers (peer : Peer) (path : String) : Bool :=
  peer.paths.paths.contains path && !peer.missing.contains path

def wasOpened (peer : Peer) (host : Host) (path : String) : Bool :=
  (host.attempts.drop peer.firstAttempt).any (path ∈ ·.opened)

/-- The server's end of a channel on which it writes. -/
def outlet (peer : Peer) (path : String) : Sink :=
  if path ∈ peer.closed then Sink.desert {} else {}

/-- The server's end of a channel on which it reads: only the request channel was written on. -/
def inlet (peer : Peer) (path : String) : Inbox :=
  { bytes := if path = peer.paths.requests then peer.line.requests.taken else []
    isEnded := peer.closed.contains path }

/-- The visit that holds a channel of the peer, or held it. -/
def holder? (peer : Peer) (host : Host) (path : String) : Option Visit :=
  if peer.offers path then
    host.findVisit? fun visit =>
      visit.request.paths.contains path && decide (peer.firstId ≤ visit.session.id)
  else none

def received (peer : Peer) (host : Host) (path : String) : Bytes :=
  ((peer.holder? host path).map (·.sent host.service.exchange path)).getD []

/-- Whether the server's end of a channel is closed for good. -/
def isCut (peer : Peer) (host : Host) (path : String) : Bool :=
  match peer.holder? host path with
  | some visit => visit.hasShut host.service.exchange path
  | none => !peer.offers path || peer.wasOpened host path

/-- The ends of the request and the response channel as the client finds them: nothing can be
written on a request channel that is closed at either end. -/
def currentLine (peer : Peer) (host : Host) : Client.Line :=
  let path := peer.paths.requests
  if path ∈ peer.closed ∨ peer.isCut host path then
    { peer.line with requests := peer.line.requests.desert }
  else peer.line

/-- Response bytes that the server sent and the line has not taken yet. -/
def unheard (peer : Peer) (host : Host) : Bytes :=
  (peer.received host peer.paths.responses).drop peer.heard

def deliver (peer : Peer) (host : Host) (bytes : Bytes) : Host :=
  let path := peer.paths.requests
  match peer.holder? host path with
  | none => host
  | some visit => host.modifyVisit visit.session.id (·.receive path bytes)

end Peer

end KeyWatch
