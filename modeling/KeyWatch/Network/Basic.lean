/-
# Network.Basic -- a server and its clients together

A peer is told by the path of its request channel. When another one comes with the same path the
first one vanishes: it closes its ends, but a channel of its own that the server has not opened
can still be opened, unless the other one has a channel of that path.

Everything that a peer does is followed by a `settle`: the server acts until it waits again. The
clients that wait for their welcomes read them in the order in which they came (`greet`); nobody
is greeted before those who came earlier.
-/
import KeyWatch.Client.Listener
import KeyWatch.Network.Peer

namespace KeyWatch

set_option autoImplicit false

/-- The path of a peer's request channel. -/
abbrev PeerId := String

/-- A server and its clients. -/
structure Network where
  host : Host
  peers : List Peer := []
  /-- Peers whose paths others have taken over, the latest first. -/
  formers : List Peer := []
  /-- Peers that have not read their welcomes yet, in the order in which they came. -/
  awaiting : List PeerId := []
  deriving Repr

namespace Network

def ofService (service : Service) : Network := { host := .ofService service }

def service (network : Network) : Service := network.host.service

def withService (network : Network) (service : Service) : Network :=
  { network with host := { network.host with service } }

/-- Open a channel by its path: each one opens once. -/
def openPath {α : Type} (network : Network) (channel : Peer → String → α)
    (opened : List String) (path : String) : Except IoFault α :=
  match (network.peers ++ network.formers).find? (·.offers path) with
  | none => .error (.system .noEntry)
  | some peer =>
    if path ∈ opened ∨ peer.wasOpened network.host path then .error (.system .noEntry)
    else .ok (channel peer path)

/-- How the server reaches the peers. -/
def routes (network : Network) : Routes where
  notifications := network.openPath Peer.outlet
  requests := network.openPath Peer.inlet
  responses := network.openPath Peer.outlet

def round (network : Network) : Network :=
  (List.range network.host.workers.length).foldl
    (fun network slot => { network with host := network.host.step network.routes slot }) network

def rounds : Nat → Network → Network
  | 0, network => network
  | count + 1, network => rounds count network.round

/-- Let the server act until it waits. A client that leaves at once takes three steps: taken,
welcomed, let go. -/
def settle (network : Network) : Network :=
  { network with
    host := network.host.quietly fun host =>
      (rounds (3 * (host.queue.length + 1)) { network with host }).host }

def peer? (network : Network) (id : PeerId) : Option Peer :=
  network.peers.find? (·.paths.requests == id)

def modifyPeer (network : Network) (id : PeerId) (change : Peer → Peer) : Network :=
  { network with
    peers := network.peers.map fun peer =>
      if peer.paths.requests = id then change peer else peer }

/-! ## What clients do -/

/-- Bytes of a peer's request channel arrive, and the server acts. Answers what the peer hears
then. -/
def talk (network : Network) (peer : Peer) (host : Host) (bytes : Bytes) : Bytes × Host :=
  let host := { network with host := peer.deliver host bytes }.settle.host
  (peer.unheard host, host)

/-- Do something with a peer's ends of its channels and the server behind them. -/
def onLine {α : Type} (network : Network) (id : PeerId) (peer : Peer)
    (act : Client.Line → Host → α × Client.Line × Host) : α × Network :=
  let (answer, line, host) := act (peer.currentLine network.host) network.host
  let heard := peer.heard + (peer.unheard host).length
  (answer, { network with host }.modifyPeer id fun peer => { peer with line, heard })

/-- A client asks for something and reads the answer. -/
def request (network : Network) (id : PeerId) (request : Request) :
    Except Error Bool × Network :=
  match network.peer? id with
  | none => (.error (.io .endOfStream), network)
  | some peer =>
    network.onLine id peer fun line host =>
      line.request (network.talk peer) host request

def write (network : Network) (id : PeerId) (bytes : Bytes) : Except Error Unit × Network :=
  match network.peer? id with
  | none => (.error (.io .endOfStream), network)
  | some peer =>
    let line := peer.currentLine network.host
    match line.requests.send bytes with
    | (.error fault, _) => (.error (.io fault), network)
    | (.ok (), requests) =>
      let (_, host) := network.talk peer network.host bytes
      (.ok (), { network with host }.modifyPeer id fun peer =>
        { peer with line := { line with requests } })

def readable (network : Network) (id : PeerId) : Bytes :=
  match network.peer? id with
  | none => []
  | some peer => peer.line.responses ++ peer.unheard network.host

/-- A client reads so many bytes, or less if there are not so many. -/
def read (network : Network) (id : PeerId) (count : Nat) : Bytes × Network :=
  let bytes := network.readable id
  (bytes.take count, network.modifyPeer id fun peer =>
    { peer with
      line := { peer.line with responses := bytes.drop count }
      heard := peer.heard + (peer.unheard network.host).length })

def close (network : Network) (id : PeerId) (path : String) : Network :=
  match network.peer? id with
  | none => network
  | some peer =>
    let network := network.modifyPeer id fun peer => { peer with closed := path :: peer.closed }
    match peer.holder? network.host path with
    | none => network.settle
    | some visit => { network with host := network.host.lose visit path }.settle

def leave (network : Network) (id : PeerId) : Network :=
  network.modifyPeer id fun peer => { peer with isGone := true }

/-- A client closes its ends of its channels, and is gone. -/
def vanish (network : Network) (id : PeerId) : Network :=
  let paths := ((network.peer? id).map (·.paths.paths)).getD []
  (paths.foldl (·.close id) network).leave id

/-! ## Coming in -/

/-- A client that had a path gives way to another one. -/
def giveWay (network : Network) (id : PeerId) : Network :=
  let network := network.vanish id
  { network with
    peers := network.peers.filter (·.paths.requests != id)
    formers := network.peers.filter (·.paths.requests == id) ++ network.formers }

/-- Bring in a client. It waits for a welcome, unless it has ends missing or closed from the
beginning. -/
def join (network : Network) (paths : ConnectRequest) (missing closed : List String) : Network :=
  let id := paths.requests
  let network := network.giveWay id
  let peer : Peer :=
    { paths, missing, closed
      firstId := network.host.nextId, firstAttempt := network.host.attempts.length }
  { network with
    peers := network.peers ++ [peer]
    awaiting :=
      if missing ≠ [] ∨ closed ≠ [] ∨ id ∈ network.awaiting then network.awaiting
      else network.awaiting ++ [id] }

def submit (network : Network) (request : ConnectRequest) : Except Error Unit × Network :=
  match network.host.submit request with
  | .error error => (.error error, network)
  | .ok host => (.ok (), { network with host }.settle)

def register (network : Network) (ending : IoFault) (bytes : Bytes) :
    Except Error Unit × Network :=
  let (result, host) := network.host.takeRegistrations ending bytes
  (result, { network with host }.settle)

def reset (network : Network) : Nat × Network :=
  let after := { network with host := network.host.quietly fun host => host.reset.2 }
  (network.host.reset.1, after.settle)

/-! ## Welcomes -/

/-- Whether a client that reads a welcome now need not wait for it. -/
def canRead (network : Network) (id : PeerId) : Bool :=
  match network.peer? id with
  | none => false
  | some peer =>
    decide (Response.welcome.encode.length ≤ (network.readable id).length)
      || peer.isCut network.host peer.paths.responses

def readWelcome (network : Network) (id : PeerId) : Bytes × Network :=
  let (bytes, network) := network.read id Response.welcome.encode.length
  (bytes, { network with awaiting := network.awaiting.filter (· != id) })

/-- Clients read their welcomes, up to the first one that has to wait. -/
def readWelcomes (network : Network) : List PeerId → List (PeerId × Bytes) × Network
  | [] => ([], network)
  | id :: rest =>
    if network.canRead id then
      let (bytes, network) := network.readWelcome id
      let (welcomes, network) := network.readWelcomes rest
      ((id, bytes) :: welcomes, network)
    else ([], network)

/-- The clients that were taken in read their welcomes. -/
def greet (network : Network) : List (PeerId × Bytes) × Network :=
  network.readWelcomes network.awaiting

/-! ## What clients are told -/

/-- Whether the server's end of a peer's notification channel is closed. -/
def isDismissed (network : Network) (id : PeerId) : Bool :=
  ((network.peer? id).map fun peer => peer.isCut network.host peer.paths.notifications).getD false

/-- What a peer's listener heard since it was last looked at. -/
def news (network : Network) (id : PeerId) : List Notification × Network :=
  match network.peer? id with
  | none => ([], network)
  | some peer =>
    let bytes := peer.received network.host peer.paths.notifications
    let heard := (Client.listen bytes).notifications
    (heard.drop peer.told, network.modifyPeer id fun peer => { peer with told := heard.length })

end Network

end KeyWatch
