/-
# Network.Pipes -- clients that come and go by named pipes

A client announces itself on the registration pipe, and the server reads that pipe to its end
before it looks at the client. However a client goes, its ends of its channels are closed; whether
its pipes go with it is told by the functions of `Client.Connect`.
-/
import KeyWatch.Client.Connect
import KeyWatch.Network.Basic

namespace KeyWatch.Network

set_option autoImplicit false

def files (network : Network) : Files := network.service.files

/-- The files after a client's doing, and what it warns about. -/
def withFiles (network : Network) (after : List Warning × Files) : Network :=
  let service := network.service
  network.withService
    { service with files := after.2, warnings := service.warnings ++ after.1 }

structure Connection where
  result : Except Error PeerId
  /-- What came of the registration pipe, if anything was written on it. -/
  served : Option (Except Error Unit) := none
  network : Network

/-- A client makes its pipes, announces itself and waits for a welcome. -/
def connect (network : Network) (registry : String) (pipes : ConnectRequest) : Connection :=
  let (announced, files) := Client.announce network.files registry pipes
  let network := network.withFiles ([], files)
  match announced with
  | .error error => { result := .error error, network }
  | .ok message =>
    let id := pipes.requests
    let (served, network) := (network.join pipes [] []).register .endOfStream message
    let (greeting, network) := network.readWelcome id
    let (result, after) := Client.greet network.files pipes greeting
    let network := network.withFiles after
    match result with
    | .ok () => { result := .ok id, served := some served, network }
    | .error error =>
      { result := .error error, served := some served, network := network.vanish id }

def disconnect (network : Network) (id : PeerId) : Except Error Unit × Network :=
  match network.peer? id with
  | none => (.error (.io .endOfStream), network)
  | some peer =>
    let (result, network) := network.request id .disconnect
    let network := network.withFiles (Client.retire network.files peer.paths result)
    (result.map fun _ => (), network.vanish id)

/-- A client leaves a session that the server has ended. -/
def abandon (network : Network) (id : PeerId) : Network :=
  match network.peer? id with
  | none => network
  | some peer =>
    (network.withFiles (Client.release network.files peer.paths)).vanish id

end KeyWatch.Network
