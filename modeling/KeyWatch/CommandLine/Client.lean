/-
# CommandLine.Client -- the client program

The client is given its id and the registration pipe of a server.
-/
import KeyWatch.About
import KeyWatch.CommandLine.Usage
import KeyWatch.Network.Terminal

namespace KeyWatch.CommandLine

set_option autoImplicit false

def clientUsage : Usage where
  program := clientName
  about := "Subscribe to BucketKV key changes"
  places :=
    [{ label := "CLIENT_ID", about := "Unique id used to name this client's FIFOs"
       kind := .text },
     { label := "REGISTRY_PATH", about := "Server registration FIFO", kind := .path }]

def startClient (network : Network) (arguments : List String) : Terminal :=
  match clientUsage.read arguments with
  | .error stop => { network, out := clientUsage.printed stop, exit := some stop.status }
  | .ok given =>
    .start network (given.places[1]?.getD "") (given.places[0]?.getD "")

end KeyWatch.CommandLine
