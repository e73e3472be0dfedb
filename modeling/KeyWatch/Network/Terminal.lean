/-
# Network.Terminal -- the interactive client and its server

A terminal shows what the client prints, in order: what its listener heard comes before the answer
to the next line. During a pause what is typed waits to be read (`type_of_isPausing`), while the
listener goes on. A pause is over when somebody waits for more than was printed (`await`), or for
the client to stop (`leave`). A client whose session the server has ended stops at once, pausing or
not, with its pipes cleared away.
-/
import KeyWatch.Client.Console
import KeyWatch.Client.Pipes
import KeyWatch.Network.Pipes

namespace KeyWatch

set_option autoImplicit false

structure Terminal where
  network : Network
  peer : PeerId := ""
  out : String := ""
  err : String := ""
  /-- The exit status, once the client has stopped. -/
  exit : Option Nat := none
  isPausing : Bool := false
  unread : List Bytes := []
  deriving Repr

namespace Terminal

def start (network : Network) (registry id : String) : Terminal :=
  let connection := network.connect registry (Client.pipes id)
  match connection.result with
  | .error _ => { network := connection.network, exit := some 1 }
  | .ok peer => { network := connection.network, peer, out := Client.connectedLine }

/-- Print what the listener heard, and stop if the server has ended the session. -/
def catchUp (terminal : Terminal) : Terminal :=
  if terminal.exit.isSome then terminal
  else
    let (news, network) := terminal.network.news terminal.peer
    let out := terminal.out ++ String.join (news.map Client.notificationLine)
    if network.isDismissed terminal.peer then
      { terminal with
        network := network.abandon terminal.peer, out, exit := some 0, isPausing := false }
    else { terminal with network, out }

def sayGoodbye (terminal : Terminal) : Terminal :=
  let terminal := terminal.catchUp
  if terminal.exit.isSome then terminal
  else
    match terminal.network.disconnect terminal.peer with
    | (.ok (), network) =>
      { terminal with network, out := terminal.out ++ Client.disconnectedLine, exit := some 0 }
    | (.error _, network) => { terminal with network, exit := some 1 }

def readLine (terminal : Terminal) (line : Bytes) : Terminal :=
  let terminal := terminal.catchUp
  if terminal.exit.isSome then terminal
  else
    match Client.Move.ofLine line, terminal.network.peer? terminal.peer with
    | .leave, _ => terminal.sayGoodbye
    | _, none => terminal
    | move, some peer =>
      let network := terminal.network
      let ((console, isPausing), network) :=
        network.onLine terminal.peer peer fun line server =>
          let console : Client.Console Host :=
            { server, line, out := terminal.out, err := terminal.err }
          let console := console.obey (network.talk peer) move
          ((console, decide (0 < console.milliseconds)), console.line, console.server)
      let terminal := { terminal with network, isPausing }
      { terminal with out := console.out, err := console.err }.catchUp

/-- Read lines, up to the one that calls for a pause. -/
def readLines (terminal : Terminal) : List Bytes → Terminal
  | [] => { terminal with unread := [] }
  | line :: rest =>
    if terminal.isPausing ∨ terminal.exit.isSome then { terminal with unread := line :: rest }
    else (terminal.readLine line).readLines rest

def type (terminal : Terminal) (text : Bytes) : Terminal :=
  terminal.readLines (terminal.unread ++ Text.lines text)

/-! ## Time -/

def resume (terminal : Terminal) : Terminal :=
  { terminal with isPausing := false }.readLines terminal.unread

/-- Let so many pauses at most go by, as long as something is missing. -/
def resumeWhile (isMissing : Terminal → Bool) : Nat → Terminal → Terminal
  | 0, terminal => terminal
  | count + 1, terminal =>
    if terminal.isPausing && isMissing terminal then resumeWhile isMissing count terminal.resume
    else terminal

/-- The most pauses that can follow each other: each one was called for by a line. -/
def maxPauses (terminal : Terminal) : Nat := terminal.unread.length + 1

/-- Wait for so many printed lines and so many complaints. -/
def await (terminal : Terminal) (printed complaints : Nat) : Terminal :=
  let isMissing (terminal : Terminal) : Bool :=
    terminal.out.toList.count '\n' < printed || terminal.err.toList.count '\n' < complaints
  terminal.resumeWhile isMissing terminal.maxPauses

/-- The input has ended: wait for the client to stop. -/
def leave (terminal : Terminal) : Terminal :=
  (terminal.resumeWhile (fun _ => true) terminal.maxPauses).sayGoodbye

/-! ## Laws -/

/-- **What is typed during a pause waits.** -/
theorem type_of_isPausing (terminal : Terminal) (text : Bytes) (pausing : terminal.isPausing) :
    terminal.type text = { terminal with unread := terminal.unread ++ Text.lines text } := by
  rw [type]
  cases terminal.unread ++ Text.lines text with
  | nil => rw [readLines]
  | cons line rest => rw [readLines, if_pos (.inl pausing)]

end Terminal

end KeyWatch
