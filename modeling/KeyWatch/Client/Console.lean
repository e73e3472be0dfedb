/-
# Client.Console -- what a client makes of its input

Each line of the input is one move. Blank lines and comments pass; a line that is no command is
complained about and forgotten; a request is sent and its answer printed. The client leaves at the
command to do so, at a line that is not text, and at the end of its input, and it leaves in one
way: by a disconnect. A request that fails prints nothing and does not end the session.
-/
import KeyWatch.Client.Call
import KeyWatch.Client.Command
import KeyWatch.Text.Lines

namespace KeyWatch.Client

set_option autoImplicit false

inductive Move where
  | pass
  | complain (fault : SyntaxFault)
  | ask (request : Request)
  | pause (milliseconds : Nat)
  | leave
  deriving Repr, DecidableEq

def Command.move : Command → Move
  | .subscribe key => .ask (.subscribe key)
  | .unsubscribe key => .ask (.unsubscribe key)
  | .delay milliseconds => .pause milliseconds
  | .disconnect => .leave

/-- What a line asks for. -/
def Move.ofLine (line : Bytes) : Move :=
  match Text.decode line with
  | .error _ => .leave
  | .ok text =>
    match Command.parse text with
    | .error fault => .complain fault
    | .ok none => .pass
    | .ok (some command) => command.move

/-! ## Texts -/

def connectedLine : String := "Connected to server\n"

def disconnectedLine : String := "Disconnected from server\n"

def waitingLine : String := "Waiting...\n"

def notificationLine (notification : Notification) : String :=
  "(" ++ notification.key ++ "," ++ notification.value ++ ")\n"

def complaintLine (fault : SyntaxFault) : String :=
  "Invalid command. See HELP for usage (" ++ (Error.parse fault).message ++ ")\n"

/-- Printed for the answer to a request: one means that a subscribed key exists, or that an
unsubscribed one was not watched. -/
def answerLine (request : Request) (isGranted : Bool) : String :=
  let report (result : Bool) (operation : String) : String :=
    "Server returned " ++ (if result then "1" else "0") ++ " for operation: " ++ operation ++ "\n"
  match request with
  | .subscribe _ => report isGranted "subscribe"
  | .unsubscribe _ => report (!isGranted) "unsubscribe"
  | .disconnect => disconnectedLine

/-! ## Running -/

/-- A client at work, against a server with states in `σ`. -/
structure Console (σ : Type) where
  server : σ
  line : Line := {}
  out : String := ""
  err : String := ""
  milliseconds : Nat := 0
  deriving Repr

namespace Console

variable {σ : Type} (talk : σ → Bytes → Bytes × σ)

def print (console : Console σ) (text : String) : Console σ :=
  { console with out := console.out ++ text }

/-- Ask the server; an answer is printed. -/
def ask (console : Console σ) (request : Request) : Except Error Bool × Console σ :=
  let (result, line, server) := console.line.request talk console.server request
  let console := { console with line, server }
  match result with
  | .ok isGranted => (result, console.print (answerLine request isGranted))
  | .error _ => (result, console)

/-- Make a move other than to leave. -/
def obey (console : Console σ) : Move → Console σ
  | .pass => console
  | .complain fault => { console with err := console.err ++ complaintLine fault }
  | .ask request => (console.ask talk request).2
  | .pause 0 => console
  | .pause milliseconds =>
    { console.print waitingLine with milliseconds := console.milliseconds + milliseconds }
  | .leave => console

def leave (console : Console σ) : Except Error Bool × Console σ := console.ask talk .disconnect

/-- Work through the lines of the input, and leave. -/
def run (console : Console σ) : List Bytes → Except Error Bool × Console σ
  | [] => console.leave talk
  | line :: rest =>
    match Move.ofLine line with
    | .leave => console.leave talk
    | move => (console.obey talk move).run rest

/-- **Input after a leave is not looked at.** -/
theorem run_leave (console : Console σ) (line : Bytes) (rest : List Bytes)
    (leaves : Move.ofLine line = .leave) :
    console.run talk (line :: rest) = console.run talk [] := by
  simp only [run, leaves]

end Console

end KeyWatch.Client
