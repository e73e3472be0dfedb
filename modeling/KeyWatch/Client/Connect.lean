/-
# Client.Connect -- announcing a client, and clearing its pipes away

A client makes its three pipes, writes a connect message on the registration pipe, and waits for a
welcome. Its pipes are removed when the server turns it away and when the client is released. An
attempt that fails on the way leaves the pipes that it made: only an answer that says no clears
them away (`greet_eq_error`).
-/
import KeyWatch.Files.Basic
import KeyWatch.Warning
import KeyWatch.Wire.Reading

namespace KeyWatch.Client

set_option autoImplicit false

/-- Make pipes, up to the first one that cannot be made. -/
def makePipes (files : Files) : List String → Except IoFault Unit × Files
  | [] => (.ok (), files)
  | path :: rest =>
    match files.makePipe path with
    | .error fault => (.error fault, files)
    | .ok files => makePipes files rest

def removePipes (files : Files) : List String → List Warning × Files
  | [] => ([], files)
  | path :: rest =>
    match files.removePipe path with
    | .ok files => removePipes files rest
    | .error fault =>
      let (warnings, files) := removePipes files rest
      (.pipeNotRemoved path fault :: warnings, files)

/-- Make a client's pipes and find the registration pipe. Answers the connect message that is to
be written on it. -/
def announce (files : Files) (registry : String) (pipes : ConnectRequest) :
    Except Error Bytes × Files :=
  match pipes.encode with
  | .error fault => (.error (.protocol fault), files)
  | .ok message =>
    match makePipes files pipes.paths with
    | (.error fault, files) => (.error (.io fault), files)
    | (.ok (), files) =>
      match files.openForWriting registry with
      | .error fault => (.error (.io fault), files)
      | .ok _ => (.ok message, files)

/-- Read the server's answer to a connect message. -/
def welcomed (answer : Bytes) : Except Error Unit :=
  match Response.read answer with
  | .cutShort => .error (.io .endOfStream)
  | .refused fault _ => .error (.protocol fault)
  | .message response _ =>
    if response = .welcome then .ok ()
    else .error (.session (.refused response.opcode response.result))

def release (files : Files) (pipes : ConnectRequest) : List Warning × Files :=
  removePipes files pipes.paths

/-- Wait for the server's answer. A client that is turned away is released. -/
def greet (files : Files) (pipes : ConnectRequest) (answer : Bytes) :
    Except Error Unit × List Warning × Files :=
  match welcomed answer with
  | .error (.session fault) => (.error (.session fault), release files pipes)
  | result => (result, [], files)

/-- What a client does once its disconnect was answered: one that failed keeps its pipes. -/
def retire {α : Type} (files : Files) (pipes : ConnectRequest) (result : Except Error α) :
    List Warning × Files :=
  match result with
  | .ok _ => release files pipes
  | .error _ => ([], files)

/-! ## Laws -/

/-- An attempt that fails keeps its files as they are, unless the server said no. -/
theorem greet_eq_error (files : Files) (pipes : ConnectRequest) (answer : Bytes) (error : Error)
    (failed : welcomed answer = .error error) (unanswered : ∀ fault, error ≠ .session fault) :
    greet files pipes answer = (.error error, [], files) := by
  unfold greet
  rw [failed]
  cases error with
  | session fault => exact absurd rfl (unanswered fault)
  | _ => rfl

end KeyWatch.Client
