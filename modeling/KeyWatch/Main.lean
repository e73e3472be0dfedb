/-
# Main -- the two programs

`server ARGUMENTS` runs scripts on the files of this machine: the directory that the arguments name
is taken in, the server is run on it, and what it made is written back. `client ARGUMENTS` connects
to a server through pipes that stand ready under the client's names; pipes are not made here.
Everything that is decided is decided elsewhere; this module moves bytes.
-/
import KeyWatch.Client.Connect
import KeyWatch.Client.Console
import KeyWatch.CommandLine.Client
import KeyWatch.CommandLine.Server

namespace KeyWatch

set_option autoImplicit false

/-! ## Server -/

def pathOf (place : List String) : String := "/" ++ String.intercalate "/" place

/-- The place that a path leads to if every part of it is a directory. -/
def placeOf (workingDir : List String) (path : String) : List String :=
  let start := if path.startsWith "/" then [] else workingDir
  ((path.splitOn "/").filter fun part => part != "" && part != ".").foldl
    (fun place part => if part = ".." then place.dropLast else place ++ [part]) start

def above (place : List String) : List (List String) :=
  (List.range place.length).map place.take

/-- A directory of this machine and those above it; only these if it cannot be read. -/
def takeIn (workingDir place : List String) : IO Files := do
  let known := (above workingDir ++ [workingDir] ++ above place).foldl
    (fun (files : Files) directory =>
      if directory.isEmpty then files else files.put directory .directory) { workingDir }
  try
    let mut files := known.put place .directory
    for entry in ← (← IO.FS.realPath (pathOf place)).readDir do
      let node ←
        if ← entry.path.isDir then pure FileNode.directory
        else pure (.file (← IO.FS.readBinFile entry.path).toList)
      files := files.put (place ++ [entry.fileName]) node
    return files
  catch _ => return known

/-- Write back what changed. Answers whether all of it could be made. -/
def writeBack (before after : Files) : IO Bool := do
  let mut complete := true
  for (place, node) in after.nodes do
    if before.node? place != some node then
      match node with
      | .file contents => IO.FS.writeBinFile (pathOf place) (ByteArray.mk contents.toArray)
      | .directory => IO.FS.createDir (pathOf place)
      | .pipe =>
        IO.eprintln ("Pipes are not made here: " ++ pathOf place)
        complete := false
  return complete

def serverMain (arguments : List String) : IO UInt32 := do
  let workingDir := placeOf [] (← IO.currentDir).toString
  let before ← match CommandLine.serverUsage.read arguments with
    | .error _ => pure {}
    | .ok given => takeIn workingDir (placeOf workingDir (CommandLine.settings given).jobsDir)
  let outcome := CommandLine.runServer before arguments
  if outcome.status = 2 then IO.eprint CommandLine.serverUsage.summary
  for warning in outcome.warnings do
    IO.eprintln warning.message
  IO.sleep outcome.milliseconds.toUInt32
  let complete ← writeBack before outcome.files
  IO.print outcome.printed
  return if complete then outcome.status.toUInt32 else 1

/-! ## Client -/

/-- Read so many bytes, or less if the channel ends before. -/
partial def receive (channel : IO.FS.Handle) (count : Nat) : IO Bytes := do
  if count = 0 then return []
  let bytes := (← channel.read count.toUSize).toList
  if bytes.isEmpty then return []
  return bytes ++ (← receive channel (count - bytes.length))

/-- Print what comes on the notification channel until it ends. -/
partial def listenTo (channel : IO.FS.Handle) : IO Unit := do
  let heard := Client.listen (← receive channel notificationSize)
  for notification in heard.notifications do
    IO.print (Client.notificationLine notification)
    (← IO.getStdout).flush
  match heard.trouble, heard.notifications with
  | some warning, _ => IO.eprintln warning.message
  | none, [] => return
  | none, _ => listenTo channel

def askServer (requests responses : IO.FS.Handle) (line : Client.Line) (request : Request) :
    IO (Bool × Client.Line) := do
  match line.ask request with
  | (.error _, line) => return (false, line)
  | (.ok (), asked) =>
    requests.write (ByteArray.mk (asked.requests.taken.drop line.requests.taken.length).toArray)
    requests.flush
    let answer ← receive responses Response.welcome.encode.length
    let asked := { asked with responses := asked.responses ++ answer }
    let (result, line) := asked.hear request.opcode
    match result with
    | .error _ => return (false, line)
    | .ok response =>
      IO.print (Client.answerLine request (Client.granted request response))
      (← IO.getStdout).flush
      return (true, line)

/-- Work through the input. Answers whether the server agreed to the disconnect. -/
partial def converse (requests responses : IO.FS.Handle) (input : IO.FS.Stream)
    (listener : Task (Except IO.Error Unit)) (line : Client.Line) : IO Bool := do
  if ← IO.hasFinished listener then return true
  let typed := Text.utf8 (← try input.getLine catch _ => pure "")
  if ← IO.hasFinished listener then return true
  match (Text.lines typed).map Client.Move.ofLine with
  | [] | .leave :: _ => return (← askServer requests responses line .disconnect).1
  | .ask request :: _ =>
    converse requests responses input listener
      (← askServer requests responses line request).2
  | .complain fault :: _ =>
    IO.eprint (Client.complaintLine fault)
    converse requests responses input listener line
  | .pause milliseconds :: _ =>
    if milliseconds ≠ 0 then
      IO.print Client.waitingLine
      (← IO.getStdout).flush
      IO.sleep milliseconds.toUInt32
    converse requests responses input listener line
  | .pass :: _ => converse requests responses input listener line

def clientMain (arguments : List String) : IO UInt32 := do
  match CommandLine.clientUsage.read arguments with
  | .error stop =>
    IO.print (CommandLine.clientUsage.printed stop)
    if stop = .misuse then IO.eprint CommandLine.clientUsage.summary
    return stop.status.toUInt32
  | .ok given =>
    let pipes := Client.pipes (given.places[0]?.getD "")
    let registry := given.places[1]?.getD ""
    try
      let message ← match pipes.encode with
        | .error fault => throw (IO.userError (Error.protocol fault).message)
        | .ok message => pure message
      let names := registry :: pipes.paths
      for name in names do
        if (← (← IO.FS.realPath name).metadata).type != .other then
          throw (IO.userError ("No pipe stands ready: " ++ name))
      let door ← IO.FS.Handle.mk registry .append
      door.write (ByteArray.mk message.toArray)
      door.flush
      let notifications ← IO.FS.Handle.mk pipes.notifications .read
      let requests ← IO.FS.Handle.mk pipes.requests .append
      let responses ← IO.FS.Handle.mk pipes.responses .read
      match Client.welcomed (← receive responses Response.welcome.encode.length) with
      | .error error => throw (IO.userError error.message)
      | .ok () =>
        IO.print Client.connectedLine
        (← IO.getStdout).flush
        let listener ← IO.asTask (listenTo notifications)
        let agreed ← converse requests responses (← IO.getStdin) listener {}
        if agreed then
          for name in pipes.paths do
            IO.FS.removeFile name
        return if agreed then 0 else 1
    catch error =>
      IO.eprintln ("Failed to connect to the server: " ++ toString error)
      return 1

end KeyWatch

/-- Run the program that the first argument names. -/
def main (arguments : List String) : IO UInt32 :=
  match arguments with
  | "server" :: rest => KeyWatch.serverMain rest
  | "client" :: rest => KeyWatch.clientMain rest
  | _ => do
    IO.eprintln "Usage: server ARGUMENTS | client ARGUMENTS"
    return 2
