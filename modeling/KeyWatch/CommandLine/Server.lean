/-
# CommandLine.Server -- the server program

The server runs every script of a directory, writes what they print for their user to its output,
waits for the backups, and stops. With a registration pipe it makes that pipe first. A command
line, a setting, a pipe or a directory that is no good stops it before the first script.
-/
import KeyWatch.About
import KeyWatch.CommandLine.Usage
import KeyWatch.Job.Directory

namespace KeyWatch.CommandLine

set_option autoImplicit false

def maxSessionsChoice : Choice where
  long := "max-sessions"
  short := some 's'
  about := "Maximum concurrent client sessions"
  standard := 4

def maxSubscriptionsChoice : Choice where
  long := "max-subscriptions"
  about := "Maximum subscriptions per client"
  standard := 10

def serverUsage : Usage where
  program := serverName
  about := "Concurrent bucket-locked key-value store"
  places :=
    [{ label := "JOBS_DIR", about := "Directory containing .job files", kind := .path },
     { label := "MAX_BACKUPS", about := "Maximum concurrent backups", kind := .count },
     { label := "MAX_THREADS", about := "Number of job worker threads", kind := .count },
     { label := "REGISTRY_PATH", about := "Registration FIFO path (enables client sessions)"
       kind := .path, isRequired := false }]
  choices := [maxSessionsChoice, maxSubscriptionsChoice]
  version := some version

def settings (given : Given) : Settings :=
  let place (index : Nat) : String := given.places[index]?.getD ""
  { jobsDir := place 0
    maxBackups := (count? (place 1)).getD 0
    workers := (count? (place 2)).getD 0
    registry := given.places[3]?
    maxSessions := given.choice maxSessionsChoice
    maxSubscriptions := given.choice maxSubscriptionsChoice }

/-- What a program leaves behind. -/
structure Outcome where
  status : Nat
  printed : String := ""
  files : Files
  warnings : List Warning := []
  milliseconds : Nat := 0
  deriving Repr

/-- Make the registration pipe, if there is to be one. -/
def openRegistry (files : Files) : Option String → Except IoFault Files
  | none => .ok files
  | some path => files.makePipe path

/-- Run the server under its settings. -/
def serve (files : Files) (settings : Settings) : Outcome :=
  match settings.check, openRegistry files settings.registry with
  | .error _, _ => { status := 1, files }
  | .ok (), .error _ => { status := 1, files }
  | .ok (), .ok files =>
    let service : Service := { store := .ofSettings settings, files }
    match Job.runDirectory service settings.jobsDir with
    | .error _ => { status := 1, files }
    | .ok batch =>
      let (_, service) := batch.service.terminate
      { status := 0, printed := batch.printed, files := service.files,
        warnings := service.warnings, milliseconds := batch.milliseconds }

def runServer (files : Files) (arguments : List String) : Outcome :=
  match serverUsage.read arguments with
  | .error stop => { status := stop.status, printed := serverUsage.printed stop, files }
  | .ok given => serve files (settings given)

end KeyWatch.CommandLine
