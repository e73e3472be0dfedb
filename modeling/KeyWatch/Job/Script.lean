/-
# Job.Script -- running a script

A script is run line by line. A line that is no command, and a command that fails, are counted and
warned about, and the script goes on; only a line that is not text stops it. Backups are numbered
from one, and a number is used up by a backup that could be started. `Run.lines_append` says that a
script is run piece by piece: what comes later starts from what the earlier lines left.

The counts of a report have no upper end. A count of backups in 32 bits is the same for a script that
starts fewer than 2^32 of them, and this is assumed.
-/
import KeyWatch.Files.Path
import KeyWatch.Job.Command
import KeyWatch.Store.Service

namespace KeyWatch.Job

set_option autoImplicit false

structure Report where
  /-- Lines that held a command, or should have. -/
  commands : Nat := 0
  /-- Commands that could not be read or carried out. -/
  failed : Nat := 0
  backups : Nat := 0
  deriving Repr, DecidableEq

structure Run where
  service : Service
  out : Sink
  report : Report := {}
  printed : String := ""
  milliseconds : Nat := 0
  deriving Repr

def waitingLine : String := "Waiting...\n"

namespace Run

def execute (run : Run) (job : String) : Command → Except Error Unit × Run
  | .write pairs =>
    let (result, service) := run.service.write pairs
    (result, { run with service })
  | .read keys =>
    let (result, out) := run.service.read keys run.out
    (result, { run with out })
  | .delete keys =>
    let (result, out, service) := run.service.delete keys run.out
    (result, { run with out, service })
  | .showAll =>
    let (result, out) := run.service.showAll run.out
    (result, { run with out })
  | .wait 0 => (.ok (), run)
  | .wait milliseconds =>
    match Service.output run.out waitingLine with
    | (.error error, out) => (.error error, { run with out })
    | (.ok (), out) =>
      (.ok (), { run with out, milliseconds := run.milliseconds + milliseconds })
  | .backup =>
    match run.service.backup (Path.backup job (run.report.backups + 1)) with
    | (.error error, service) => (.error error, { run with service })
    | (.ok (), service) =>
      (.ok (), { run with
        service, report := { run.report with backups := run.report.backups + 1 } })
  | .help => (.ok (), { run with printed := run.printed ++ commandList })

def count (run : Run) : Run :=
  { run with report := { run.report with commands := run.report.commands + 1 } }

def fail (run : Run) (warning : Warning) : Run :=
  { run with
    report := { run.report with failed := run.report.failed + 1 }
    service := run.service.warn warning }

/-- Run one line, which is text. -/
def line (run : Run) (job : String) (number : Nat) (text : String) : Run :=
  match Command.parse text with
  | .ok none => run
  | .error fault => run.count.fail (.badLine job number (.parse fault))
  | .ok (some command) =>
    match run.count.execute job command with
    | (.ok (), run) => run
    | (.error error, run) => run.fail (.failedCommand job number error)

/-- Run lines, of which the first has a number. -/
def lines (run : Run) (job : String) (number : Nat) : List Bytes → Except Error Unit × Run
  | [] => (.ok (), run)
  | bytes :: rest =>
    match Text.decode bytes with
    | .error _ => (.error (.io .notText), run)
    | .ok text => (run.line job number text).lines job (number + 1) rest

/-- **A script is run piece by piece.** -/
theorem lines_append (run : Run) (job : String) (number : Nat) (first second : List Bytes) :
    run.lines job number (first ++ second)
      = match run.lines job number first with
        | (.error error, run) => (.error error, run)
        | (.ok (), run) => run.lines job (number + first.length) second := by
  induction first generalizing run number with
  | nil => rfl
  | cons bytes rest ih =>
    rw [List.cons_append, lines, lines]
    cases Text.decode bytes with
    | error fault => rfl
    | ok text =>
      have numbered : number + (rest.length + 1) = number + 1 + rest.length := by omega
      simp only [ih, List.length_cons, numbered]

end Run

/-- Run a script, with `job` as the path that names its backups. -/
def runScript (service : Service) (job : String) (script : Bytes) (out : Sink) :
    Except Error Report × Run :=
  let start : Run := { service, out }
  match start.lines job 1 (Text.lines script) with
  | (.ok (), run) => (.ok run.report, run)
  | (.error error, run) => (.error error, run)

/-- Run a script file, and put its answers into its output file. The output file is made, or
emptied, before the script is read. -/
def runScriptFile (service : Service) (job : String) : Except Error Report × Run :=
  let stopped (fault : IoFault) (service : Service) : Except Error Report × Run :=
    (.error (.io fault), { service, out := {} })
  match service.files.open? job with
  | .error fault => stopped fault service
  | .ok (source, _) =>
    match service.files.create (Path.output job) with
    | .error fault => stopped fault service
    | .ok (place, files) =>
      let service := { service with files }
      match files.node? source with
      | some (.file script) =>
        let (result, run) := runScript service job script {}
        let files := run.service.files.write place run.out.taken
        (result, { run with service := { run.service with files } })
      | _ => stopped (.system .isDirectory) service

end KeyWatch.Job
