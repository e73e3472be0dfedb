/-
# Job.Directory -- running every script of a directory

The scripts of a directory are its `.job` files; they are run one after another in the order of
their names, each against what the earlier ones left. A script that cannot be run to its end is
counted as a failed file, and the others are run all the same. As in a report, totals have no upper
end: fewer than 2^32 backups are assumed to be started in a directory.
-/
import KeyWatch.Job.Script

namespace KeyWatch.Job

set_option autoImplicit false

/-- Totals over the scripts of a directory. -/
structure Summary where
  files : Nat := 0
  failedFiles : Nat := 0
  commands : Nat := 0
  failedCommands : Nat := 0
  backups : Nat := 0
  deriving Repr, DecidableEq

/-- Count a script that was run to its end. -/
def Summary.record (summary : Summary) (report : Report) : Summary :=
  { summary with
    files := summary.files + 1
    commands := summary.commands + report.commands
    failedCommands := summary.failedCommands + report.failed
    backups := summary.backups + report.backups }

/-- Count a script that was not. -/
def Summary.recordFailure (summary : Summary) : Summary :=
  { summary with files := summary.files + 1, failedFiles := summary.failedFiles + 1 }

/-- Paths of the scripts in a directory, in the order of their names. -/
def queue (files : Files) (directory : String) : Except Error (List String) :=
  match files.list directory with
  | .error fault => .error (.io fault)
  | .ok names => .ok ((names.map fun name => Path.join directory name.1).filter Path.isJob)

structure Batch where
  service : Service
  summary : Summary := {}
  printed : String := ""
  milliseconds : Nat := 0
  deriving Repr

def Batch.run (batch : Batch) (job : String) : Batch :=
  let (result, run) := runScriptFile batch.service job
  let batch := { batch with
    printed := batch.printed ++ run.printed
    milliseconds := batch.milliseconds + run.milliseconds }
  match result with
  | .ok report => { batch with service := run.service, summary := batch.summary.record report }
  | .error error =>
    { batch with
      service := run.service.warn (.failedJob job error)
      summary := batch.summary.recordFailure }

def runDirectory (service : Service) (directory : String) : Except Error Batch :=
  (queue service.files directory).map fun jobs => jobs.foldl Batch.run { service }

end KeyWatch.Job
