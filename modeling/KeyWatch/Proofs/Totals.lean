/-
# Proofs.Totals -- what the totals of a directory count, and what they leave out

The scripts of a directory are run by a `Crew`. Its workers take them from one queue, each as soon as
it is free, run them line by line, and count them when they are done with them. Nothing is said about
the order of the queue, the number of workers, or whose turn it is; and a disk may let a script down
behind any line (`Disk`).

What happens is written down beside the totals: each line that held a command, or should have, is an
`Attempt`, and each script that was counted has an `Account` of its attempts and its result. Every
step keeps the books in order (`Balanced.step`): a script is waiting, or in somebody's hands, or
counted once; a report that a script hands in is that of its attempts; and the totals are those of
the results.

The totals count every script, and every script that failed. But a script that failed hands in no
report, so what was attempted in it before it failed is missing from the other three totals, although
it was done (`Crew.totals_of_run`, `Crew.left_out`). They are complete exactly if no script that
failed had attempted anything. No run of a crew gets stuck, and `runDirectory` is one: that in which
one worker does everything.
-/
import KeyWatch.Proofs.Interleaving

namespace KeyWatch.Job

set_option autoImplicit false

/-! ## Attempts -/

/-- A line that held a command, or should have. -/
structure Attempt where
  /-- The command, if the line could be read. -/
  command? : Option Command
  /-- The line could not be read, or its command failed. -/
  failed : Bool
  deriving Repr, DecidableEq

/-- A backup was started. -/
def Attempt.isBackup (attempt : Attempt) : Bool :=
  attempt.command? == some .backup && !attempt.failed

/-- What a line attempts at this point of a run; `none` if it is blank or a comment. -/
def Run.attempt? (run : Run) (job : String) (text : String) : Option Attempt :=
  match Command.parse text with
  | .ok none => none
  | .error _ => some { command? := none, failed := true }
  | .ok (some command) =>
    some { command? := some command, failed := !(run.count.execute job command).1.isOk }

namespace Report

/-- The report of attempts. -/
def of (attempts : List Attempt) : Report where
  commands := attempts.length
  failed := attempts.countP (·.failed)
  backups := attempts.countP (·.isBackup)

instance : Zero Report := ⟨{}⟩

instance : Add Report where
  add first second :=
    { commands := first.commands + second.commands
      failed := first.failed + second.failed
      backups := first.backups + second.backups }

theorem add_eq (first second : Report) :
    first + second = ⟨first.commands + second.commands, first.failed + second.failed,
      first.backups + second.backups⟩ := rfl

instance : AddCommMonoid Report where
  add_assoc first second third := by simp only [add_eq, Nat.add_assoc]
  zero_add report := by
    show Report.mk (0 + _) (0 + _) (0 + _) = report
    simp only [Nat.zero_add]
  add_zero report := rfl
  add_comm first second := by simp only [add_eq, Nat.add_comm]
  nsmul := nsmulRec

theorem of_append (first second : List Attempt) : of (first ++ second) = of first + of second := by
  simp only [of, add_eq, List.length_append, List.countP_append]

end Report

namespace Run

/-- **A command counts a backup that it has started,** and nothing else. -/
theorem report_execute (run : Run) (job : String) (command : Command) :
    (run.execute job command).2.report
      = { run.report with
          backups := run.report.backups
            + if command = .backup ∧ (run.execute job command).1.isOk = true then 1 else 0 } := by
  cases command with
  | wait delay =>
    cases delay with
    | zero => rfl
    | succ delay =>
      unfold execute
      dsimp only
      rcases Service.output run.out waitingLine with ⟨result, out⟩
      cases result <;> rfl
  | backup =>
    unfold execute
    dsimp only
    rcases run.service.backup (Path.backup job (run.report.backups + 1)) with ⟨result, service⟩
    cases result <;> rfl
  | _ => rfl

/-- **A line is counted as what it attempts.** -/
theorem report_line (run : Run) (job : String) (number : Nat) (text : String) :
    (run.line job number text).report
      = run.report + Report.of (run.attempt? job text).toList := by
  unfold line attempt?
  cases Command.parse text with
  | error fault => rfl
  | ok found? =>
    cases found? with
    | none => rfl
    | some command =>
      have counted := report_execute run.count job command
      dsimp only
      rcases done : run.count.execute job command with ⟨result, ran⟩
      rw [done] at counted
      dsimp only at counted
      cases result with
      | ok _ =>
        dsimp only
        rw [counted]
        by_cases backup : command = .backup <;>
          simp [Report.of, Report.add_eq, Attempt.isBackup, count, backup, Except.isOk, Except.toBool]
      | error error =>
        dsimp only [fail]
        rw [counted]
        simp [Report.of, Report.add_eq, Attempt.isBackup, count, Except.isOk, Except.toBool]

end Run

/-! ## Accounts -/

/-- What was attempted in a script, and what the script came to. -/
structure Account where
  job : String
  result : Except Error Report
  attempts : List Attempt

namespace Account

def isFailed (account : Account) : Bool := !account.result.isOk

/-- A report that is handed in is that of the attempts. -/
def Honest (account : Account) : Prop :=
  ∀ report, account.result = .ok report → report = Report.of account.attempts

end Account

namespace Summary

/-- The three totals that are taken from reports. -/
def report (summary : Summary) : Report where
  commands := summary.commands
  failed := summary.failedCommands
  backups := summary.backups

theorem files_of (results : List (Except Error Report)) : (of results).files = results.length := by
  induction results with
  | nil => rfl
  | cons result rest ih =>
    rw [of_cons, List.length_cons, ← ih]
    cases result <;> rfl

theorem failedFiles_of (results : List (Except Error Report)) :
    (of results).failedFiles = results.countP fun result => !result.isOk := by
  induction results with
  | nil => rfl
  | cons result rest ih =>
    rw [of_cons, List.countP_cons, ← ih]
    cases result <;> rfl

end Summary

namespace Account

/-- **What the totals count, and what was attempted in scripts that failed, is all that was
attempted.** -/
theorem report_of_results {accounts : List Account} (honest : ∀ account ∈ accounts, account.Honest) :
    (Summary.of (accounts.map (·.result))).report
        + Report.of ((accounts.filter (·.isFailed)).flatMap (·.attempts))
      = Report.of (accounts.flatMap (·.attempts)) := by
  induction accounts with
  | nil => rfl
  | cons account rest ih =>
    have later := ih fun other member => honest other (List.mem_cons_of_mem _ member)
    rw [List.map_cons, Summary.of_cons, List.flatMap_cons, Report.of_append, ← later]
    cases result : account.result with
    | ok report =>
      have failed : ¬account.isFailed = true := by simp [isFailed, result, Except.isOk, Except.toBool]
      rw [List.filter_cons_of_neg failed, ← honest account List.mem_cons_self report result]
      exact (add_right_comm (Summary.of (rest.map (·.result))).report report _).trans (add_comm _ report)
    | error error =>
      have failed : account.isFailed = true := by rw [isFailed, result]; rfl
      rw [List.filter_cons_of_pos failed, List.flatMap_cons, Report.of_append]
      exact add_left_comm (Summary.of (rest.map (·.result))).report _ _

end Account

/-! ## Workers -/

/-- How a disk may let scripts down: their output may have limits, and behind so many lines a script
may not be read further or, if that was the last one, its output not be handed on. -/
structure Disk where
  out : String → Sink := fun _ => {}
  failure : String → Option (Nat × IoFault) := fun _ => none

/-- The lines of a script that can be read, and the fault behind them. -/
def Disk.lines (disk : Disk) (job : String) (script : Bytes) : List Bytes × Option IoFault :=
  match disk.failure job with
  | none => (Text.lines script, none)
  | some (count, fault) => ((Text.lines script).take count, some fault)

/-- A script that a worker has in hand. -/
structure InHand where
  strand : Strand
  /-- The place of its output file. -/
  place : List String
  /-- What goes wrong behind the last line. -/
  fault? : Option IoFault
  attempts : List Attempt := []

/-- The script after its next line, which is run from here. -/
def InHand.next (held : InHand) (run : Run) (text : String) (left : List Bytes) : InHand :=
  { held with
    strand := held.strand.next (run.line held.strand.job held.strand.number text) left
    attempts := held.attempts ++ (run.attempt? held.strand.job text).toList }

/-- Workers that run scripts, each at most one at a time. -/
structure Crew where
  service : Service
  /-- The scripts that nobody has taken yet. -/
  queue : List String
  hands : List (Option InHand)
  summary : Summary := {}
  /-- The scripts that were counted. -/
  accounts : List Account := []

namespace Crew

/-- Workers before their first scripts; there is always one. -/
def begin (service : Service) (jobs : List String) (workers : Nat) : Crew :=
  { service, queue := jobs, hands := List.replicate (max workers 1) none }

/-- Count a script. -/
def count (crew : Crew) (account : Account) : Crew :=
  { crew with
    service :=
      match account.result with
      | .ok _ => crew.service
      | .error error => crew.service.warn (.failedJob account.job error)
    summary := crew.summary.add account.result
    accounts := crew.accounts ++ [account] }

/-- Open a script and make its output file. A script for which this fails is counted at once. -/
def take (crew : Crew) (disk : Disk) (worker : Nat) (job : String) : Crew :=
  let stopped (fault : IoFault) (crew : Crew) : Crew :=
    crew.count { job, result := .error (.io fault), attempts := [] }
  match crew.service.files.open? job with
  | .error fault => stopped fault crew
  | .ok (source, _) =>
    match crew.service.files.create (Path.output job) with
    | .error fault => stopped fault crew
    | .ok (place, files) =>
      let crew := { crew with service := { crew.service with files } }
      match files.node? source with
      | some (.file script) =>
        let (left, fault?) := disk.lines job script
        { crew with
          hands := crew.hands.set worker (some {
            strand := { job, left, out := disk.out job }, place, fault? }) }
      | _ => stopped (.system .isDirectory) crew

/-- Be done with a script: write its output file, and count it. -/
def finish (crew : Crew) (worker : Nat) (held : InHand) (result : Except Error Report) : Crew :=
  { crew with
    service := { crew.service with
      files := crew.service.files.write held.place held.strand.out.taken }
    hands := crew.hands.set worker none }.count
      { job := held.strand.job, result, attempts := held.attempts }

/-- Go on with a script that is in hand: by its next line, or to be done with it. -/
def goOn (crew : Crew) (worker : Nat) (held : InHand) : Crew :=
  match held.strand.left with
  | [] =>
    crew.finish worker held
      (match held.fault? with
      | some fault => .error (.io fault)
      | none => .ok held.strand.report)
  | bytes :: rest =>
    match Text.decode bytes with
    | .error _ => crew.finish worker held (.error (.io .notText))
    | .ok text =>
      let run := held.strand.run crew.service
      { crew with
        service := (run.line held.strand.job held.strand.number text).service
        hands := crew.hands.set worker (some (held.next run text rest)) }

/-- Let a worker, if there is one at this place, go on or take the next script. -/
def step (disk : Disk) (crew : Crew) (worker : Nat) : Crew :=
  match crew.hands[worker]? with
  | none => crew
  | some (some held) => crew.goOn worker held
  | some none =>
    match crew.queue with
    | [] => crew
    | job :: rest => { crew with queue := rest }.take disk worker job

/-- Let workers go on by a schedule: whose turn is the next. -/
def run (disk : Disk) (crew : Crew) (schedule : List Nat) : Crew := schedule.foldl (step disk) crew

/-- No script is waiting or in hand. -/
def isFinished (crew : Crew) : Bool := crew.queue.isEmpty && crew.hands.all (·.isNone)

/-- Everything that was attempted in scripts that were counted. -/
def attempts (crew : Crew) : List Attempt := crew.accounts.flatMap (·.attempts)

/-- What was attempted in scripts that failed. -/
def unreported (crew : Crew) : List Attempt :=
  (crew.accounts.filter (·.isFailed)).flatMap (·.attempts)

/-! ## The books -/

/-- Each script is counted once, or in hand, or waiting; reports are those of the attempts; and the
totals are those of the results. -/
structure Balanced (jobs : List String) (crew : Crew) : Prop where
  covered : (crew.accounts.map (·.job)
    ++ (crew.hands.filterMap (·.map (·.strand.job)) ++ crew.queue)).Perm jobs
  honest : ∀ account ∈ crew.accounts, account.Honest
  inHand : ∀ held, some held ∈ crew.hands → held.strand.report = Report.of held.attempts
  totals : crew.summary = Summary.of (crew.accounts.map (·.result))

variable {disk : Disk} {jobs : List String} {crew : Crew}

theorem balanced_begin (service : Service) (jobs : List String) (workers : Nat) :
    (begin service jobs workers).Balanced jobs where
  covered := by
    have nobody : (begin service jobs workers).hands.filterMap (·.map (·.strand.job)) = [] := by
      simp [begin]
    rw [nobody]
    exact .refl _
  honest := fun account member => absurd member List.not_mem_nil
  inHand := by
    intro held member
    cases List.eq_of_mem_replicate member
  totals := rfl

/-- **A script is counted** that was in somebody's hands, or was taken from the queue. -/
theorem balanced_count {account : Account} (honest : account.Honest)
    (books : ∀ other ∈ crew.accounts, other.Honest)
    (inHand : ∀ held, some held ∈ crew.hands → held.strand.report = Report.of held.attempts)
    (totals : crew.summary = Summary.of (crew.accounts.map (·.result)))
    (covered : (account.job :: (crew.accounts.map (·.job)
      ++ (crew.hands.filterMap (·.map (·.strand.job)) ++ crew.queue))).Perm jobs) :
    (crew.count account).Balanced jobs where
  covered := by
    show ((crew.accounts ++ [account]).map (·.job) ++ _).Perm jobs
    rw [List.map_append, List.append_assoc]
    exact List.perm_middle.trans covered
  honest := by
    intro other member
    rcases List.mem_append.1 member with before | here
    · exact books other before
    · rw [List.mem_singleton.1 here]
      exact honest
  inHand := inHand
  totals := by
    show crew.summary.add account.result = Summary.of ((crew.accounts ++ [account]).map (·.result))
    rw [List.map_append, Summary.of_perm List.perm_append_comm, List.map_cons, List.map_nil,
      List.singleton_append, Summary.of_cons, ← totals]

/-- What is in hand after one worker has something else in hand, or nothing. -/
theorem inHand_set {worker : Nat} {new : Option InHand}
    (inHand : ∀ held, some held ∈ crew.hands → held.strand.report = Report.of held.attempts)
    (fresh : ∀ held, new = some held → held.strand.report = Report.of held.attempts) :
    ∀ held, some held ∈ crew.hands.set worker new → held.strand.report = Report.of held.attempts := by
  intro held member
  rcases List.mem_or_eq_of_mem_set member with before | here
  · exact inHand held before
  · exact fresh held here.symm

theorem Balanced.finish (balanced : crew.Balanced jobs) {worker : Nat} {held : InHand}
    (there : crew.hands[worker]? = some (some held)) {result : Except Error Report}
    (honest : ∀ report, result = .ok report → report = held.strand.report) :
    (crew.finish worker held result).Balanced jobs := by
  have reported := balanced.inHand held (List.mem_of_getElem? there)
  have freed := filterMap_set_perm there (·.map (·.strand.job)) none
  refine balanced_count (fun report ended => (honest report ended).trans reported) balanced.honest
    (inHand_set balanced.inHand fun _ nothing => nomatch nothing) balanced.totals ?_
  exact (List.perm_middle.symm.trans ((freed.append_right crew.queue).append_left _)).trans
    balanced.covered

theorem Balanced.take (balanced : crew.Balanced jobs) {worker : Nat} {job : String}
    {rest : List String} (idle : crew.hands[worker]? = some none)
    (waiting : crew.queue = job :: rest) :
    ({ crew with queue := rest }.take disk worker job).Balanced jobs := by
  have covered : (job :: (crew.accounts.map (·.job)
      ++ (crew.hands.filterMap (·.map (·.strand.job)) ++ rest))).Perm jobs := by
    refine .trans ?_ balanced.covered
    rw [waiting]
    exact List.perm_middle.symm.trans (List.perm_middle.symm.append_left _)
  have stopped : ∀ (service : Service) (fault : IoFault),
      (({ crew with service, queue := rest } : Crew).count
        { job, result := .error (.io fault), attempts := [] }).Balanced jobs :=
    fun service fault => balanced_count (fun _ ended => nomatch ended) balanced.honest
      balanced.inHand balanced.totals covered
  unfold Crew.take
  dsimp only
  cases crew.service.files.open? job with
  | error fault => exact stopped crew.service fault
  | ok opened =>
    dsimp only
    cases crew.service.files.create (Path.output job) with
    | error fault => exact stopped crew.service fault
    | ok made =>
      dsimp only
      split
      · next script _ =>
        have taken (held : InHand) := filterMap_set_perm idle (·.map (·.strand.job)) (some held)
        refine ⟨?_, balanced.honest, inHand_set balanced.inHand ?_, balanced.totals⟩
        · refine .trans (.append_left _ ((taken _).append_right rest)) ?_
          exact List.perm_middle.trans covered
        · intro held here
          cases here
          rfl
      · exact stopped _ _

theorem Balanced.goOn (balanced : crew.Balanced jobs) {worker : Nat} {held : InHand}
    (there : crew.hands[worker]? = some (some held)) : (crew.goOn worker held).Balanced jobs := by
  unfold Crew.goOn
  cases held.strand.left with
  | nil =>
    refine balanced.finish there fun report ended => ?_
    cases fault : held.fault? with
    | some fault' => rw [fault] at ended; cases ended
    | none => rw [fault] at ended; cases ended; rfl
  | cons bytes rest =>
    dsimp only
    cases Text.decode bytes with
    | error fault => exact balanced.finish there fun _ ended => nomatch ended
    | ok text =>
      refine ⟨?_, balanced.honest, inHand_set balanced.inHand ?_, balanced.totals⟩
      · -- the script stays in the same hands
        have same : (crew.hands.set worker (some (held.next (held.strand.run crew.service) text
            rest))).filterMap (·.map (·.strand.job))
            = crew.hands.filterMap (·.map (·.strand.job)) :=
          filterMap_set_of_eq there rfl
        refine .trans (.of_eq ?_) balanced.covered
        exact congrArg (fun inHand => _ ++ (inHand ++ crew.queue)) same
      · intro after here
        cases here
        have before := balanced.inHand held (List.mem_of_getElem? there)
        show ((held.strand.run crew.service).line _ _ _).report = Report.of (held.attempts ++ _)
        rw [Run.report_line, Report.of_append, ← before]
        rfl

/-- **A step keeps the books in order,** whoever's turn it is. -/
theorem Balanced.step (balanced : crew.Balanced jobs) (worker : Nat) :
    (crew.step disk worker).Balanced jobs := by
  unfold Crew.step
  split
  · exact balanced
  · next held there => exact balanced.goOn there
  · next idle =>
    split
    · exact balanced
    · next job rest waiting => exact balanced.take idle waiting

theorem Balanced.run (balanced : crew.Balanced jobs) (schedule : List Nat) :
    (crew.run disk schedule).Balanced jobs := by
  induction schedule generalizing crew with
  | nil => exact balanced
  | cons worker rest ih => exact ih (balanced.step worker)

/-- When nothing is waiting or in hand, every script was counted. -/
theorem Balanced.counted (balanced : crew.Balanced jobs) (finished : crew.isFinished = true) :
    (crew.accounts.map (·.job)).Perm jobs := by
  obtain ⟨empty, idle⟩ := (Bool.and_eq_true _ _).mp finished
  have nobody : crew.hands.filterMap (·.map (·.strand.job)) = [] := by
    refine List.filterMap_eq_nil_iff.2 fun hand member => ?_
    rw [Option.isNone_iff_eq_none.1 (List.all_eq_true.1 idle hand member)]
    rfl
  have covered := balanced.covered
  rwa [nobody, List.isEmpty_iff.1 empty, List.append_nil, List.append_nil] at covered

/-! ## Coming to an end -/

theorem run_append (crew : Crew) (first second : List Nat) :
    crew.run disk (first ++ second) = (crew.run disk first).run disk second :=
  List.foldl_append

theorem run_cons_of_held {worker : Nat} {held : InHand}
    (there : crew.hands[worker]? = some (some held)) (rest : List Nat) :
    crew.run disk (worker :: rest) = (crew.goOn worker held).run disk rest := by
  show (crew.step disk worker).run disk rest = _
  rw [step, there]

/-- How often a worker has to go on until its hands are free, at most. -/
def turns : Option InHand → Nat
  | none => 0
  | some held => held.strand.left.length + 1

/-- The turns of all workers. -/
def load (crew : Crew) : Nat := (crew.hands.map turns).sum

theorem load_of_set {after : Crew} {worker : Nat} {old new : Option InHand}
    (there : crew.hands[worker]? = some old) (hands : after.hands = crew.hands.set worker new)
    (fewer : turns new < turns old) : after.load < crew.load := by
  unfold load
  rw [hands]
  exact sum_map_set_lt there fewer

/-- **Going on brings a script nearer to its end,** and takes no other one. -/
theorem goOn_spec {worker : Nat} {held : InHand} (there : crew.hands[worker]? = some (some held)) :
    (crew.goOn worker held).queue = crew.queue ∧ (crew.goOn worker held).load < crew.load
      ∧ (crew.goOn worker held).hands.length = crew.hands.length := by
  have finished (result : Except Error Report) :
      (crew.finish worker held result).queue = crew.queue
        ∧ (crew.finish worker held result).load < crew.load
        ∧ (crew.finish worker held result).hands.length = crew.hands.length :=
    ⟨rfl, load_of_set there rfl (Nat.succ_pos _), List.length_set ..⟩
  unfold goOn
  cases left : held.strand.left with
  | nil => exact finished _
  | cons bytes rest =>
    dsimp only
    cases Text.decode bytes with
    | error fault => exact finished _
    | ok text =>
      refine ⟨rfl, load_of_set there rfl ?_, List.length_set ..⟩
      show rest.length + 1 < held.strand.left.length + 1
      rw [left]
      exact Nat.lt_succ_self _

theorem take_spec (disk : Disk) (crew : Crew) (worker : Nat) (job : String) :
    (crew.take disk worker job).queue = crew.queue
      ∧ (crew.take disk worker job).hands.length = crew.hands.length := by
  unfold take
  dsimp only
  cases crew.service.files.open? job with
  | error fault => exact ⟨rfl, rfl⟩
  | ok opened =>
    dsimp only
    cases crew.service.files.create (Path.output job) with
    | error fault => exact ⟨rfl, rfl⟩
    | ok made =>
      dsimp only
      split
      · exact ⟨rfl, List.length_set ..⟩
      · exact ⟨rfl, rfl⟩

theorem length_hands_step (disk : Disk) (crew : Crew) (worker : Nat) :
    (crew.step disk worker).hands.length = crew.hands.length := by
  unfold step
  split
  · rfl
  · next held there => exact (goOn_spec there).2.2
  · split
    · rfl
    · next job rest waiting => exact (take_spec disk { crew with queue := rest } worker job).2

/-- Nobody joins or leaves. -/
theorem length_hands_run (schedule : List Nat) :
    (crew.run disk schedule).hands.length = crew.hands.length := by
  induction schedule generalizing crew with
  | nil => rfl
  | cons worker rest ih => exact ih.trans (length_hands_step disk crew worker)

/-- **Work comes to an end** if somebody is there to do it. -/
theorem exists_run_finished (disk : Disk) (crew : Crew) (staffed : 0 < crew.hands.length) :
    ∃ schedule, (crew.run disk schedule).isFinished = true := by
  -- whoever has a script in hand goes on; if nobody has one, the first worker takes the next
  by_cases busy : ∃ (worker : Nat) (held : InHand), crew.hands[worker]? = some (some held)
  · obtain ⟨worker, held, there⟩ := busy
    obtain ⟨same, less, kept⟩ := goOn_spec there
    obtain ⟨schedule, finished⟩ := exists_run_finished disk (crew.goOn worker held) (by omega)
    refine ⟨worker :: schedule, ?_⟩
    rw [run_cons_of_held there]
    exact finished
  · have idle : ∀ hand ∈ crew.hands, hand = none := by
      intro hand member
      obtain ⟨worker, there⟩ := List.getElem?_of_mem member
      cases hand with
      | none => rfl
      | some held => exact absurd ⟨worker, held, there⟩ busy
    cases waiting : crew.queue with
    | nil =>
      refine ⟨[], ?_⟩
      show (crew.queue.isEmpty && crew.hands.all (·.isNone)) = true
      rw [waiting, List.all_eq_true.2 fun hand member => by rw [idle hand member]; rfl]
      rfl
    | cons job rest =>
      obtain ⟨queue, kept⟩ := take_spec disk { crew with queue := rest } 0 job
      have fewer : ({ crew with queue := rest }.take disk 0 job).queue.length < crew.queue.length := by
        rw [queue, waiting]
        exact Nat.lt_succ_self _
      obtain ⟨schedule, finished⟩ := exists_run_finished disk
        ({ crew with queue := rest }.take disk 0 job) (kept ▸ staffed)
      have first : crew.hands[0]? = some none := by
        rw [List.getElem?_eq_getElem staffed, idle _ (List.getElem_mem staffed)]
      refine ⟨0 :: schedule, ?_⟩
      show ((crew.step disk 0).run disk schedule).isFinished = true
      rw [step, first]
      dsimp only
      rw [waiting]
      exact finished
termination_by (crew.queue.length, crew.load)
decreasing_by
  · rw [same]
    exact .right _ less
  · exact .left _ _ fewer

/-- **No run gets stuck:** what was begun can be brought to an end, whatever was done so far. -/
theorem exists_run_append_finished (service : Service) (jobs : List String) (workers : Nat)
    (disk : Disk) (earlier : List Nat) :
    ∃ later, ((begin service jobs workers).run disk (earlier ++ later)).isFinished = true := by
  have staffed : 0 < ((begin service jobs workers).run disk earlier).hands.length := by
    rw [length_hands_run, begin, List.length_replicate]
    exact Nat.lt_of_lt_of_le Nat.one_pos (Nat.le_max_right ..)
  obtain ⟨later, finished⟩ := exists_run_finished disk _ staffed
  exact ⟨later, (congrArg isFinished (run_append _ earlier later)).trans finished⟩

/-! ## One worker -/

/-- **A worker whom nobody interrupts runs the lines that it has in hand,** and counts what they come
to. -/
theorem exists_run_lines {worker : Nat} {held : InHand}
    (there : crew.hands[worker]? = some (some held)) (sound : held.fault? = none) :
    let ran := (held.strand.run crew.service).lines held.strand.job held.strand.number
      held.strand.left
    ∃ schedule attempts, crew.run disk schedule
      = { crew with
          service := { ran.2.service with
            files := ran.2.service.files.write held.place ran.2.out.taken }
          hands := crew.hands.set worker none }.count
        { job := held.strand.job, result := ran.1.map fun _ => ran.2.report, attempts } := by
  induction left : held.strand.left generalizing crew held with
  | nil =>
    refine ⟨[worker], held.attempts, (run_cons_of_held there []).trans ?_⟩
    rw [goOn, left, sound]
    rfl
  | cons bytes rest ih =>
    rw [Run.lines]
    cases decoded : Text.decode bytes with
    | error fault =>
      refine ⟨[worker], held.attempts, (run_cons_of_held there []).trans ?_⟩
      rw [goOn, left]
      dsimp only
      rw [decoded]
      rfl
    | ok text =>
      have went : crew.goOn worker held = { crew with
          service := ((held.strand.run crew.service).line held.strand.job held.strand.number
            text).service
          hands := crew.hands.set worker
            (some (held.next (held.strand.run crew.service) text rest)) } := by
        rw [goOn, left]
        dsimp only
        rw [decoded]
      have there' : (crew.goOn worker held).hands[worker]?
          = some (some (held.next (held.strand.run crew.service) text rest)) := by
        rw [went]
        exact getElem?_set_of_found there _
      obtain ⟨schedule, attempts, ended⟩ := ih there' sound rfl
      refine ⟨worker :: schedule, attempts, (run_cons_of_held there schedule).trans
        (ended.trans ?_)⟩
      rw [went]
      dsimp only
      rw [List.set_set]
      rfl

theorem runScript_eq_lines (service : Service) (job : String) (script : Bytes) (out : Sink) :
    runScript service job script out
      = (let ran := Run.lines { service, out } job 1 (Text.lines script)
        (ran.1.map fun _ => ran.2.report, ran.2)) :=
  @Script.alone_of_lines service ⟨job, script, out⟩ _ _ rfl

/-- **A worker whom nobody interrupts runs a script** as it is run alone. -/
theorem exists_run_script {worker : Nat} {job : String} {rest : List String}
    (idle : crew.hands[worker]? = some none) (waiting : crew.queue = job :: rest) :
    let ran := runScriptFile crew.service job
    ∃ schedule attempts, crew.run {} schedule
      = { crew with queue := rest, service := ran.2.service }.count
        { job, result := ran.1, attempts } := by
  have took : crew.step {} worker = { crew with queue := rest }.take {} worker job := by
    rw [step, idle]
    dsimp only
    rw [waiting]
  unfold runScriptFile
  dsimp only
  unfold take at took
  dsimp only at took
  cases opened : crew.service.files.open? job with
  | error fault =>
    rw [opened] at took
    exact ⟨[worker], [], took⟩
  | ok source =>
    rw [opened] at took
    dsimp only at took ⊢
    cases made : crew.service.files.create (Path.output job) with
    | error fault =>
      rw [made] at took
      exact ⟨[worker], [], took⟩
    | ok output =>
      rw [made] at took
      dsimp only at took ⊢
      cases found : output.2.node? source.1 with
      | none =>
        rw [found] at took
        exact ⟨[worker], [], took⟩
      | some node =>
        rw [found] at took
        cases node with
        | directory => exact ⟨[worker], [], took⟩
        | pipe => exact ⟨[worker], [], took⟩
        | file script =>
          dsimp only at took ⊢
          have there : (crew.step {} worker).hands[worker]? = some (some {
              strand := { job, left := Text.lines script, out := {} }
              place := output.1
              fault? := none }) := by
            rw [took]
            exact getElem?_set_of_found idle _
          obtain ⟨schedule, attempts, ended⟩ := @exists_run_lines {} _ worker _ there rfl
          refine ⟨worker :: schedule, attempts, ended.trans ?_⟩
          rw [took]
          have restored (hand : Option InHand) :
              (crew.hands.set worker hand).set worker none = crew.hands := by
            obtain ⟨inside, here⟩ := List.getElem?_eq_some_iff.1 idle
            rw [List.set_set, ← here, List.set_getElem_self]
          dsimp only
          rw [restored, runScript_eq_lines]
          rfl

/-- **One worker runs the whole queue** as a batch is run. -/
theorem exists_run_batch {worker : Nat} (idle : crew.hands[worker]? = some none) (batch : Batch)
    (service : batch.service = crew.service) (summary : batch.summary = crew.summary) :
    ∃ schedule, let after := crew.run {} schedule
      after.queue = [] ∧ after.hands = crew.hands
        ∧ after.service = (crew.queue.foldl Batch.run batch).service
        ∧ after.summary = (crew.queue.foldl Batch.run batch).summary := by
  induction waiting : crew.queue generalizing crew batch with
  | nil => exact ⟨[], waiting, rfl, service.symm, summary.symm⟩
  | cons job rest ih =>
    obtain ⟨first, attempts, ran⟩ := exists_run_script idle waiting
    have idle' : (crew.run {} first).hands[worker]? = some none := by
      rw [ran]
      exact idle
    have waiting' : (crew.run {} first).queue = rest := by
      rw [ran]
      rfl
    have counted : (batch.run job).service = (crew.run {} first).service
        ∧ (batch.run job).summary = (crew.run {} first).summary := by
      rw [ran]
      unfold Batch.run count
      rw [service, summary]
      dsimp only
      rcases runScriptFile crew.service job with ⟨result, run⟩
      cases result <;> exact ⟨rfl, rfl⟩
    obtain ⟨later, empty, hands, service', summary'⟩ :=
      ih idle' (batch.run job) counted.1 counted.2 waiting'
    refine ⟨first ++ later, ?_⟩
    rw [run_append]
    exact ⟨empty, hands.trans (by rw [ran]; rfl), service', summary'⟩

/-- **The batch run of a directory is a run of a crew,** of which one worker does everything. -/
theorem exists_run_directory {service : Service} {directory : String} {listed : List String}
    (queued : Job.queue service.files directory = .ok listed) (workers : Nat) :
    ∃ batch schedule, runDirectory service directory = .ok batch
      ∧ let crew := (begin service listed workers).run {} schedule
        crew.isFinished = true ∧ crew.service = batch.service ∧ crew.summary = batch.summary := by
  have idle : (begin service listed workers).hands[0]? = some none := by simp [begin]
  obtain ⟨schedule, empty, hands, same, summary⟩ := exists_run_batch idle { service } rfl rfl
  refine ⟨listed.foldl Batch.run { service }, schedule, ?_, ?_, same, summary⟩
  · rw [runDirectory, queued]
    rfl
  · rw [isFinished, empty, hands]
    simp [begin]

/-! ## Totals -/

/-- **What the totals count, and what was attempted in scripts that failed, is all that was
attempted,** as soon as the books are in order. -/
theorem Balanced.report (balanced : crew.Balanced jobs) :
    crew.summary.report + Report.of crew.unreported = Report.of crew.attempts := by
  rw [balanced.totals]
  exact Account.report_of_results balanced.honest

theorem unreported_eq_nil_iff :
    crew.unreported = []
      ↔ ∀ account ∈ crew.accounts, account.isFailed = true → account.attempts = [] := by
  simp [unreported, List.flatMap_eq_nil_iff, List.mem_filter]

/-- **The totals count what was reported.** Whatever workers do in whatever order until all scripts of
a directory are counted, and wherever the disk lets them down: each script is counted once, and each
that failed is counted as such. The other totals, together with what was attempted in scripts that
failed, are all the commands that were attempted, that failed, and all the backups that were started.
So they are complete exactly if nothing was attempted in any script that failed. Whatever was done can
be brought to such an end, and the batch run of the directory is such a run. -/
theorem totals_of_run (service : Service) (directory : String) (names : List (String × FileNode))
    (opened : service.files.list directory = .ok names) (disk : Disk) (jobs : List String)
    (order : jobs.Perm ((names.map fun name => Path.join directory name.1).filter Path.isJob))
    (workers : Nat) (schedule : List Nat)
    (finished : ((begin service jobs workers).run disk schedule).isFinished = true) :
    let listed := (names.map fun name => Path.join directory name.1).filter Path.isJob
    let crew := (begin service jobs workers).run disk schedule
    (crew.accounts.map (·.job)).Perm listed
      ∧ crew.summary.files = listed.length
      ∧ crew.summary.failedFiles = crew.accounts.countP (·.isFailed)
      ∧ crew.summary.commands + crew.unreported.length = crew.attempts.length
      ∧ crew.summary.failedCommands + crew.unreported.countP (·.failed)
        = crew.attempts.countP (·.failed)
      ∧ crew.summary.backups + crew.unreported.countP (·.isBackup)
        = crew.attempts.countP (·.isBackup)
      ∧ (crew.summary.commands = crew.attempts.length
        ↔ ∀ account ∈ crew.accounts, account.isFailed = true → account.attempts = [])
      ∧ (∀ earlier, ∃ later,
        ((begin service jobs workers).run disk (earlier ++ later)).isFinished = true)
      ∧ ∃ batch alike, runDirectory service directory = .ok batch
        ∧ let other := (begin service listed workers).run {} alike
          other.isFinished = true ∧ other.service = batch.service
            ∧ other.summary = batch.summary := by
  intro listed crew
  have balanced : crew.Balanced jobs := (balanced_begin service jobs workers).run schedule
  have counted : (crew.accounts.map (·.job)).Perm listed := (balanced.counted finished).trans order
  have commands : crew.summary.commands + crew.unreported.length = crew.attempts.length :=
    congrArg Report.commands balanced.report
  have failed : crew.summary.failedCommands + crew.unreported.countP (·.failed)
      = crew.attempts.countP (·.failed) := congrArg Report.failed balanced.report
  have backups : crew.summary.backups + crew.unreported.countP (·.isBackup)
      = crew.attempts.countP (·.isBackup) := congrArg Report.backups balanced.report
  refine ⟨counted, ?_, ?_, commands, failed, backups, ?_,
    exists_run_append_finished service jobs workers disk, exists_run_directory ?_ workers⟩
  · rw [balanced.totals, Summary.files_of, List.length_map, ← counted.length_eq, List.length_map]
  · rw [balanced.totals, Summary.failedFiles_of, List.countP_map]
    rfl
  · rw [← unreported_eq_nil_iff, ← List.length_eq_zero_iff]
    omega
  · rw [Job.queue, opened]

/-- Three commands, the last of which does not exist, and then a line that is not text. -/
def stopping : Bytes := Text.utf8 "WRITE [(a,1)]\nBACKUP\nINIT\n" ++ [0xFF]

/-- A new store, and scripts in a directory. -/
def withScripts (scripts : List (String × Bytes)) : Service where
  store := .ofSettings {}
  files := { nodes := (["jobs"], .directory)
    :: scripts.map fun script => (["jobs", script.1], .file script.2) }

/-- Two workers take turns; the second one has the script that stops. -/
theorem totals_of_run_stopping :
    let service := withScripts [("a.job", stopping), ("b.job", Text.utf8 "READ [a]\nDELETE []\n")]
    let schedule := [0, 1, 0, 1, 0, 0, 1, 1, 1]
    let crew := (begin service ["jobs/b.job", "jobs/a.job"] 2).run {} schedule
    crew.isFinished = true
      ∧ crew.summary = { files := 2, failedFiles := 1, commands := 2, failedCommands := 1 }
      ∧ crew.summary.commands + crew.unreported.length = crew.attempts.length
      ∧ crew.unreported.length = 3 := by
  intro service schedule crew
  have opened : service.files.list "jobs"
      = .ok [("a.job", .file stopping), ("b.job", .file (Text.utf8 "READ [a]\nDELETE []\n"))] := by
    cbv
  have order : ["jobs/b.job", "jobs/a.job"].Perm (([("a.job", FileNode.file stopping),
      ("b.job", .file (Text.utf8 "READ [a]\nDELETE []\n"))].map
        fun name => Path.join "jobs" name.1).filter Path.isJob) := by
    decide +kernel
  have finished : crew.isFinished = true := by decide +kernel
  obtain ⟨-, -, -, commands, -⟩ :=
    totals_of_run service "jobs" _ opened {} ["jobs/b.job", "jobs/a.job"] order 2 schedule finished
  have counted : crew.summary
      = { files := 2, failedFiles := 1, commands := 2, failedCommands := 1 } := by
    decide +kernel
  have missing : crew.unreported.length = 3 := by decide +kernel
  refine ⟨finished, counted, ?_, missing⟩
  simpa only [crew] using commands

/-- **Totals are not always complete.** Of a script that stops, three commands were attempted, one of
which failed and one of which started a backup. The store has what it wrote, and the backup is in its
file; but the totals know nothing of it. -/
theorem left_out :
    let service := withScripts [("a.job", stopping)]
    let crew := (begin service ["jobs/a.job"] 1).run {} [0, 0, 0, 0, 0]
    crew.isFinished = true ∧ Report.of crew.attempts = { commands := 3, failed := 1, backups := 1 }
      ∧ crew.service.store.value? "a" = some "1"
      ∧ crew.service.backups.running.map (·.destination) = [["jobs", "a-1.bck"]]
      ∧ crew.summary = { files := 1, failedFiles := 1 }
      ∧ (runDirectory service "jobs").toOption.map (·.summary)
        = some { files := 1, failedFiles := 1 } := by
  intro service crew
  have finished : crew.isFinished = true := by decide +kernel
  have attempted : Report.of crew.attempts = { commands := 3, failed := 1, backups := 1 } := by
    decide +kernel
  have stored : crew.service.store.value? "a" = some "1" := by decide +kernel
  have started : crew.service.backups.running.map (·.destination) = [["jobs", "a-1.bck"]] := by
    decide +kernel
  have counted : crew.summary = { files := 1, failedFiles := 1 } := by decide +kernel
  have queued : Job.queue service.files "jobs" = .ok ["jobs/a.job"] := by
    have opened : service.files.list "jobs" = .ok [("a.job", .file stopping)] := by cbv
    rw [Job.queue, opened]
    exact congrArg Except.ok (by decide +kernel)
  have batch : (["jobs/a.job"].foldl Batch.run { service }).summary
      = { files := 1, failedFiles := 1 } := by
    decide +kernel
  refine ⟨finished, attempted, stored, started, counted, ?_⟩
  rw [runDirectory, queued]
  exact congrArg some batch

end Crew

end KeyWatch.Job
