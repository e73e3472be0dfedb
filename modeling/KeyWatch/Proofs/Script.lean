/-
# Proofs.Script -- a script is its commands, carried out in order

A script is read line by line. A line may hold no command, or something that is none, or a command
that fails; nothing of that keeps the lines after it from being run. `Desk` carries out commands
alone: it knows no lines, counts nothing, and remembers the backups that were started. A run of lines
stays beside a desk that is given the commands among them (`Run.Beside`, `lines_spec`). So all that a
script does is what its commands do (`runScript_spec`), and its counters are told by its lines.
-/
import KeyWatch.Job.Script

namespace KeyWatch

set_option autoImplicit false

/-! ## Warnings are not looked at -/

namespace Service

variable (service : Service) (warnings : List Warning)

theorem apply_with_warnings {α : Type} (decided : Except Error (Update Store α)) :
    ∃ told, ({ service with warnings } : Service).apply decided
      = ((service.apply decided).1, { (service.apply decided).2 with warnings := told }) := by
  cases decided with
  | error error => exact ⟨warnings, rfl⟩
  | ok update => exact ⟨_, rfl⟩

theorem delete_with_warnings (keys : List String) (sink : Sink) :
    ∃ told, ({ service with warnings } : Service).delete keys sink
      = ((service.delete keys sink).1, (service.delete keys sink).2.1,
          { (service.delete keys sink).2.2 with warnings := told }) := by
  obtain ⟨told, applied⟩ := service.apply_with_warnings warnings (service.store.delete keys)
  refine ⟨told, ?_⟩
  unfold delete
  dsimp only
  rw [applied]
  rcases service.apply (service.store.delete keys) with ⟨result, after⟩
  cases result <;> rfl

theorem grantBackup_with_warnings :
    ({ service with warnings } : Service).grantBackup = { service.grantBackup with warnings } := by
  unfold grantBackup
  dsimp only
  cases service.backups.grant? with
  | some backups => rfl
  | none =>
    have finished : ({ service with warnings } : Service).finishBackup
        = { service.finishBackup with warnings } := by
      unfold finishBackup
      dsimp only
      cases service.backups.running <;> rfl
    dsimp only
    rw [finished]

theorem backup_with_warnings (path : String) :
    ({ service with warnings } : Service).backup path
      = ((service.backup path).1, { (service.backup path).2 with warnings }) := by
  unfold backup
  rw [grantBackup_with_warnings]
  dsimp only
  cases service.store.requireTable with
  | error error => rfl
  | ok table =>
    dsimp only
    cases service.grantBackup.files.create path <;> rfl

end Service

namespace Job

/-! ## Commands without a script -/

/-- What commands work on when they are given one after another. -/
structure Desk where
  service : Service
  /-- Where answers go. -/
  out : Sink
  printed : String := ""
  milliseconds : Nat := 0
  /-- The paths of the backups that were started, in order. -/
  started : List String := []

namespace Desk

/-- Carry out one command. A backup is named for the job and for the number of backups that were
started before. -/
def carryOut (desk : Desk) (job : String) : Command → Except Error Unit × Desk
  | .write pairs =>
    let (result, service) := desk.service.write pairs
    (result, { desk with service })
  | .read keys =>
    let (result, out) := desk.service.read keys desk.out
    (result, { desk with out })
  | .delete keys =>
    let (result, out, service) := desk.service.delete keys desk.out
    (result, { desk with out, service })
  | .showAll =>
    let (result, out) := desk.service.showAll desk.out
    (result, { desk with out })
  | .wait milliseconds =>
    if milliseconds = 0 then (.ok (), desk)
    else
      let (result, out) := Service.output desk.out waitingLine
      let waited := if result.isOk then milliseconds else 0
      (result, { desk with out, milliseconds := desk.milliseconds + waited })
  | .backup =>
    let path := Path.backup job (desk.started.length + 1)
    let (result, service) := desk.service.backup path
    (result, { desk with service, started := desk.started ++ if result.isOk then [path] else [] })
  | .help => (.ok (), { desk with printed := desk.printed ++ commandList })

/-- Carry out commands in order, whatever comes of each. Answers what came of them. -/
def carryOutAll (desk : Desk) (job : String) : List Command → List (Except Error Unit) × Desk
  | [] => ([], desk)
  | command :: rest =>
    let (result, desk) := desk.carryOut job command
    let (results, desk) := desk.carryOutAll job rest
    (result :: results, desk)

variable (desk : Desk) (job : String)

theorem carryOutAll_cons (command : Command) (rest : List Command) :
    desk.carryOutAll job (command :: rest)
      = ((desk.carryOut job command).1 :: ((desk.carryOut job command).2.carryOutAll job rest).1,
          ((desk.carryOut job command).2.carryOutAll job rest).2) := rfl

theorem carryOutAll_append (first second : List Command) :
    desk.carryOutAll job (first ++ second)
      = ((desk.carryOutAll job first).1
            ++ ((desk.carryOutAll job first).2.carryOutAll job second).1,
          ((desk.carryOutAll job first).2.carryOutAll job second).2) := by
  induction first generalizing desk with
  | nil => rfl
  | cons command rest ih =>
    rw [List.cons_append, carryOutAll_cons, ih, carryOutAll_cons]
    rfl

/-- The backups are numbered from one, without a gap. -/
def Numbered (desk : Desk) (job : String) : Prop :=
  desk.started = (List.range desk.started.length).map fun number => Path.backup job (number + 1)

theorem numbered_carryOut {desk : Desk} {job : String} (numbered : desk.Numbered job)
    (command : Command) : (desk.carryOut job command).2.Numbered job := by
  cases command with
  | backup =>
    unfold carryOut
    dsimp only
    rcases desk.service.backup (Path.backup job (desk.started.length + 1)) with ⟨result, service⟩
    unfold Numbered at numbered ⊢
    cases result with
    | error error =>
      simpa [Except.isOk, Except.toBool] using numbered
    | ok _ =>
      show desk.started ++ [_] = List.map _ (List.range (desk.started ++ [_]).length)
      rw [List.length_append, List.length_singleton, List.range_succ, List.map_append, ← numbered]
      rfl
  | wait milliseconds =>
    unfold carryOut
    dsimp only
    split
    · exact numbered
    · exact numbered
  | _ => exact numbered

/-- **No number is left out and none is used twice,** whatever commands fail. -/
theorem numbered_carryOutAll {desk : Desk} {job : String} (numbered : desk.Numbered job)
    (commands : List Command) : (desk.carryOutAll job commands).2.Numbered job := by
  induction commands generalizing desk with
  | nil => exact numbered
  | cons command rest ih => exact ih (numbered_carryOut numbered command)

end Desk

/-! ## Lines -/

/-- The texts of the lines before the first one that is not text, and whether there is none such. -/
def legible : List Bytes → List String × Bool
  | [] => ([], true)
  | bytes :: rest =>
    match Text.decode bytes with
    | .ok text => (text :: (legible rest).1, (legible rest).2)
    | .error _ => ([], false)

/-- A line that is blank or a comment. -/
def isQuiet (text : String) : Bool := KeyWatch.Command.isSilent (Text.trim text.toList)

/-- The command of a line, if it holds one. -/
def command? (text : String) : Option Command :=
  match Command.parse text with
  | .ok found => found
  | .error _ => none

/-- A line that ought to hold a command and does not. -/
def isUnreadable (text : String) : Bool := !(Command.parse text).isOk

theorem legible_of_ok {bytes : Bytes} {text : String} (decoded : Text.decode bytes = .ok text)
    (rest : List Bytes) :
    legible (bytes :: rest) = (text :: (legible rest).1, (legible rest).2) := by
  rw [legible, decoded]

theorem legible_of_error {bytes : Bytes} {fault : Text.Utf8Fault}
    (decoded : Text.decode bytes = .error fault) (rest : List Bytes) :
    legible (bytes :: rest) = ([], false) := by
  rw [legible, decoded]

theorem legible_append {first : List Bytes} (whole : (legible first).2 = true)
    (second : List Bytes) :
    legible (first ++ second) = ((legible first).1 ++ (legible second).1, (legible second).2) := by
  induction first with
  | nil => rfl
  | cons bytes rest ih =>
    rw [List.cons_append]
    cases decoded : Text.decode bytes with
    | error fault =>
      rw [legible_of_error decoded] at whole
      cases whole
    | ok text =>
      rw [legible_of_ok decoded] at whole ⊢
      rw [legible_of_ok decoded, ih whole]
      rfl

/-- **A line is quiet, or unreadable, or holds a command.** -/
theorem parse_cases (text : String) :
    (isQuiet text = true ∧ Command.parse text = .ok none)
      ∨ (isQuiet text = false ∧ ∃ fault, Command.parse text = .error fault)
      ∨ (isQuiet text = false ∧ ∃ command, Command.parse text = .ok (some command)) := by
  unfold Command.parse isQuiet
  dsimp only
  cases KeyWatch.Command.isSilent (Text.trim text.toList) with
  | true => exact .inl ⟨rfl, rfl⟩
  | false =>
    cases Command.ofWord _ (KeyWatch.Command.arguments (Text.trim text.toList)) with
    | error fault => exact .inr (.inl ⟨rfl, fault, rfl⟩)
    | ok command => exact .inr (.inr ⟨rfl, command, rfl⟩)

/-! ## A run and a desk -/

namespace Run

/-- A run has done to the store, said and started what a desk has; only warnings may differ. -/
structure Beside (run : Run) (desk : Desk) : Prop where
  service : desk.service = { run.service with warnings := desk.service.warnings }
  out : run.out = desk.out
  printed : run.printed = desk.printed
  milliseconds : run.milliseconds = desk.milliseconds
  backups : run.report.backups = desk.started.length

variable {run : Run} {desk : Desk}

theorem beside_count (beside : run.Beside desk) : run.count.Beside desk :=
  ⟨beside.service, beside.out, beside.printed, beside.milliseconds, beside.backups⟩

theorem beside_fail (beside : run.Beside desk) (warning : Warning) :
    (run.fail warning).Beside desk :=
  ⟨beside.service, beside.out, beside.printed, beside.milliseconds, beside.backups⟩

/-- **A command does the same in a run and on its own,** and counts nothing itself. -/
theorem beside_execute (beside : run.Beside desk) (job : String) (command : Command) :
    let ran := run.execute job command
    let direct := desk.carryOut job command
    ran.1 = direct.1 ∧ ran.2.Beside direct.2
      ∧ ran.2.report.commands = run.report.commands ∧ ran.2.report.failed = run.report.failed := by
  obtain ⟨service, out, report, printed, milliseconds⟩ := run
  obtain ⟨service', out', printed', milliseconds', started⟩ := desk
  obtain ⟨alike, rfl, rfl, rfl, numbered⟩ := beside
  dsimp only at alike numbered
  rw [alike]
  cases command with
  | write pairs =>
    obtain ⟨told, applied⟩ := service.apply_with_warnings service'.warnings
      (service.store.write pairs)
    unfold execute Desk.carryOut Service.write
    dsimp only
    rw [applied]
    exact ⟨rfl, ⟨rfl, rfl, rfl, rfl, numbered⟩, rfl, rfl⟩
  | read keys => exact ⟨rfl, ⟨rfl, rfl, rfl, rfl, numbered⟩, rfl, rfl⟩
  | delete keys =>
    obtain ⟨told, deleted⟩ := service.delete_with_warnings service'.warnings keys out
    unfold execute Desk.carryOut
    dsimp only
    rw [deleted]
    exact ⟨rfl, ⟨rfl, rfl, rfl, rfl, numbered⟩, rfl, rfl⟩
  | showAll => exact ⟨rfl, ⟨rfl, rfl, rfl, rfl, numbered⟩, rfl, rfl⟩
  | wait delay =>
    cases delay with
    | zero => exact ⟨rfl, ⟨rfl, rfl, rfl, rfl, numbered⟩, rfl, rfl⟩
    | succ delay =>
      unfold execute Desk.carryOut
      dsimp only
      rcases Service.output out waitingLine with ⟨result, after⟩
      cases result with
      | error error => exact ⟨rfl, ⟨rfl, rfl, rfl, rfl, numbered⟩, rfl, rfl⟩
      | ok _ => exact ⟨rfl, ⟨rfl, rfl, rfl, rfl, numbered⟩, rfl, rfl⟩
  | backup =>
    have backed := service.backup_with_warnings service'.warnings
      (Path.backup job (started.length + 1))
    unfold execute Desk.carryOut
    dsimp only
    rw [backed, numbered]
    rcases service.backup (Path.backup job (started.length + 1)) with ⟨result, after⟩
    cases result with
    | error error =>
      refine ⟨rfl, ⟨rfl, rfl, rfl, rfl, ?_⟩, rfl, rfl⟩
      show report.backups = (started ++ []).length
      rw [List.append_nil, numbered]
    | ok _ =>
      refine ⟨rfl, ⟨rfl, rfl, rfl, rfl, ?_⟩, rfl, rfl⟩
      show started.length + 1 = (started ++ [_]).length
      rw [List.length_append, List.length_singleton]
  | help => exact ⟨rfl, ⟨rfl, rfl, rfl, rfl, numbered⟩, rfl, rfl⟩

/-- A line does what its command does, and is counted: as a command unless it is quiet, and as a
failure if it is unreadable or its command fails. -/
theorem beside_line (beside : run.Beside desk) (job : String) (number : Nat) (text : String) :
    let ran := run.line job number text
    let direct := desk.carryOutAll job (command? text).toList
    ran.Beside direct.2
      ∧ ran.report.commands = run.report.commands + (!isQuiet text).toNat
      ∧ ran.report.failed
        = run.report.failed + (isUnreadable text).toNat + direct.1.countP (!·.isOk) := by
  unfold line command? isUnreadable
  rcases parse_cases text with ⟨quiet, parsed⟩ | ⟨loud, fault, parsed⟩ | ⟨loud, command, parsed⟩
  · rw [parsed, quiet]
    exact ⟨beside, rfl, rfl⟩
  · rw [parsed, loud]
    exact ⟨beside_fail (beside_count beside) _, rfl, rfl⟩
  · rw [parsed, loud]
    obtain ⟨same, after, commands, failed⟩ := beside_execute (beside_count beside) job command
    rcases ran : run.count.execute job command with ⟨result, done⟩
    rw [ran] at same after commands failed
    have answer : (desk.carryOut job command).1 = result := same.symm
    dsimp only [Option.toList]
    rw [Desk.carryOutAll_cons, answer, ran]
    cases result with
    | ok _ => exact ⟨after, commands, failed⟩
    | error error =>
      refine ⟨beside_fail after _, commands, ?_⟩
      exact congrArg (· + 1) failed

/-- **Lines do what their commands do,** up to the first line that is not text. -/
theorem lines_spec (beside : run.Beside desk) (job : String) (number : Nat) (lines : List Bytes) :
    let texts := (legible lines).1
    let ran := run.lines job number lines
    let direct := desk.carryOutAll job (texts.filterMap command?)
    ran.1 = (if (legible lines).2 = true then .ok () else .error (.io .notText))
      ∧ ran.2.Beside direct.2
      ∧ ran.2.report.commands = run.report.commands + texts.countP (!isQuiet ·)
      ∧ ran.2.report.failed
        = run.report.failed + texts.countP isUnreadable + direct.1.countP (!·.isOk) := by
  induction lines generalizing run desk number with
  | nil => exact ⟨rfl, beside, rfl, rfl⟩
  | cons bytes rest ih =>
    cases decoded : Text.decode bytes with
    | error fault =>
      rw [legible_of_error decoded, Run.lines, decoded]
      exact ⟨rfl, beside, rfl, rfl⟩
    | ok text =>
      obtain ⟨after, commands, failed⟩ := beside_line beside job number text
      obtain ⟨ending, later, commands', failed'⟩ := ih after (number + 1)
      have split : (text :: (legible rest).1).filterMap command?
          = (command? text).toList ++ (legible rest).1.filterMap command? := by
        rw [List.filterMap_cons]
        cases command? text <;> rfl
      rw [legible_of_ok decoded, Run.lines, decoded]
      dsimp only
      rw [split, Desk.carryOutAll_append]
      refine ⟨ending, later, ?_, ?_⟩
      · rw [commands', commands, List.countP_cons]
        cases isQuiet text with
        | false =>
          simp
          omega
        | true => simp
      · rw [failed', failed, List.countP_cons, List.countP_append]
        cases isUnreadable text with
        | false =>
          simp
          omega
        | true =>
          simp
          omega

end Run

/-! ## Scripts -/

variable (service : Service) (job : String) (script : Bytes) (out : Sink)

/-- The commands of a script that are carried out, in order. -/
def commandsOf (script : Bytes) : List Command :=
  (legible (Text.lines script)).1.filterMap command?

/-- A script on its own: a desk is given its commands, and its lines are counted. -/
theorem runScript_of_lines :
    let texts := (legible (Text.lines script)).1
    let ran := runScript service job script out
    let direct := Desk.carryOutAll { service, out } job (commandsOf script)
    ran.1 = (if (legible (Text.lines script)).2 = true then .ok ran.2.report
        else .error (.io .notText))
      ∧ ran.2.Beside direct.2
      ∧ ran.2.report.commands = texts.countP (!isQuiet ·)
      ∧ ran.2.report.failed = texts.countP isUnreadable + direct.1.countP (!·.isOk) := by
  have beside : Run.Beside { service, out } { service, out } := ⟨rfl, rfl, rfl, rfl, rfl⟩
  obtain ⟨ending, after, commands, failed⟩ := Run.lines_spec beside job 1 (Text.lines script)
  dsimp only at commands failed
  rw [Nat.zero_add] at commands failed
  have same : (runScript service job script out).2
      = (Run.lines { service, out } job 1 (Text.lines script)).2 := by
    unfold runScript
    dsimp only
    rcases Run.lines { service, out } job 1 (Text.lines script) with ⟨result, run⟩
    cases result <;> rfl
  intro texts ran direct
  have run : ran.2 = _ := same
  refine ⟨?_, ?_, ?_, ?_⟩
  · have result : ran.1 = (Run.lines { service, out } job 1 (Text.lines script)).1.map
        fun _ => ran.2.report := by
      show (runScript service job script out).1 = _
      rw [run]
      unfold runScript
      dsimp only
      rcases Run.lines { service, out } job 1 (Text.lines script) with ⟨result, run⟩
      cases result <;> rfl
    rw [result, ending]
    split <;> rfl
  · rw [run]
    exact after
  · rw [run]
    exact commands
  · rw [run]
    exact failed

/-- A line that is unreadable holds no command, and is not quiet. -/
theorem of_unreadable {text : String} {fault : SyntaxFault}
    (unreadable : Command.parse text = .error fault) :
    command? text = none ∧ isQuiet text = false ∧ isUnreadable text = true := by
  refine ⟨by rw [command?, unreadable], ?_, by rw [isUnreadable, unreadable]; rfl⟩
  rcases parse_cases text with ⟨-, parsed⟩ | ⟨loud, -⟩ | ⟨loud, -⟩
  · rw [unreadable] at parsed
    cases parsed
  · exact loud
  · exact loud

/-- **One unreadable line more** is one line more that counts and one more that is unreadable; the
commands are the same. -/
theorem legible_unreadable {before after : List Bytes} {bytes : Bytes} {text : String}
    {fault : SyntaxFault} (whole : (legible before).2 = true)
    (decoded : Text.decode bytes = .ok text) (unreadable : Command.parse text = .error fault) :
    let shorter := legible (before ++ after)
    let longer := legible (before ++ bytes :: after)
    longer.2 = shorter.2
      ∧ longer.1.filterMap command? = shorter.1.filterMap command?
      ∧ longer.1.countP (!isQuiet ·) = shorter.1.countP (!isQuiet ·) + 1
      ∧ longer.1.countP isUnreadable = shorter.1.countP isUnreadable + 1 := by
  obtain ⟨silent, loud, counted⟩ := of_unreadable unreadable
  intro shorter longer
  have short : shorter = ((legible before).1 ++ (legible after).1, (legible after).2) :=
    legible_append whole after
  have long : longer = ((legible before).1 ++ text :: (legible after).1, (legible after).2) := by
    rw [show longer = _ from legible_append whole (bytes :: after), legible_of_ok decoded]
  rw [short, long]
  refine ⟨rfl, ?_, ?_, ?_⟩
  · rw [List.filterMap_append, List.filterMap_append, List.filterMap_cons_none silent]
  · rw [List.countP_append, List.countP_append, List.countP_cons_of_pos (by simp [loud])]
    omega
  · rw [List.countP_append, List.countP_append, List.countP_cons_of_pos counted]
    omega

/-- **A script does what its commands do, carried out one after another.** They are the commands of
the lines before the first one that is not text; only such a line stops the script. What the store,
the answers and the backups come to is what they come to when the commands are given directly. Every
line but blank ones and comments counts as a command; the failures are the lines that are unreadable
and the commands that fail; and the backups that were started have the numbers from one on. One
unreadable line more or less is one command and one failure more or less, and nothing else. -/
theorem runScript_spec :
    let texts := (legible (Text.lines script)).1
    let ran := runScript service job script out
    let direct := Desk.carryOutAll { service, out } job (commandsOf script)
    ran.1 = (if (legible (Text.lines script)).2 = true then .ok ran.2.report
        else .error (.io .notText))
      ∧ direct.2.service = { ran.2.service with warnings := direct.2.service.warnings }
      ∧ ran.2.out = direct.2.out ∧ ran.2.printed = direct.2.printed
      ∧ ran.2.milliseconds = direct.2.milliseconds
      ∧ ran.2.report.commands = texts.countP (!isQuiet ·)
      ∧ ran.2.report.failed = texts.countP isUnreadable + direct.1.countP (!·.isOk)
      ∧ direct.2.started
        = (List.range ran.2.report.backups).map (fun number => Path.backup job (number + 1))
      ∧ ∀ longer before after bytes text fault,
          Text.lines script = before ++ after → Text.lines longer = before ++ bytes :: after →
          (legible before).2 = true → Text.decode bytes = .ok text →
          Command.parse text = .error fault →
            let other := runScript service job longer out
            other.1 = ran.1.map (fun _ => other.2.report)
              ∧ other.2.report.commands = ran.2.report.commands + 1
              ∧ other.2.report.failed = ran.2.report.failed + 1
              ∧ other.2.report.backups = ran.2.report.backups
              ∧ other.2.service = { ran.2.service with warnings := other.2.service.warnings }
              ∧ other.2.out = ran.2.out ∧ other.2.printed = ran.2.printed
              ∧ other.2.milliseconds = ran.2.milliseconds := by
  intro texts ran direct
  obtain ⟨ending, beside, commands, failed⟩ := runScript_of_lines service job script out
  have none : Desk.Numbered { service, out } job := rfl
  have numbered : direct.2.Numbered job := Desk.numbered_carryOutAll none (commandsOf script)
  refine ⟨ending, beside.service, beside.out, beside.printed, beside.milliseconds, commands, failed,
    ?_, ?_⟩
  · have backups : ran.2.report.backups = direct.2.started.length := beside.backups
    rw [backups]
    exact numbered
  · intro longer before after bytes text fault lines lines' whole decoded unreadable other
    obtain ⟨ending', beside', commands', failed'⟩ := runScript_of_lines service job longer out
    obtain ⟨ends, same, counted, unread⟩ := legible_unreadable whole decoded unreadable
    rw [← lines, ← lines'] at ends same counted unread
    -- the longer script has the same commands, so the same desk stands beside both
    have alike : commandsOf longer = commandsOf script := same
    rw [alike] at beside' failed'
    refine ⟨?_, ?_, ?_, beside'.backups.trans beside.backups.symm, ?_,
      beside'.out.trans beside.out.symm, beside'.printed.trans beside.printed.symm,
      beside'.milliseconds.trans beside.milliseconds.symm⟩
    · have result : other.1 = _ := ending'
      have result' : ran.1 = _ := ending
      rw [result, result', ends]
      split <;> rfl
    · exact commands'.trans (counted.trans (congrArg (· + 1) commands.symm))
    · have count : other.2.report.failed = _ := failed'
      have count' : ran.2.report.failed = _ := failed
      rw [count, count', unread]
      omega
    · have alike : direct.2.service
          = { ran.2.service with warnings := direct.2.service.warnings } := beside.service
      have alike' : direct.2.service
          = { other.2.service with warnings := direct.2.service.warnings } := beside'.service
      calc other.2.service
          = { direct.2.service with warnings := other.2.service.warnings } := by rw [alike']
        _ = { ran.2.service with warnings := other.2.service.warnings } := by rw [alike]

/-- A line that is no command, between two commands. -/
theorem runScript_spec_line_more :
    let service : Service := { store := .ofSettings {} }
    let ran := runScript service "a.job" (Text.utf8 "WRITE [(a,1)]\nDELETE [a]\n") {}
    let other := runScript service "a.job" (Text.utf8 "WRITE [(a,1)]\nINIT\nDELETE [a]\n") {}
    ran.2.report = { commands := 2 } ∧ other.2.report = { commands := 3, failed := 1 }
      ∧ other.2.service = { ran.2.service with warnings := other.2.service.warnings } := by
  intro service ran other
  have lines : Text.lines (Text.utf8 "WRITE [(a,1)]\nDELETE [a]\n")
      = [Text.utf8 "WRITE [(a,1)]"] ++ [Text.utf8 "DELETE [a]"] := by decide +kernel
  have lines' : Text.lines (Text.utf8 "WRITE [(a,1)]\nINIT\nDELETE [a]\n")
      = [Text.utf8 "WRITE [(a,1)]"] ++ Text.utf8 "INIT" :: [Text.utf8 "DELETE [a]"] := by
    decide +kernel
  have whole : (legible [Text.utf8 "WRITE [(a,1)]"]).2 = true := by decide +kernel
  have decoded : Text.decode (Text.utf8 "INIT") = .ok "INIT" := rfl
  have unreadable : Command.parse "INIT" = .error (.unknownCommand "INIT") := rfl
  have counted : ran.2.report = { commands := 2 } := by decide +kernel
  obtain ⟨-, -, -, -, -, -, -, -, more⟩ :=
    runScript_spec service "a.job" (Text.utf8 "WRITE [(a,1)]\nDELETE [a]\n") {}
  obtain ⟨-, commands, failed, backups, same, -⟩ :=
    more _ _ _ _ _ _ lines lines' whole decoded unreadable
  refine ⟨counted, ?_, same⟩
  have report : other.2.report = ⟨ran.2.report.commands + 1, ran.2.report.failed + 1,
      ran.2.report.backups⟩ := by
    rw [← commands, ← failed, ← backups]
  rw [report, counted]

/-- A comment, a command that fails, a line that is no command, and a line that is not text. -/
example :
    let script := Text.utf8 "# nothing\nWRITE [(a,1)]\nINIT\nWAIT 5\n" ++ [0xFF, 10] ++ Text.utf8 "HELP"
    let ran := runScript { store := { settings := {} } } "job" script {}
    (legible (Text.lines script)).2 = false ∧ commandsOf script = [.write [("a", "1")], .wait 5]
      ∧ ran.2.report = { commands := 3, failed := 2 } ∧ ran.2.milliseconds = 5 := by
  decide +kernel

end Job

end KeyWatch
