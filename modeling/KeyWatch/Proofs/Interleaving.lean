/-
# Proofs.Interleaving -- scripts that name different keys do not notice each other

Scripts may be run at the same time on one service. A `Workshop` lets them go on one line at a time,
in any order: a schedule says whose line is next. A script that comes to its end, or to a line that
is no text, is counted.

If no key is named by two of the scripts, every script goes on as it would alone (`Follows`): its
commands find under their keys what the script itself left there, wherever in the buckets the entries
of the others are. This is kept by every step (`keeps_step`), so what the scripts come to does not
depend on the schedule (`run_apart`). Totals do not either, since they are sums.
-/
import KeyWatch.Job.Directory
import KeyWatch.Proofs.Locality
import KeyWatch.Proofs.Places

namespace KeyWatch

set_option autoImplicit false

theorem Store.Agrees.trans {keys : Set String} {first second third : Store}
    (before : first.Agrees keys second) (after : second.Agrees keys third) :
    first.Agrees keys third :=
  ⟨before.settings.trans after.settings, before.made, after.made', fun key member =>
    (before.values key member).trans (after.values key member)⟩

namespace Job

/-! ## Totals -/

/-- Count a script by what it came to. -/
def Summary.add (summary : Summary) : Except Error Report → Summary
  | .ok report => summary.record report
  | .error _ => summary.recordFailure

/-- The totals of results. -/
def Summary.of (results : List (Except Error Report)) : Summary := results.foldl Summary.add {}

theorem Summary.add_right_comm (summary : Summary) (first second : Except Error Report) :
    (summary.add first).add second = (summary.add second).add first := by
  cases first <;> cases second <;>
    simp only [add, record, recordFailure, Nat.add_right_comm]

instance : RightCommutative Summary.add := ⟨Summary.add_right_comm⟩

/-- **Totals do not depend on the order** in which scripts are counted. -/
theorem Summary.of_perm {first second : List (Except Error Report)} (perm : first.Perm second) :
    Summary.of first = Summary.of second := by
  unfold Summary.of
  exact perm.foldl_eq _

theorem Summary.of_cons (result : Except Error Report) (results : List (Except Error Report)) :
    Summary.of (result :: results) = (Summary.of results).add result := by
  rw [Summary.of_perm (List.perm_append_singleton result results).symm, of, List.foldl_append]
  rfl

/-! ## Scripts at the same time -/

/-- A script, the path that names it, and where its answers go. -/
structure Script where
  job : String
  text : Bytes
  out : Sink

namespace Script

/-- What a script does that is run on its own. -/
def alone (service : Service) (script : Script) : Except Error Report × Run :=
  runScript service script.job script.text script.out

/-- The keys that the commands of a script name. -/
def named (script : Script) : List String := (commandsOf script.text).flatMap Command.named

/-- No command of the script looks at everything that is stored. -/
def IsLocal (script : Script) : Prop := ∀ command ∈ commandsOf script.text, command.isLocal = true

end Script

/-- A script under way among others: the lines that are left, what it said and counted, and its result
once it was counted. -/
structure Strand where
  job : String
  left : List Bytes
  number : Nat := 1
  out : Sink
  report : Report := {}
  printed : String := ""
  milliseconds : Nat := 0
  result? : Option (Except Error Report) := none

namespace Strand

/-- The strand of a script, before its first line. -/
def ofScript (script : Script) : Strand :=
  { job := script.job, left := Text.lines script.text, out := script.out }

/-- The strand as a run on a service. -/
def run (strand : Strand) (service : Service) : Run where
  service := service
  out := strand.out
  report := strand.report
  printed := strand.printed
  milliseconds := strand.milliseconds

/-- The strand after a line, with what a run says. -/
def next (strand : Strand) (run : Run) (left : List Bytes) : Strand :=
  { strand with
    left
    number := strand.number + 1
    out := run.out
    report := run.report
    printed := run.printed
    milliseconds := run.milliseconds }

/-- What can be seen of a script: its result, its output, what it printed, and how long it waited. -/
def seen (strand : Strand) : Option (Except Error Report) × Sink × String × Nat :=
  (strand.result?, strand.out, strand.printed, strand.milliseconds)

end Strand

/-- What can be seen of a script that was run on its own. -/
def seenAlone (ran : Except Error Report × Run) :
    Option (Except Error Report) × Sink × String × Nat :=
  (some ran.1, ran.2.out, ran.2.printed, ran.2.milliseconds)

/-- Scripts under way on one service, and the totals of those that were counted. -/
structure Workshop where
  service : Service
  strands : List Strand
  summary : Summary := {}

namespace Workshop

/-- Scripts before their first lines. -/
def begin (service : Service) (scripts : List Script) : Workshop :=
  { service, strands := scripts.map Strand.ofScript }

/-- Count a script. -/
def finish (workshop : Workshop) (place : Nat) (strand : Strand) (result : Except Error Report) :
    Workshop :=
  { workshop with
    strands := workshop.strands.set place { strand with result? := some result }
    summary := workshop.summary.add result }

/-- Let a script go on that was not counted yet: by its next line, or to be counted. -/
def go (workshop : Workshop) (place : Nat) (strand : Strand) : Workshop :=
  match strand.left with
  | [] => workshop.finish place strand (.ok strand.report)
  | bytes :: rest =>
    match Text.decode bytes with
    | .error _ =>
      let error : Error := .io .notText
      { workshop with service := workshop.service.warn (.failedJob strand.job error) }.finish
        place strand (.error error)
    | .ok text =>
      let ran := (strand.run workshop.service).line strand.job strand.number text
      { workshop with
        service := ran.service
        strands := workshop.strands.set place (strand.next ran rest) }

/-- Let the script at a place go on, if there is one that was not counted yet. -/
def step (workshop : Workshop) (place : Nat) : Workshop :=
  match workshop.strands[place]? with
  | none => workshop
  | some strand => if strand.result?.isSome then workshop else workshop.go place strand

/-- Let scripts go on by a schedule: whose line is the next. -/
def run (workshop : Workshop) (schedule : List Nat) : Workshop := schedule.foldl step workshop

/-- Every script was counted. -/
def isFinished (workshop : Workshop) : Bool := workshop.strands.all (·.result?.isSome)

end Workshop

/-! ## Schedules that suffice -/

/-- How often a strand has to go on until it is counted, at most. -/
def Strand.turns (strand : Strand) : Nat :=
  if strand.result?.isSome then 0 else strand.left.length + 1

namespace Workshop

/-- The turns of the strand at a place. -/
def turnsAt (workshop : Workshop) (place : Nat) : Nat :=
  (workshop.strands[place]?.map Strand.turns).getD 0

theorem turnsAt_of_set {workshop after : Workshop} {place : Nat} {old new : Strand}
    (there : workshop.strands[place]? = some old)
    (strands : after.strands = workshop.strands.set place new)
    (fewer : new.turns ≤ old.turns - 1) (place' : Nat) :
    after.turnsAt place' ≤ workshop.turnsAt place' - if place = place' then 1 else 0 := by
  unfold turnsAt
  rw [strands]
  by_cases here : place = place'
  · subst here
    rw [List.getElem?_set_self (List.getElem?_eq_some_iff.1 there).1, there, if_pos rfl]
    exact fewer
  · rw [List.getElem?_set_ne here, if_neg here]
    exact Nat.le_refl _

/-- **A step takes one turn,** of its own strand. -/
theorem turnsAt_step (workshop : Workshop) (place place' : Nat) :
    (workshop.step place).turnsAt place'
      ≤ workshop.turnsAt place' - if place = place' then 1 else 0 := by
  have unchanged : workshop.turnsAt place = 0 →
      workshop.turnsAt place' ≤ workshop.turnsAt place' - if place = place' then 1 else 0 := by
    intro none
    split
    · next here => rw [← here, none]
    · exact Nat.le_refl _
  unfold step
  cases there : workshop.strands[place]? with
  | none => exact unchanged (by rw [turnsAt, there]; rfl)
  | some strand =>
    dsimp only
    split
    · next counted => exact unchanged (by rw [turnsAt, there]; exact if_pos counted)
    · next uncounted =>
      have before : strand.turns = strand.left.length + 1 := if_neg uncounted
      have counted : ∀ result, ({ strand with result? := some result } : Strand).turns = 0 :=
        fun result => if_pos rfl
      unfold go
      cases left : strand.left with
      | nil => exact turnsAt_of_set there rfl (by rw [counted]; exact Nat.zero_le _) place'
      | cons bytes rest =>
        dsimp only
        cases Text.decode bytes with
        | error fault => exact turnsAt_of_set there rfl (by rw [counted]; exact Nat.zero_le _) place'
        | ok text =>
          refine turnsAt_of_set there rfl ?_ place'
          rw [before, left]
          exact Nat.le_of_eq (if_neg uncounted)

/-- **Scripts come to their ends** by any schedule in which each of them has turns enough. -/
theorem isFinished_run {service : Service} {scripts : List Script} {schedule : List Nat}
    (enough : ∀ place script, scripts[place]? = some script →
      (Text.lines script.text).length < schedule.count place) :
    ((begin service scripts).run schedule).isFinished = true := by
  have spent : ∀ (workshop : Workshop) (schedule : List Nat) (place : Nat),
      (workshop.run schedule).turnsAt place ≤ workshop.turnsAt place - schedule.count place := by
    intro workshop schedule place
    induction schedule generalizing workshop with
    | nil => exact Nat.le_refl _
    | cons first rest ih =>
      have one := workshop.turnsAt_step first place
      have later := ih (workshop.step first)
      show ((workshop.step first).run rest).turnsAt place ≤ _
      rw [List.count_cons]
      simp only [beq_iff_eq]
      omega
  have none : ∀ place, ((begin service scripts).run schedule).turnsAt place = 0 := by
    intro place
    have left := spent (begin service scripts) schedule place
    have start : (begin service scripts).turnsAt place ≤ schedule.count place := by
      unfold turnsAt begin
      rw [List.getElem?_map]
      cases known : scripts[place]? with
      | none => exact Nat.zero_le _
      | some script => exact enough place script known
    omega
  refine List.all_eq_true.2 fun strand member => ?_
  obtain ⟨place, bound, rfl⟩ := List.mem_iff_getElem.1 member
  have turns := none place
  unfold turnsAt at turns
  rw [List.getElem?_eq_getElem bound] at turns
  by_contra uncounted
  cases (if_neg uncounted).symm.trans turns

end Workshop

/-! ## A script among others, and alone -/

/-- The keys that commands of lines name are keys of the script, and the commands are local. -/
def Script.Covers (script : Script) (lines : List Bytes) : Prop :=
  ∀ command ∈ (legible lines).1.filterMap command?,
    command.isLocal = true ∧ ∀ key ∈ command.named, key ∈ script.named

/-- **A strand does what its script does alone,** as far as it has come: as a run of the script alone
that has the same lines left, or as the whole run. -/
inductive Follows (begun : Service) (script : Script) (service : Service) (strand : Strand) : Prop
  | underWay (solo : Run) (alike : (strand.run service).Alike {key | key ∈ script.named} solo)
      (uncounted : strand.result? = none) (job : strand.job = script.job)
      (ahead : solo.lines script.job strand.number strand.left
        = Run.lines { service := begun, out := script.out } script.job 1 (Text.lines script.text))
      (covers : script.Covers strand.left)
  | finished (alike : (strand.run service).Alike {key | key ∈ script.named} (script.alone begun).2)
      (counted : strand.result? = some (script.alone begun).1)

/-- What others do to other keys makes no difference. -/
theorem Follows.of_agrees {begun service service' : Service} {script : Script} {strand : Strand}
    (follows : Follows begun script service strand)
    (agrees : service'.store.Agrees {key | key ∈ script.named} service.store) :
    Follows begun script service' strand := by
  cases follows with
  | underWay solo alike uncounted job ahead covers =>
    exact .underWay solo ⟨agrees.trans alike.store, alike.out, alike.report, alike.printed,
      alike.milliseconds⟩ uncounted job ahead covers
  | finished alike counted =>
    exact .finished ⟨agrees.trans alike.store, alike.out, alike.report, alike.printed,
      alike.milliseconds⟩ counted

theorem Follows.seen {begun service : Service} {script : Script} {strand : Strand}
    (follows : Follows begun script service strand) (counted : strand.result?.isSome = true) :
    strand.seen = seenAlone (script.alone begun)
      ∧ service.store.Agrees {key | key ∈ script.named} (script.alone begun).2.service.store := by
  cases follows with
  | underWay solo alike uncounted =>
    rw [uncounted] at counted
    cases counted
  | finished alike counted =>
    refine ⟨?_, alike.store⟩
    unfold Strand.seen seenAlone
    rw [counted, ← alike.out, ← alike.printed, ← alike.milliseconds]
    rfl

theorem Script.alone_of_lines {begun : Service} {script : Script} {result : Except Error Unit}
    {ran : Run} (lines : Run.lines { service := begun, out := script.out } script.job 1
      (Text.lines script.text) = (result, ran)) :
    script.alone begun = (result.map fun _ => ran.report, ran) := by
  unfold alone runScript
  dsimp only
  rw [lines]
  cases result <;> rfl

/-! ## Schedules -/

/-- No key is named by two scripts. -/
def Apart (scripts : List Script) : Prop :=
  scripts.Pairwise fun first second => first.named.Disjoint second.named

theorem Apart.disjoint {scripts : List Script} (apart : Apart scripts) {place place' : Nat}
    {script script' : Script} (there : scripts[place]? = some script)
    (there' : scripts[place']? = some script') (other : place ≠ place') :
    script.named.Disjoint script'.named := by
  have each := List.pairwise_iff_getElem.1 apart
  obtain ⟨bound, rfl⟩ := List.getElem?_eq_some_iff.1 there
  obtain ⟨bound', rfl⟩ := List.getElem?_eq_some_iff.1 there'
  rcases Nat.lt_or_gt_of_ne other with earlier | later
  · exact each place place' bound bound' earlier
  · exact (each place' place bound' bound later).symm

namespace Workshop

/-- Every strand follows its script, keys that no script names keep their values, and the totals are
those of the scripts that were counted. -/
structure Keeps (begun : Service) (scripts : List Script) (workshop : Workshop) : Prop where
  places : workshop.strands.length = scripts.length
  follows : ∀ (place : Nat) (script : Script) (strand : Strand), scripts[place]? = some script →
    workshop.strands[place]? = some strand → Follows begun script workshop.service strand
  others : workshop.service.store.Agrees {key | ∀ script ∈ scripts, key ∉ script.named} begun.store
  totals : workshop.summary = Summary.of (workshop.strands.filterMap (·.result?))

variable {begun : Service} {scripts : List Script} {workshop : Workshop}

/-- **One strand goes on,** and touches no keys but those of its script. -/
theorem Keeps.update (keeps : workshop.Keeps begun scripts) (apart : Apart scripts) {place : Nat}
    {script : Script} (known : scripts[place]? = some script) {after : Workshop} {strand : Strand}
    (strands : after.strands = workshop.strands.set place strand)
    (elsewhere : ∀ keys : Set String, (∀ key ∈ keys, key ∉ script.named) →
      after.service.store.Agrees keys workshop.service.store)
    (follows : Follows begun script after.service strand)
    (totals : after.summary = Summary.of (after.strands.filterMap (·.result?))) :
    after.Keeps begun scripts where
  places := by rw [strands, List.length_set, keeps.places]
  follows := by
    intro place' script' strand' known' there'
    rw [strands] at there'
    by_cases here : place = place'
    · subst here
      have bound : place < workshop.strands.length := by
        rw [keeps.places]
        exact (List.getElem?_eq_some_iff.1 known).1
      rw [List.getElem?_set_self bound] at there'
      rw [known] at known'
      cases there'
      cases known'
      exact follows
    · rw [List.getElem?_set_ne here] at there'
      exact (keeps.follows place' script' strand' known' there').of_agrees
        (elsewhere _ fun key member named => apart.disjoint known known' here named member)
  others := by
    refine (elsewhere _ fun key unnamed => ?_).trans keeps.others
    exact unnamed script (List.mem_of_getElem? known)
  totals := totals

theorem Keeps.totals_finish (keeps : workshop.Keeps begun scripts) {place : Nat} {strand : Strand}
    (there : workshop.strands[place]? = some strand) (uncounted : strand.result? = none)
    (result : Except Error Report) :
    workshop.summary.add result = Summary.of ((workshop.strands.set place
      { strand with result? := some result }).filterMap (·.result?)) := by
  have counted := filterMap_set_perm there (·.result?) { strand with result? := some result }
  rw [uncounted] at counted
  rw [keeps.totals, ← Summary.of_cons]
  exact (Summary.of_perm counted).symm

/-- **A step keeps every script to itself.** -/
theorem Keeps.go (keeps : workshop.Keeps begun scripts) (apart : Apart scripts) {place : Nat}
    {script : Script} {strand : Strand} (known : scripts[place]? = some script)
    (there : workshop.strands[place]? = some strand) (uncounted : strand.result? = none) :
    (workshop.go place strand).Keeps begun scripts := by
  have made := keeps.others.made
  cases keeps.follows place script strand known there with
  | finished alike counted =>
    rw [uncounted] at counted
    cases counted
  | underWay solo alike uncounted job ahead covers =>
    obtain ⟨strandJob, left, number, out, report, printed, milliseconds, result?⟩ := strand
    dsimp only at job ahead covers uncounted
    subst job
    unfold Workshop.go
    cases left with
    | nil =>
      rw [Run.lines] at ahead
      refine keeps.update apart known rfl (fun _ _ => .refl made) (.finished ?_ ?_)
        (keeps.totals_finish there uncounted (.ok report))
      · rw [Script.alone_of_lines ahead.symm]
        exact alike
      · rw [Script.alone_of_lines ahead.symm]
        exact congrArg (fun report => some (Except.ok report)) alike.report
    | cons bytes rest =>
      dsimp only
      cases decoded : Text.decode bytes with
      | error fault =>
        rw [Run.lines, decoded] at ahead
        refine keeps.update apart known rfl (fun _ _ => .refl made) (.finished ?_ ?_)
          (keeps.totals_finish there uncounted (.error (.io .notText)))
        · rw [Script.alone_of_lines ahead.symm]
          exact ⟨alike.store, alike.out, alike.report, alike.printed, alike.milliseconds⟩
        · rw [Script.alone_of_lines ahead.symm]
          rfl
      | ok text =>
        rw [Run.lines, decoded] at ahead
        unfold Script.Covers at covers
        rw [legible_of_ok decoded] at covers
        have first : ∀ command ∈ command? text,
            command.isLocal = true ∧ ∀ key ∈ command.named, key ∈ script.named :=
          fun command found => covers command (List.mem_filterMap.2 ⟨text, by simp, found⟩)
        have later : script.Covers rest := fun command member => covers command (by
          obtain ⟨other, among, found⟩ := List.mem_filterMap.1 member
          exact List.mem_filterMap.2 ⟨other, List.mem_cons_of_mem _ among, found⟩)
        have went := alike.line script.job number (fun command found => (first command found).1)
          fun command found => (first command found).2
        refine keeps.update apart known rfl (fun keys unnamed => ?_)
          (.underWay _ went uncounted rfl ahead later) ?_
        · exact Run.agrees_line _ made script.job number fun command found key member named =>
            unnamed key member ((first command found).2 key named)
        · -- a line that was run counts nothing yet
          refine keeps.totals.trans (congrArg Summary.of (.symm ?_))
          apply filterMap_set_of_eq there
          rfl

theorem Keeps.step (keeps : workshop.Keeps begun scripts) (apart : Apart scripts) (place : Nat) :
    (workshop.step place).Keeps begun scripts := by
  unfold Workshop.step
  cases there : workshop.strands[place]? with
  | none => exact keeps
  | some strand =>
    have bound : place < scripts.length := by
      rw [← keeps.places]
      exact (List.getElem?_eq_some_iff.1 there).1
    dsimp only
    split
    · exact keeps
    · next uncounted =>
      exact keeps.go apart (List.getElem?_eq_getElem bound) there (by simpa using uncounted)

theorem Keeps.run (keeps : workshop.Keeps begun scripts) (apart : Apart scripts)
    (schedule : List Nat) : (workshop.run schedule).Keeps begun scripts := by
  induction schedule generalizing workshop with
  | nil => exact keeps
  | cons place rest ih => exact ih (keeps.step apart place)

theorem keeps_begin (made : begun.store.isInitialized = true)
    (each : ∀ script ∈ scripts, script.IsLocal) :
    (Workshop.begin begun scripts).Keeps begun scripts where
  places := List.length_map _
  follows := by
    intro place script strand known there
    have placed : (scripts.map Strand.ofScript)[place]? = some (Strand.ofScript script) := by
      rw [List.getElem?_map, known]
      rfl
    cases placed.symm.trans there
    refine .underWay { service := begun, out := script.out } ⟨.refl made, rfl, rfl, rfl, rfl⟩ rfl rfl
      rfl fun command member => ⟨each script (List.mem_of_getElem? known) command member, ?_⟩
    exact fun key named => List.mem_flatMap.2 ⟨command, member, named⟩
  others := .refl made
  totals := by
    have none : (Workshop.begin begun scripts).strands.filterMap (·.result?) = [] := by
      simp [Workshop.begin, Strand.ofScript]
    rw [none]
    rfl

/-- The value of a key after all scripts were counted. -/
theorem Keeps.value? (keeps : workshop.Keeps begun scripts)
    (finished : workshop.isFinished = true) (key : String) :
    (∀ script ∈ scripts, key ∈ script.named →
      workshop.service.store.value? key = (script.alone begun).2.service.store.value? key)
    ∧ ((∀ script ∈ scripts, key ∉ script.named) →
      workshop.service.store.value? key = begun.store.value? key) := by
  refine ⟨fun script member named => ?_, fun unnamed => keeps.others.values key unnamed⟩
  obtain ⟨place, bound, rfl⟩ := List.mem_iff_getElem.1 member
  have there := List.getElem?_eq_getElem (keeps.places ▸ bound)
  have counted := List.all_eq_true.1 finished _ (List.mem_of_getElem? there)
  obtain ⟨-, agrees⟩ :=
    (keeps.follows place _ _ (List.getElem?_eq_getElem bound) there).seen counted
  exact agrees.values key named

/-- What can be seen of scripts that were all counted is what each of them does alone. -/
theorem Keeps.seen (keeps : workshop.Keeps begun scripts) (finished : workshop.isFinished = true) :
    workshop.strands.map Strand.seen = scripts.map fun script => seenAlone (script.alone begun) := by
  refine List.ext_getElem (by rw [List.length_map, List.length_map, keeps.places]) ?_
  intro place bound bound'
  rw [List.length_map] at bound bound'
  rw [List.getElem_map, List.getElem_map]
  have there := List.getElem?_eq_getElem bound
  have counted := List.all_eq_true.1 finished _ (List.mem_of_getElem? there)
  exact ((keeps.follows place _ _ (List.getElem?_eq_getElem bound') there).seen counted).1

/-- **Scripts that name different keys do not notice each other.** Run together on a service that is
initialized, none of them listing the store or starting a backup, they come to the same by any two
schedules that let all of them come to their ends: every script to the result, the output and the
report that it has alone, their totals to the sum of these, and every key to the same value. The keys
may share buckets. -/
theorem run_apart (begun : Service) (scripts : List Script)
    (made : begun.store.isInitialized = true) (each : ∀ script ∈ scripts, script.IsLocal)
    (apart : Apart scripts) (first second : List Nat)
    (finished : ((begin begun scripts).run first).isFinished = true)
    (finished' : ((begin begun scripts).run second).isFinished = true) :
    let one := (begin begun scripts).run first
    let other := (begin begun scripts).run second
    one.strands.map Strand.seen = other.strands.map Strand.seen
      ∧ one.strands.map Strand.seen = (scripts.map fun script => seenAlone (script.alone begun))
      ∧ one.summary = other.summary
      ∧ one.summary = Summary.of (scripts.map fun script => (script.alone begun).1)
      ∧ ∀ key, one.service.store.get key = other.service.store.get key := by
  intro one other
  have keeps : one.Keeps begun scripts := (keeps_begin made each).run apart first
  have keeps' : other.Keeps begun scripts := (keeps_begin made each).run apart second
  have seen := keeps.seen finished
  have seen' := keeps'.seen finished'
  have totals : ∀ {workshop : Workshop}, workshop.Keeps begun scripts →
      workshop.strands.map Strand.seen
        = (scripts.map fun script => seenAlone (script.alone begun)) →
      workshop.summary = Summary.of (scripts.map fun script => (script.alone begun).1) := by
    intro workshop keeps seen
    have results := congrArg (List.filterMap Prod.fst) seen
    rw [List.filterMap_map, List.filterMap_map] at results
    rw [keeps.totals, show workshop.strands.filterMap (·.result?) = _ from results]
    exact congrArg Summary.of (congrFun List.filterMap_eq_map scripts)
  refine ⟨seen.trans seen'.symm, seen, (totals keeps seen).trans (totals keeps' seen').symm,
    totals keeps seen, fun key => ?_⟩
  have value : one.service.store.value? key = other.service.store.value? key := by
    by_cases someone : ∃ script ∈ scripts, key ∈ script.named
    · obtain ⟨script, member, named⟩ := someone
      rw [(keeps.value? finished key).1 script member named,
        (keeps'.value? finished' key).1 script member named]
    · have nobody : ∀ script ∈ scripts, key ∉ script.named := fun script member named =>
        someone ⟨script, member, named⟩
      rw [(keeps.value? finished key).2 nobody, (keeps'.value? finished' key).2 nobody]
  rw [Store.get_of_initialized keeps.others.made, Store.get_of_initialized keeps'.others.made,
    keeps.others.settings, keeps'.others.settings, value]

/-- Two scripts whose keys share a bucket, one of which deletes there what it has written. -/
theorem run_apart_shared_bucket :
    let begun : Service := { store := .ofSettings {} }
    let first : Script := ⟨"one.job", Text.utf8 "WRITE [(a1,x)(a3,z)]\nDELETE [a1]\n", {}⟩
    let second : Script := ⟨"two.job", Text.utf8 "WRITE [(a2,y)]\nREAD [a2]\n", {}⟩
    let run := (begin begun [first, second]).run
    commandsOf first.text = [.write [("a1", "x"), ("a3", "z")], .delete ["a1"]]
      ∧ commandsOf second.text = [.write [("a2", "y")], .read ["a2"]]
      ∧ (run [0, 1, 0, 1, 0, 1]).isFinished = true ∧ (run [1, 0, 0, 0, 1, 1]).isFinished = true
      ∧ (run [0, 1, 0, 1, 0, 1]).summary = (run [1, 0, 0, 0, 1, 1]).summary
      ∧ (run [0, 1, 0, 1, 0, 1]).service.store.get "a1"
        = (run [1, 0, 0, 0, 1, 1]).service.store.get "a1" := by
  intro begun first second run
  have commands : commandsOf first.text = [.write [("a1", "x"), ("a3", "z")], .delete ["a1"]] := by
    decide +kernel
  have commands' : commandsOf second.text = [.write [("a2", "y")], .read ["a2"]] := by
    decide +kernel
  have turns : ∀ script ∈ [first, second], (Text.lines script.text).length < 3 := by
    decide +kernel
  have finished : ∀ schedule : List Nat, 3 ≤ schedule.count 0 → 3 ≤ schedule.count 1 →
      (run schedule).isFinished = true := by
    intro schedule zero one
    refine isFinished_run fun place script there => ?_
    have short := turns script (List.mem_of_getElem? there)
    have bound : place < 2 := (List.getElem?_eq_some_iff.1 there).1
    have enough : 3 ≤ schedule.count place := by
      interval_cases place
      · exact zero
      · exact one
    omega
  have each : ∀ script ∈ [first, second], script.IsLocal := by
    intro script member
    simp only [List.mem_cons, List.not_mem_nil, or_false] at member
    rcases member with rfl | rfl
    · unfold Script.IsLocal
      rw [commands]
      decide
    · unfold Script.IsLocal
      rw [commands']
      decide
  have apart : Apart [first, second] := by
    have disjoint : first.named.Disjoint second.named := by
      unfold Script.named
      rw [commands, commands']
      simp [Command.named]
    simpa [Apart] using disjoint
  obtain ⟨-, -, totals, -, values⟩ :=
    run_apart begun [first, second] rfl each apart [0, 1, 0, 1, 0, 1] [1, 0, 0, 0, 1, 1]
      (finished _ (by decide) (by decide)) (finished _ (by decide) (by decide))
  exact ⟨commands, commands', finished _ (by decide) (by decide),
    finished _ (by decide) (by decide), totals, values "a1"⟩

end Workshop

end Job

end KeyWatch
