/-
# Proofs.Admission -- who holds a token

A backup takes its steps one by one: it is let in, takes its snapshot, opens its file, gets a
thread, puts the handle of the thread on the list, is written, and ends. Between any two of them
other backups can take theirs, and so can those who wait for all backups: they take the list and
then ask for the end of one thread after another. An `Office` is a pool together with how far each
backup is, and its steps move the tokens by the operations of the pool and by nothing else.

`Office.Sound` says what every order of these steps keeps: a token is in the pool or held by one
backup, so that a token that is given back always finds room (`Sound.room`), and a thread that is
alive is known to somebody who will wait for it. What follows for the number of backups that are
under way, for a start that failed, and for whoever waited is in `tokens_conserved`.

Those who wait take the whole list. So somebody who comes while another one waits finds it empty and
does not wait for what the other one waits for (`second_wait_sees_no_end`); alone, or when the other
one is done, nobody leaves too early.
-/
import Mathlib.Data.List.Nodup
import Mathlib.Logic.Function.Iterate
import KeyWatch.Backup.Queue

namespace KeyWatch.Backup

set_option autoImplicit false

/-! ## What the operations of a pool leave alone -/

namespace Pool

variable {δ : Type}

theorem giveBack_of_room {pool : Pool δ} (room : pool.tokens < pool.limit) :
    pool.giveBack = { pool with tokens := pool.tokens + 1 } := if_pos room

theorem abandon_of_room {pool : Pool δ} (room : pool.tokens < pool.limit) :
    pool.abandon = { pool with tokens := pool.tokens + 1, starting := pool.starting - 1 } :=
  giveBack_of_room room

theorem finish_of_room {pool : Pool δ} (room : pool.tokens < pool.limit) {index : Nat}
    (inside : index < pool.running.length) :
    pool.finish index
      = { pool with tokens := pool.tokens + 1, running := pool.running.eraseIdx index } := by
  rw [finish, if_pos inside]
  exact giveBack_of_room room

theorem of_grant {pool granted : Pool δ} (grant : pool.grant? = some granted) :
    0 < pool.tokens
      ∧ granted = { pool with tokens := pool.tokens - 1, starting := pool.starting + 1 } := by
  unfold grant? at grant
  split at grant
  · cases grant
  · next some =>
    cases grant
    exact ⟨Nat.pos_of_ne_zero some, rfl⟩

/-- A pool is filled by giving it one token after another, and every one of them finds room. -/
theorem ofLimit_eq_filled (limit : Nat) :
    (ofLimit limit : Pool δ) = giveBack^[max 1 limit] { limit := max 1 limit, tokens := 0 } := by
  have filled (count : Nat) (fits : count ≤ max 1 limit) :
      (giveBack^[count] { limit := max 1 limit, tokens := 0 } : Pool δ)
        = { limit := max 1 limit, tokens := count } := by
    induction count with
    | zero => rfl
    | succ count ih =>
      rw [Function.iterate_succ_apply', ih (by omega), giveBack_of_room (by simp only; omega)]
  exact (filled _ (Nat.le_refl _)).symm

end Pool

/-! ## Phases -/

/-- How far a backup is that was let in. -/
inductive Phase
  /-- It has a token and no snapshot yet. -/
  | admitted
  /-- It has a snapshot and no thread yet. -/
  | captured (snapshot : Snapshot)
  /-- Its thread writes. -/
  | writing
  /-- Its thread has written, well or not, and has given the token back. -/
  | closing (wrote : Except IoFault Unit)
  /-- Its start failed, or its thread has ended. -/
  | gone
  deriving Repr

namespace Phase

/-- Let in, and not being written yet. -/
def isStarting : Phase → Bool
  | .admitted | .captured _ => true
  | _ => false

def hasStarted (phase : Phase) : Bool := !phase.isStarting

def isWriting : Phase → Bool
  | .writing => true
  | _ => false

/-- Let in, and not ended yet. -/
def holdsToken (phase : Phase) : Bool := phase.isStarting || phase.isWriting

/-- There is a thread, and it has not ended. -/
def isAlive : Phase → Bool
  | .writing | .closing _ => true
  | _ => false

def isGone : Phase → Bool
  | .gone => true
  | _ => false

theorem eq_gone {phase : Phase} (gone : phase.isGone = true) : phase = .gone := by
  cases phase <;> first | rfl | cases gone

theorem isAlive_of_holdsToken {phase : Phase} (holds : phase.holdsToken = true)
    (started : phase.hasStarted = true) : phase.isAlive = true := by
  cases phase <;> simp [holdsToken, hasStarted, isStarting, isWriting, isAlive] at *

theorem countP_holdsToken (phases : List Phase) :
    phases.countP holdsToken = phases.countP isStarting + phases.countP isWriting := by
  induction phases with
  | nil => rfl
  | cons phase rest ih =>
    simp only [List.countP_cons, ih]
    cases phase <;> simp [holdsToken, isStarting, isWriting] <;> omega

/-- A backup that goes on takes its old phase out of a count and brings its new one in. -/
theorem countP_set {phases : List Phase} {backup : Nat} {old : Phase}
    (found : phases[backup]? = some old) (counts : Phase → Bool) (new : Phase) :
    (phases.set backup new).countP counts + (counts old).toNat
      = phases.countP counts + (counts new).toNat := by
  obtain ⟨inside, rfl⟩ := List.getElem?_eq_some_iff.1 found
  have counted : (counts phases[backup]).toNat ≤ phases.countP counts := by
    cases counting : counts phases[backup] with
    | false => exact Nat.zero_le _
    | true => exact List.countP_pos_iff.2 ⟨_, List.getElem_mem inside, counting⟩
  rw [List.countP_set inside]
  cases counting : counts phases[backup] <;> cases counts new <;>
    simp only [counting, Bool.toNat_true, Bool.toNat_false, if_true, Bool.false_eq_true, if_false]
      at counted ⊢ <;> omega

end Phase

/-! ## The office -/

/-- Somebody who waits until threads have ended. -/
structure Wait where
  joins : List Nat
  done : Bool := false
  deriving Repr, DecidableEq

/-- A pool, and how far each backup is. Backups are numbered in the order in which they were let
in. -/
structure Office (δ : Type) where
  pool : Pool δ
  phases : List Phase := []
  /-- Who is being written, in the order of the pool. -/
  working : List Nat := []
  /-- Who has a thread whose handle is not on the list yet. -/
  unlisted : List Nat := []
  /-- Whose handle is on the list. -/
  handles : List Nat := []
  waits : List Wait := []

/-- What can happen next. -/
inductive Step (δ : Type)
  | letIn
  | capture (backup : Nat) (table : Table)
  | openFails (backup : Nat)
  | spawnFails (backup : Nat)
  | spawn (backup : Nat) (destination : δ)
  | enlist (backup : Nat)
  /-- The thread of a backup writes its snapshot to a sink, and gives the token back whether the
  sink took it or not. -/
  | write (backup : Nat) (sink : Sink)
  | exit (backup : Nat)
  /-- Somebody takes the handles off the list to wait for them. -/
  | wait
  /-- All threads have ended that somebody waits for. -/
  | waited (place : Nat)

namespace Step

variable {δ : Type}

def admits : Step δ → Bool
  | .letIn => true
  | _ => false

/-- A backup ends with this step, so its token goes back. -/
def givesBack : Step δ → Bool
  | .openFails _ | .spawnFails _ | .write .. => true
  | _ => false

end Step

namespace Office

variable {δ : Type} {office after : Office δ}

/-- Nobody was let in yet. -/
def ofLimit (limit : Nat) : Office δ := { pool := .ofLimit limit }

/-- How many were let in and have not ended. -/
def heldCount (office : Office δ) : Nat := office.phases.countP Phase.holdsToken

/-- A backup is in a phase of a kind. -/
def Is (office : Office δ) (kind : Phase → Bool) (backup : Nat) : Prop :=
  ∃ phase, office.phases[backup]? = some phase ∧ kind phase = true

/-- The start of a backup has not returned yet. -/
def InStart (office : Office δ) (backup : Nat) : Prop :=
  office.Is Phase.isStarting backup ∨ backup ∈ office.unlisted

/-- Somebody at a place waits for a backup and has not seen its end. -/
def Awaits (office : Office δ) (place backup : Nat) : Prop :=
  ∃ joins, office.waits[place]? = some { joins } ∧ backup ∈ joins

/-- Somebody before a place waits for a backup and has not seen its end. -/
def AwaitedBefore (office : Office δ) (place backup : Nat) : Prop :=
  ∃ earlier < place, office.Awaits earlier backup

/-- Whoever waited at a place waits no more. -/
def HasWaited (office : Office δ) (place : Nat) : Prop :=
  ∃ joins, office.waits[place]? = some { joins, done := true }

/-! ## Steps -/

def letIn (office : Office δ) (pool : Pool δ) : Office δ :=
  { office with pool, phases := office.phases ++ [.admitted] }

def reach (office : Office δ) (backup : Nat) (phase : Phase) : Office δ :=
  { office with phases := office.phases.set backup phase }

def giveUp (office : Office δ) (backup : Nat) : Office δ :=
  { office.reach backup .gone with pool := office.pool.abandon }

def launch (office : Office δ) (backup : Nat) (worker : Worker δ) : Office δ :=
  { office.reach backup .writing with
    pool := office.pool.launch worker
    working := office.working ++ [backup]
    unlisted := office.unlisted ++ [backup] }

/-- Handles of threads that have ended leave the list when another one comes. -/
def enlist (office : Office δ) (backup : Nat) : Office δ :=
  { office with
    unlisted := office.unlisted.erase backup
    handles := office.handles.filter (fun other => (office.phases[other]?.any Phase.isAlive))
      ++ [backup] }

def finish (office : Office δ) (backup : Nat) (wrote : Except IoFault Unit) : Office δ :=
  { office.reach backup (.closing wrote) with
    pool := office.pool.finish (office.working.idxOf backup)
    working := office.working.erase backup }

def wait (office : Office δ) : Office δ :=
  { office with handles := [], waits := office.waits ++ [{ joins := office.handles }] }

def release (office : Office δ) (place : Nat) (joins : List Nat) : Office δ :=
  { office with waits := office.waits.set place { joins, done := true } }

/-- Take a step, if it can be taken now. -/
def step? (office : Office δ) : Step δ → Option (Office δ)
  | .letIn => office.pool.grant?.map office.letIn
  | .capture backup table =>
    match office.phases[backup]? with
    | some .admitted => some (office.reach backup (.captured (.ofTable table)))
    | _ => none
  | .openFails backup | .spawnFails backup =>
    match office.phases[backup]? with
    | some (.captured _) => some (office.giveUp backup)
    | _ => none
  | .spawn backup destination =>
    match office.phases[backup]? with
    | some (.captured snapshot) => some (office.launch backup ⟨snapshot, destination⟩)
    | _ => none
  | .enlist backup => if backup ∈ office.unlisted then some (office.enlist backup) else none
  | .write backup sink =>
    match office.phases[backup]?, office.pool.running[office.working.idxOf backup]? with
    | some .writing, some worker => some (office.finish backup (worker.snapshot.printTo sink).1)
    | _, _ => none
  | .exit backup =>
    match office.phases[backup]? with
    | some (.closing _) => some (office.reach backup .gone)
    | _ => none
  | .wait => some office.wait
  | .waited place =>
    match office.waits[place]? with
    | some { joins, done := false } =>
      if joins.all fun backup => office.phases[backup]?.any Phase.isGone then
        some (office.release place joins)
      else none
    | _ => none

/-- Take steps one after another. -/
def run (office : Office δ) (steps : List (Step δ)) : Option (Office δ) :=
  steps.foldlM step? office

theorem admit_of_free (free : 0 < office.pool.tokens) :
    ∃ next, office.step? .letIn = some next :=
  ⟨_, by rw [step?, Pool.grant?, if_neg (Nat.ne_of_gt free), Option.map_some]⟩

/-- All that a step can do, and when. -/
inductive Moves (office : Office δ) : Step δ → Office δ → Prop
  | letIn {pool : Pool δ} (grant : office.pool.grant? = some pool) :
    Moves office .letIn (office.letIn pool)
  | capture {backup : Nat} {table : Table} (found : office.phases[backup]? = some .admitted) :
    Moves office (.capture backup table) (office.reach backup (.captured (.ofTable table)))
  | openFails {backup : Nat} {snapshot : Snapshot}
    (found : office.phases[backup]? = some (.captured snapshot)) :
    Moves office (.openFails backup) (office.giveUp backup)
  | spawnFails {backup : Nat} {snapshot : Snapshot}
    (found : office.phases[backup]? = some (.captured snapshot)) :
    Moves office (.spawnFails backup) (office.giveUp backup)
  | spawn {backup : Nat} {destination : δ} {snapshot : Snapshot}
    (found : office.phases[backup]? = some (.captured snapshot)) :
    Moves office (.spawn backup destination) (office.launch backup ⟨snapshot, destination⟩)
  | enlist {backup : Nat} (spawned : backup ∈ office.unlisted) :
    Moves office (.enlist backup) (office.enlist backup)
  | write {backup : Nat} {sink : Sink} {wrote : Except IoFault Unit}
    (found : office.phases[backup]? = some .writing) :
    Moves office (.write backup sink) (office.finish backup wrote)
  | exit {backup : Nat} {wrote : Except IoFault Unit}
    (found : office.phases[backup]? = some (.closing wrote)) :
    Moves office (.exit backup) (office.reach backup .gone)
  | wait : Moves office .wait office.wait
  | waited {place : Nat} {joins : List Nat} (waits : office.waits[place]? = some { joins })
    (ended : ∀ backup ∈ joins, office.phases[backup]? = some .gone) :
    Moves office (.waited place) (office.release place joins)

theorem moves_of_step? {step : Step δ} (taken : office.step? step = some after) :
    office.Moves step after := by
  cases step <;> simp only [step?] at taken
  case letIn =>
    obtain ⟨pool, grant, rfl⟩ := Option.map_eq_some_iff.1 taken
    exact .letIn grant
  case wait =>
    cases taken
    exact .wait
  case enlist backup =>
    split at taken
    · next spawned =>
      cases taken
      exact .enlist spawned
    · cases taken
  case write backup sink =>
    split at taken
    · next found _ =>
      cases taken
      exact .write found
    · cases taken
  case waited place =>
    split at taken
    · next joins waits =>
      split at taken
      · next ended =>
        cases taken
        refine .waited waits fun backup joined => ?_
        have settled := List.all_eq_true.1 ended backup joined
        obtain ⟨phase, found, isGone⟩ := (Option.any_eq_true _ _).1 settled
        rw [found, Phase.eq_gone isGone]
      · cases taken
    · cases taken
  all_goals
    split at taken
    · next found =>
      cases taken
      constructor
      exact found
    · cases taken

theorem run_cons (step : Step δ) (rest : List (Step δ)) :
    office.run (step :: rest) = (office.step? step).bind fun next => next.run rest := by
  simp [run]

/-- What one step keeps, a run keeps. -/
theorem keeps_of_run {kept : Office δ → Prop}
    (keeps : ∀ {office after : Office δ} {step : Step δ},
      office.Moves step after → kept office → kept after)
    {steps : List (Step δ)} (ran : office.run steps = some after) (start : kept office) :
    kept after := by
  induction steps generalizing office with
  | nil =>
    cases ran
    exact start
  | cons step rest ih =>
    rw [run_cons] at ran
    obtain ⟨next, taken, ran⟩ := Option.bind_eq_some_iff.1 ran
    exact ih ran (keeps (moves_of_step? taken) start)

/-! ## Phases of an office -/

variable {kind : Phase → Bool} {backup other : Nat}

theorem phase_reach_of_ne (apart : other ≠ backup) (phase : Phase) :
    (office.reach backup phase).phases[other]? = office.phases[other]? :=
  List.getElem?_set_ne apart.symm

theorem phase_reach_self {old : Phase} (found : office.phases[backup]? = some old) (phase : Phase) :
    (office.reach backup phase).phases[backup]? = some phase :=
  List.getElem?_set_self (List.getElem?_eq_some_iff.1 found).1

theorem is_reach {phase : Phase} (is : (office.reach backup phase).Is kind other) :
    (other = backup ∧ kind phase = true) ∨ (other ≠ backup ∧ office.Is kind other) := by
  obtain ⟨now, found, ofKind⟩ := is
  by_cases same : other = backup
  · subst same
    have inside : other < office.phases.length := by
      simpa [reach] using (List.getElem?_eq_some_iff.1 found).1
    rw [reach, List.getElem?_set_self inside] at found
    cases found
    exact .inl ⟨rfl, ofKind⟩
  · rw [phase_reach_of_ne same] at found
    exact .inr ⟨same, now, found, ofKind⟩

theorem is_reach_of_ne {phase : Phase} (apart : other ≠ backup) (is : office.Is kind other) :
    (office.reach backup phase).Is kind other := by
  obtain ⟨now, found, ofKind⟩ := is
  exact ⟨now, (phase_reach_of_ne apart phase).trans found, ofKind⟩

theorem is_reach_self {old phase : Phase} (found : office.phases[backup]? = some old)
    (ofKind : kind phase = true) : (office.reach backup phase).Is kind backup :=
  ⟨phase, phase_reach_self found phase, ofKind⟩

theorem is_letIn_of_is {pool : Pool δ} (is : office.Is kind backup) :
    (office.letIn pool).Is kind backup := by
  obtain ⟨phase, found, ofKind⟩ := is
  refine ⟨phase, ?_, ofKind⟩
  rw [letIn, List.getElem?_append_left (List.getElem?_eq_some_iff.1 found).1, found]

theorem is_letIn {pool : Pool δ} (is : (office.letIn pool).Is kind backup) :
    office.Is kind backup ∨ kind .admitted = true := by
  obtain ⟨phase, found, ofKind⟩ := is
  rw [letIn, List.getElem?_append] at found
  split at found
  · exact .inl ⟨phase, found, ofKind⟩
  · rw [List.getElem?_singleton] at found
    split at found
    · cases found
      exact .inr ofKind
    · cases found

theorem writing_letIn {pool : Pool δ} :
    (office.letIn pool).phases[backup]? = some .writing
      ↔ office.phases[backup]? = some .writing := by
  rw [letIn, List.getElem?_append]
  split
  · rfl
  · next outside =>
    rw [List.getElem?_singleton, List.getElem?_eq_none (Nat.le_of_not_lt outside)]
    split <;> simp

/-- Nobody starts or stops to write when a backup takes a step that has nothing to do with it. -/
theorem writing_reach {old new : Phase} (found : office.phases[backup]? = some old)
    (idle : old.isWriting = false) (idles : new.isWriting = false) :
    (office.reach backup new).phases[other]? = some .writing
      ↔ office.phases[other]? = some .writing := by
  by_cases same : other = backup
  · subst same
    rw [phase_reach_self found, found]
    constructor <;> intro writes <;> cases writes
    · cases idles
    · cases idle
  · rw [phase_reach_of_ne same]

/-! ## Tokens -/

/-- The pool and the phases agree: who is starting, who writes, and that every token is in the pool
or held by one of them. -/
structure Sound (limit : Nat) (office : Office δ) : Prop where
  limited : office.pool.limit = max 1 limit
  balanced : office.pool.Balanced
  starting : office.pool.starting = office.phases.countP Phase.isStarting
  written : office.working.length = office.phases.countP Phase.isWriting
  paired : office.pool.running.length = office.working.length
  distinct : office.working.Nodup
  writing : ∀ backup, backup ∈ office.working ↔ office.phases[backup]? = some .writing

variable {limit : Nat}

theorem sound_ofLimit (limit : Nat) : (ofLimit limit : Office δ).Sound limit :=
  ⟨rfl, Pool.balanced_ofLimit limit, rfl, rfl, rfl, .nil, by simp [ofLimit]⟩

namespace Sound

theorem heldCount_eq (sound : office.Sound limit) :
    office.heldCount = office.pool.starting + office.pool.running.length := by
  rw [heldCount, Phase.countP_holdsToken, sound.starting, sound.paired, sound.written]

theorem starting_pos (sound : office.Sound limit) {phase : Phase}
    (found : office.phases[backup]? = some phase) (starts : phase.isStarting = true) :
    0 < office.pool.starting := by
  rw [sound.starting]
  exact List.countP_pos_iff.2 ⟨phase, List.mem_of_getElem? found, starts⟩

theorem idxOf_lt (sound : office.Sound limit) (found : office.phases[backup]? = some .writing) :
    office.working.idxOf backup < office.pool.running.length := by
  rw [sound.paired]
  exact List.idxOf_lt_length_of_mem ((sound.writing backup).2 found)

/-- Whoever holds a token leaves room for it in the pool. -/
theorem room (sound : office.Sound limit) {phase : Phase}
    (found : office.phases[backup]? = some phase) (holds : phase.holdsToken = true) :
    office.pool.tokens < office.pool.limit := by
  have counted : 0 < office.heldCount :=
    List.countP_pos_iff.2 ⟨phase, List.mem_of_getElem? found, holds⟩
  have held := sound.heldCount_eq
  have balanced : _ = _ := sound.balanced
  omega

theorem letIn (sound : office.Sound limit) {pool : Pool δ} (grant : office.pool.grant? = some pool) :
    (office.letIn pool).Sound limit := by
  have balanced := Pool.balanced_grant sound.balanced grant
  obtain ⟨-, rfl⟩ := Pool.of_grant grant
  exact {
    limited := sound.limited
    balanced
    starting := by
      simp only [Office.letIn, List.countP_append, sound.starting]
      rfl
    written := by
      simp only [Office.letIn, List.countP_append, sound.written]
      rfl
    paired := sound.paired
    distinct := sound.distinct
    writing := fun backup => (sound.writing backup).trans writing_letIn.symm }

/-- A backup goes on that has its token before and after. -/
theorem reach (sound : office.Sound limit) {old new : Phase}
    (found : office.phases[backup]? = some old) (starts : new.isStarting = old.isStarting)
    (idle : old.isWriting = false) (idles : new.isWriting = false) :
    (office.reach backup new).Sound limit where
  limited := sound.limited
  balanced := sound.balanced
  starting := by
    have counted := Phase.countP_set found Phase.isStarting new
    rw [starts] at counted
    exact sound.starting.trans (Nat.add_right_cancel counted).symm
  written := by
    have counted := Phase.countP_set found Phase.isWriting new
    rw [idle, idles] at counted
    exact sound.written.trans counted.symm
  paired := sound.paired
  distinct := sound.distinct
  writing _ := (sound.writing _).trans (writing_reach found idle idles).symm

theorem giveUp (sound : office.Sound limit) {snapshot : Snapshot}
    (found : office.phases[backup]? = some (.captured snapshot)) :
    (office.giveUp backup).Sound limit where
  limited := by
    rw [Office.giveUp, Pool.abandon_of_room (sound.room found rfl)]
    exact sound.limited
  balanced := Pool.balanced_abandon sound.balanced (sound.starting_pos found rfl)
  starting := by
    have counted : _ + 1 = _ + 0 := Phase.countP_set found Phase.isStarting .gone
    have starting := sound.starting
    rw [Office.giveUp, Pool.abandon_of_room (sound.room found rfl)]
    show office.pool.starting - 1 = (office.phases.set backup .gone).countP _
    omega
  written := sound.written.trans (Phase.countP_set found Phase.isWriting .gone).symm
  paired := by
    rw [Office.giveUp, Pool.abandon_of_room (sound.room found rfl)]
    exact sound.paired
  distinct := sound.distinct
  writing _ := (sound.writing _).trans (writing_reach found rfl rfl).symm

theorem launch (sound : office.Sound limit) {worker : Worker δ} {snapshot : Snapshot}
    (found : office.phases[backup]? = some (.captured snapshot)) :
    (office.launch backup worker).Sound limit where
  limited := sound.limited
  balanced := Pool.balanced_launch sound.balanced (sound.starting_pos found rfl) worker
  starting := by
    have counted : _ + 1 = _ + 0 := Phase.countP_set found Phase.isStarting .writing
    have starting := sound.starting
    show office.pool.starting - 1 = (office.phases.set backup .writing).countP _
    omega
  written := by
    have counted : _ + 0 = _ + 1 := Phase.countP_set found Phase.isWriting .writing
    rw [← sound.written] at counted
    exact List.length_append.trans counted.symm
  paired := by
    simp only [Office.launch, Pool.launch, List.length_append, sound.paired, List.length_singleton]
  distinct := by
    refine List.nodup_append.2 ⟨sound.distinct, List.nodup_singleton _, ?_⟩
    rintro other writes _ listed rfl
    rw [List.mem_singleton.1 listed, sound.writing, found] at writes
    cases writes
  writing other := by
    rw [Office.launch, List.mem_append, List.mem_singleton, sound.writing]
    by_cases same : other = backup
    · subst same
      exact iff_of_true (.inr rfl) (phase_reach_self found _)
    · rw [phase_reach_of_ne same]
      simp [same]

theorem finish_pool (sound : office.Sound limit) (found : office.phases[backup]? = some .writing) :
    office.pool.finish (office.working.idxOf backup) = { office.pool with
      tokens := office.pool.tokens + 1
      running := office.pool.running.eraseIdx (office.working.idxOf backup) } :=
  Pool.finish_of_room (sound.room found rfl) (sound.idxOf_lt found)

theorem finish (sound : office.Sound limit) (found : office.phases[backup]? = some .writing)
    (wrote : Except IoFault Unit) : (office.finish backup wrote).Sound limit where
  limited := by
    rw [Office.finish, sound.finish_pool found]
    exact sound.limited
  balanced := Pool.balanced_finish sound.balanced _
  starting := by
    rw [Office.finish, sound.finish_pool found]
    exact sound.starting.trans (Phase.countP_set found Phase.isStarting (.closing wrote)).symm
  written := by
    have counted : _ + 1 = _ + 0 := Phase.countP_set found Phase.isWriting (.closing wrote)
    have fewer := List.length_erase_of_mem ((sound.writing backup).2 found)
    rw [sound.written] at fewer
    show (office.working.erase backup).length = (office.phases.set backup (.closing wrote)).countP _
    omega
  paired := by
    have fewer := List.length_erase_of_mem ((sound.writing backup).2 found)
    rw [Office.finish, sound.finish_pool found, List.length_eraseIdx_of_lt (sound.idxOf_lt found),
      sound.paired, fewer]
  distinct := sound.distinct.erase _
  writing other := by
    rw [Office.finish, sound.distinct.mem_erase_iff, sound.writing]
    by_cases same : other = backup
    · subst same
      simp [phase_reach_self found]
    · rw [phase_reach_of_ne same]
      simp [same]

theorem moves (sound : office.Sound limit) {step : Step δ} (moved : office.Moves step after) :
    after.Sound limit := by
  cases moved with
  | letIn grant => exact sound.letIn grant
  | capture found => exact sound.reach found rfl rfl rfl
  | openFails found | spawnFails found => exact sound.giveUp found
  | spawn found => exact sound.launch found
  | write found => exact sound.finish found _
  | exit found => exact sound.reach found rfl rfl rfl
  | enlist | wait | waited =>
    -- Handles and those who wait for them have no part in this.
    exact ⟨sound.limited, sound.balanced, sound.starting, sound.written, sound.paired,
      sound.distinct, sound.writing⟩

end Sound

/-- A step takes a token out of the pool if it lets somebody in, and puts one back, for which there
is room, if it ends a backup. -/
theorem Sound.tokens (sound : office.Sound limit) {step : Step δ} (moved : office.Moves step after) :
    after.pool.tokens + step.admits.toNat = office.pool.tokens + step.givesBack.toNat
      ∧ (step.givesBack = true → office.pool.tokens < max 1 limit) := by
  rw [← sound.limited]
  cases moved with
  | letIn grant =>
    obtain ⟨some, rfl⟩ := Pool.of_grant grant
    exact ⟨Nat.sub_add_cancel some, nofun⟩
  | openFails found | spawnFails found =>
    have room := sound.room found rfl
    rw [Office.giveUp, Pool.abandon_of_room room]
    exact ⟨rfl, fun _ => room⟩
  | write found =>
    rw [Office.finish, sound.finish_pool found]
    exact ⟨rfl, fun _ => sound.room found rfl⟩
  | capture | spawn | enlist | exit | wait | waited => exact ⟨rfl, nofun⟩

theorem sound_of_run {steps : List (Step δ)} (ran : office.run steps = some after)
    (sound : office.Sound limit) : after.Sound limit :=
  keeps_of_run (fun moved kept => Sound.moves kept moved) ran sound

/-- Over a run, the tokens change by the backups that ended and by those that were let in. -/
theorem tokens_of_run {steps : List (Step δ)} (ran : office.run steps = some after)
    (sound : office.Sound limit) :
    after.pool.tokens + steps.countP Step.admits
      = office.pool.tokens + steps.countP Step.givesBack := by
  induction steps generalizing office with
  | nil =>
    cases ran
    rfl
  | cons step rest ih =>
    rw [run_cons] at ran
    obtain ⟨next, taken, ran⟩ := Option.bind_eq_some_iff.1 ran
    have moved := moves_of_step? taken
    have once := (sound.tokens moved).1
    have later := ih ran (sound.moves moved)
    simp only [List.countP_cons]
    cases admits : step.admits <;> cases back : step.givesBack <;>
      simp only [admits, back, Bool.toNat_true, Bool.toNat_false, if_true, Bool.false_eq_true,
        if_false] at once ⊢ <;> omega

/-! ## Threads and those who wait for them -/

/-- A thread that is alive is known: its start is still at it, its handle is on the list, or
somebody waits for it. -/
def Known (office : Office δ) : Prop :=
  ∀ backup, office.Is Phase.isAlive backup →
    backup ∈ office.unlisted ∨ backup ∈ office.handles ∨ ∃ place, office.Awaits place backup

theorem awaits_wait {place : Nat} (awaits : office.Awaits place backup) :
    office.wait.Awaits place backup := by
  obtain ⟨joins, waits, joined⟩ := awaits
  refine ⟨joins, ?_, joined⟩
  rw [wait, List.getElem?_append_left (List.getElem?_eq_some_iff.1 waits).1, waits]

theorem awaits_wait_of_mem (listed : backup ∈ office.handles) :
    office.wait.Awaits office.waits.length backup :=
  ⟨office.handles, by simp [wait], listed⟩

/-- Only those who have seen the end of all their threads stop waiting. -/
theorem awaits_release {place other : Nat} {joins : List Nat}
    (waits : office.waits[place]? = some { joins })
    (ended : ∀ backup ∈ joins, office.phases[backup]? = some .gone)
    (alive : office.Is Phase.isAlive backup) (awaits : office.Awaits other backup) :
    (office.release place joins).Awaits other backup := by
  obtain ⟨expected, waiting, joined⟩ := awaits
  have apart : other ≠ place := by
    rintro rfl
    cases waits.symm.trans waiting
    obtain ⟨phase, found, lives⟩ := alive
    cases (ended backup joined).symm.trans found
    cases lives
  exact ⟨expected, (List.getElem?_set_ne apart.symm).trans waiting, joined⟩

/-- The handle of a thread that is alive stays on the list when another one comes. -/
theorem mem_handles_enlist (listed : other ∈ office.handles)
    (alive : office.Is Phase.isAlive other) : other ∈ (office.enlist backup).handles := by
  obtain ⟨phase, found, lives⟩ := alive
  refine List.mem_append_left _ (List.mem_filter.2 ⟨listed, ?_⟩)
  rw [found]
  exact lives

theorem Known.moves (known : office.Known) {step : Step δ} (moved : office.Moves step after) :
    after.Known := by
  intro backup alive
  cases moved with
  | letIn grant =>
    obtain alive | fresh := is_letIn alive
    · exact known backup alive
    · cases fresh
  | capture | openFails | spawnFails | exit =>
    obtain ⟨-, lives⟩ | ⟨-, alive⟩ := is_reach alive
    · cases lives
    · exact known backup alive
  | spawn =>
    obtain ⟨rfl, -⟩ | ⟨-, alive⟩ := is_reach alive
    · exact .inl (List.mem_append_right _ (List.mem_singleton_self _))
    · exact (known backup alive).imp_left (List.mem_append_left _)
  | @enlist other spawned =>
    by_cases same : backup = other
    · exact .inr (.inl (List.mem_append_right _ (List.mem_singleton.2 same)))
    · obtain waiting | listed | awaited := known backup alive
      · exact .inl ((List.mem_erase_of_ne same).2 waiting)
      · exact .inr (.inl (mem_handles_enlist listed alive))
      · exact .inr (.inr awaited)
  | write found =>
    obtain ⟨rfl, -⟩ | ⟨-, alive⟩ := is_reach alive
    · exact known _ ⟨_, found, rfl⟩
    · exact known backup alive
  | wait =>
    obtain waiting | listed | ⟨place, awaits⟩ := known backup alive
    · exact .inl waiting
    · exact .inr (.inr ⟨_, awaits_wait_of_mem listed⟩)
    · exact .inr (.inr ⟨place, awaits_wait awaits⟩)
  | waited waits ended =>
    obtain waiting | listed | ⟨place, awaits⟩ := known backup alive
    · exact .inl waiting
    · exact .inr (.inl listed)
    · exact .inr (.inr ⟨place, awaits_release waits ended alive awaits⟩)

/-- The start of a backup is behind it, and if its thread is alive, then somebody up to a place
waits for it. -/
structure Covered (office : Office δ) (last backup : Nat) : Prop where
  started : office.Is Phase.hasStarted backup
  awaited : office.Is Phase.isAlive backup → ∃ place ≤ last, office.Awaits place backup

theorem Covered.ne_of_starting {last : Nat} (covered : office.Covered last backup) {phase : Phase}
    (found : office.phases[other]? = some phase) (starts : phase.isStarting = true) :
    backup ≠ other := by
  rintro rfl
  obtain ⟨now, same, started⟩ := covered.started
  cases same.symm.trans found
  rw [Phase.hasStarted, starts] at started
  cases started

/-- Whoever is covered stays so when another backup goes on. -/
theorem Covered.reach {last : Nat} (covered : office.Covered last backup) (apart : backup ≠ other)
    (phase : Phase) : (office.reach other phase).Covered last backup where
  started := is_reach_of_ne apart covered.started
  awaited alive := by
    obtain ⟨same, -⟩ | ⟨-, alive⟩ := is_reach alive
    · exact absurd same apart
    · exact covered.awaited alive

theorem Covered.moves {last : Nat} (covered : office.Covered last backup) {step : Step δ}
    (moved : office.Moves step after) : after.Covered last backup := by
  cases moved with
  | letIn =>
    refine ⟨is_letIn_of_is covered.started, fun alive => ?_⟩
    obtain alive | fresh := is_letIn alive
    · exact covered.awaited alive
    · cases fresh
  | capture found => exact covered.reach (covered.ne_of_starting found rfl) _
  | openFails found | spawnFails found =>
    have reached := covered.reach (covered.ne_of_starting found rfl) .gone
    exact ⟨reached.started, reached.awaited⟩
  | spawn found =>
    have reached := covered.reach (covered.ne_of_starting found rfl) .writing
    exact ⟨reached.started, reached.awaited⟩
  | enlist => exact ⟨covered.started, covered.awaited⟩
  | @write other _ wrote found =>
    by_cases same : backup = other
    · subst same
      exact ⟨is_reach_self found rfl, fun _ => covered.awaited ⟨_, found, rfl⟩⟩
    · have reached := covered.reach same (.closing wrote)
      exact ⟨reached.started, reached.awaited⟩
  | @exit other wrote found =>
    by_cases same : backup = other
    · subst same
      refine ⟨is_reach_self found rfl, fun alive => ?_⟩
      obtain ⟨-, lives⟩ | ⟨apart, -⟩ := is_reach alive
      · cases lives
      · exact absurd rfl apart
    · exact covered.reach same _
  | wait =>
    refine ⟨covered.started, fun alive => ?_⟩
    obtain ⟨place, early, awaits⟩ := covered.awaited alive
    exact ⟨place, early, awaits_wait awaits⟩
  | waited waits ended =>
    refine ⟨covered.started, fun alive => ?_⟩
    obtain ⟨place, early, awaits⟩ := covered.awaited alive
    exact ⟨place, early, awaits_release waits ended alive awaits⟩

/-- Whoever takes the handles covers, together with those who took handles before, every backup
whose start has returned. -/
theorem Known.covered (known : office.Known) (letIn : backup < office.phases.length)
    (returned : ¬ office.InStart backup) : office.wait.Covered office.waits.length backup where
  started := by
    have found := List.getElem?_eq_getElem letIn
    refine ⟨_, found, ?_⟩
    cases starts : office.phases[backup].isStarting with
    | true => exact absurd (.inl ⟨_, found, starts⟩) returned
    | false => rw [Phase.hasStarted, starts, Bool.not_false]
  awaited alive := by
    obtain waiting | listed | ⟨place, awaits⟩ := known backup alive
    · exact absurd (.inr waiting) returned
    · exact ⟨_, Nat.le_refl _, awaits_wait_of_mem listed⟩
    · obtain ⟨joins, waits, -⟩ := id awaits
      exact ⟨place, Nat.le_of_lt (List.getElem?_eq_some_iff.1 waits).1, awaits_wait awaits⟩

/-- Once whoever took the handles waits no more, a backup that still holds a token was let in
later, was being started then, or is awaited by somebody who took handles before. -/
theorem holder_of_waited {later : List (Step δ)} (known : office.Known)
    (ran : office.run (.wait :: later) = some after) (waited : after.HasWaited office.waits.length)
    (holds : after.Is Phase.holdsToken backup) :
    office.phases.length ≤ backup ∨ office.InStart backup
      ∨ after.AwaitedBefore office.waits.length backup := by
  by_cases letIn : office.phases.length ≤ backup
  · exact .inl letIn
  by_cases starts : office.InStart backup
  · exact .inr (.inl starts)
  have covered : after.Covered office.waits.length backup := by
    have first := known.covered (Nat.lt_of_not_le letIn) starts
    exact keeps_of_run (fun moved kept => Covered.moves kept moved) (run_cons .. ▸ ran) first
  obtain ⟨phase, found, held⟩ := holds
  obtain ⟨_, same, started⟩ := covered.started
  cases found.symm.trans same
  have alive := Phase.isAlive_of_holdsToken held started
  obtain ⟨place, early, awaits⟩ := covered.awaited ⟨phase, found, alive⟩
  refine .inr (.inr ⟨place, Nat.lt_of_le_of_ne early ?_, awaits⟩)
  rintro rfl
  obtain ⟨_, done⟩ := waited
  obtain ⟨_, waits, -⟩ := awaits
  cases done.symm.trans waits

theorem length_phases_of_moves {step : Step δ} (moved : office.Moves step after) :
    after.phases.length = office.phases.length + step.admits.toNat := by
  cases moved <;>
    simp [letIn, reach, giveUp, launch, enlist, finish, wait, release, Step.admits]

theorem length_phases_of_run {steps : List (Step δ)} (ran : office.run steps = some after) :
    after.phases.length = office.phases.length + steps.countP Step.admits := by
  induction steps generalizing office with
  | nil =>
    cases ran
    rfl
  | cons step rest ih =>
    rw [run_cons] at ran
    obtain ⟨next, taken, ran⟩ := Option.bind_eq_some_iff.1 ran
    have once := length_phases_of_moves (moves_of_step? taken)
    rw [ih ran, once, List.countP_cons]
    cases step.admits <;> simp only [Bool.toNat_true, Bool.toNat_false, if_true, Bool.false_eq_true,
      if_false] <;> omega

/-! ## Starts and ends that nobody interrupts -/

/-- A start whose file is opened, from its admission to the handle on the list. -/
def wholeStart (backup : Nat) (table : Table) (destination : δ) : List (Step δ) :=
  [.letIn, .capture backup table, .spawn backup destination, .enlist backup]

theorem run_admit_capture {pool : Pool δ} (grant : office.pool.grant? = some pool) (table : Table)
    (rest : List (Step δ)) :
    office.run (.letIn :: .capture office.phases.length table :: rest)
      = Office.run { office with
          pool, phases := office.phases ++ [.captured (.ofTable table)] } rest := by
  have letIn : office.step? .letIn = some (office.letIn pool) := by simp [step?, grant]
  have captured : (office.letIn pool).step? (.capture office.phases.length table)
      = some { office with pool, phases := office.phases ++ [.captured (.ofTable table)] } := by
    simp [step?, Office.letIn, reach, List.set_append_right]
  rw [run_cons, letIn, Option.bind_some, run_cons, captured, Option.bind_some]

/-- If nobody interrupts it, a start is what `Queue.start` makes of a pool. -/
theorem run_wholeStart {queue : Queue δ} (shared : queue.pool = office.pool) (table : Table)
    (destination : δ) (letIn : (queue.start table destination).1 = true) :
    ∃ after, office.run (wholeStart office.phases.length table destination) = some after
      ∧ after.pool = (queue.start table destination).2.pool := by
  unfold Queue.start at letIn ⊢
  cases grant : queue.pool.grant? with
  | none =>
    rw [grant] at letIn
    cases letIn
  | some pool =>
    rw [shared] at grant
    rw [wholeStart, run_admit_capture grant]
    simp [run, step?, reach, launch, enlist]

/-- If nobody interrupts it, a start whose file cannot be opened leaves the pool as it was. -/
theorem run_failedStart (sound : office.Sound limit) (free : 0 < office.pool.tokens)
    (table : Table) :
    ∃ after, office.run [.letIn, .capture office.phases.length table,
        .openFails office.phases.length] = some after
      ∧ after.pool = office.pool := by
  have grant : office.pool.grant? = some _ := if_neg (Nat.ne_of_gt free)
  have balanced : _ = _ := sound.balanced
  rw [run_admit_capture grant]
  refine ⟨_, by simp [run, step?]; rfl, ?_⟩
  rw [giveUp, Pool.abandon_of_room (by simp only; omega)]
  simp only [Nat.sub_add_cancel free, Nat.add_sub_cancel]

/-! ## The law -/

/-- Nobody is being started if every start has come to its thread, and every thread to the list. -/
theorem not_inStart (started : office.phases.all Phase.hasStarted = true)
    (listed : office.unlisted = []) (backup : Nat) : ¬ office.InStart backup := by
  rintro (⟨phase, found, starts⟩ | unlisted)
  · have begun := List.all_eq_true.1 started phase (List.mem_of_getElem? found)
    rw [Phase.hasStarted, starts] at begun
    cases begun
  · rw [listed] at unlisted
    cases unlisted

/-- No token is held if no backup holds one. -/
theorem busyCount_eq_zero_iff (sound : office.Sound limit) :
    office.pool.busyCount = 0 ↔ ∀ backup, ¬ office.Is Phase.holdsToken backup := by
  rw [Pool.busyCount_of_balanced sound.balanced, ← sound.heldCount_eq, heldCount,
    List.countP_eq_zero]
  constructor
  · rintro nobody backup ⟨phase, found, holds⟩
    exact nobody phase (List.mem_of_getElem? found) holds
  · intro nobody phase listed holds
    obtain ⟨backup, found⟩ := List.getElem?_of_mem listed
    exact nobody backup ⟨phase, found, holds⟩

/-- **Tokens are conserved.** In whatever order the steps of backups and of those who wait for them
come, the tokens in the pool and those that are held add up to the limit, which is one at least. So
the backups that the pool counts as busy are those that were let in and have not ended, never more
than the limit. Whoever gives a token back finds room for it. A start that failed leaves its token
to the next one and everybody else as they were. And when somebody has waited for all backups, then
whoever still holds a token was let in later, was being started when the waiting began, or is
waited for by somebody who began before. So if nobody was being started, and nobody was let in since,
then no token is held exactly if those who began before wait for nobody who holds one. -/
theorem tokens_conserved (limit : Nat) {past : List (Step δ)}
    (reached : (ofLimit limit).run past = some office) :
    office.pool.tokens + office.heldCount = max 1 limit
      ∧ office.pool.busyCount = office.heldCount
      ∧ office.pool.busyCount + past.countP Step.givesBack = past.countP Step.admits
      ∧ office.pool.busyCount ≤ max 1 limit
      ∧ (∀ step after, office.step? step = some after →
          after.pool.tokens + step.admits.toNat = office.pool.tokens + step.givesBack.toNat
            ∧ (step.givesBack = true → office.pool.tokens < max 1 limit))
      ∧ (∀ backup after, office.step? (.openFails backup) = some after →
          after = { office with
              pool := { office.pool with
                tokens := office.pool.tokens + 1, starting := office.pool.starting - 1 }
              phases := office.phases.set backup .gone }
            ∧ ∃ next, after.step? .letIn = some next)
      ∧ ∀ later after, office.run (.wait :: later) = some after →
          after.HasWaited office.waits.length →
          (∀ backup, after.Is Phase.holdsToken backup →
            office.phases.length ≤ backup ∨ office.InStart backup
              ∨ after.AwaitedBefore office.waits.length backup)
          ∧ ((∀ backup, ¬ office.InStart backup) → later.countP Step.admits = 0 →
              (after.pool.busyCount = 0 ↔ ∀ backup,
                after.AwaitedBefore office.waits.length backup →
                  ¬ after.Is Phase.holdsToken backup)) := by
  have sound := sound_of_run reached (sound_ofLimit limit)
  have known : office.Known :=
    keeps_of_run (fun moved kept => Known.moves kept moved) reached fun _ alive => nomatch alive
  have conserved : office.pool.tokens + office.heldCount = max 1 limit := by
    have balanced : _ = _ := sound.balanced
    rw [sound.heldCount_eq, ← sound.limited]
    omega
  have busy : office.pool.busyCount = office.heldCount := by
    rw [Pool.busyCount_of_balanced sound.balanced, sound.heldCount_eq]
  have counted := tokens_of_run reached (sound_ofLimit limit)
  have full : (ofLimit limit : Office δ).pool.tokens = max 1 limit := rfl
  refine ⟨conserved, busy, by omega, by omega, fun step after taken => ?_,
    fun backup after taken => ?_, fun later after ran waited => ⟨fun backup holds => ?_, ?_⟩⟩
  · exact sound.tokens (moves_of_step? taken)
  · cases moves_of_step? taken with
    | openFails found =>
      rw [giveUp, Pool.abandon_of_room (sound.room found rfl)]
      exact ⟨rfl, admit_of_free (Nat.succ_pos _)⟩
  · exact holder_of_waited known ran waited holds
  · intro calm closed
    rw [busyCount_eq_zero_iff (sound_of_run ran sound)]
    refine ⟨fun nobody backup _ => nobody backup, fun settled backup holds => ?_⟩
    obtain new | starts | awaited := holder_of_waited known ran waited holds
    · -- Nobody was let in since, so there is no such number.
      obtain ⟨phase, found, -⟩ := holds
      have same := length_phases_of_run ran
      have inside := (List.getElem?_eq_some_iff.1 found).1
      rw [List.countP_cons, closed] at same
      simp only [Step.admits, Bool.false_eq_true, if_false] at same
      omega
    · exact calm backup starts
    · exact settled backup awaited holds

/-- One token, a start that fails, a start that succeeds, and somebody who waits for its end. -/
theorem tokens_conserved_after_failed_start :
    ∃ office after : Office String,
      (ofLimit 0).run [.letIn, .capture 0 {}, .openFails 0, .letIn, .capture 1 {}, .spawn 1 "b.bck",
        .enlist 1] = some office
      ∧ office.run [.wait, .write 1 {}, .exit 1, .waited 0] = some after
      ∧ office.pool.busyCount = 1 ∧ office.pool.tokens = 0 ∧ after.pool.busyCount = 0 := by
  have reached : (ofLimit 0 : Office String).run [.letIn, .capture 0 {}, .openFails 0, .letIn,
    .capture 1 {}, .spawn 1 "b.bck", .enlist 1] = some _ := rfl
  obtain ⟨conserved, busy, counted, -, -, -, waiting⟩ := tokens_conserved 0 reached
  have one := Nat.add_right_cancel (m := 1) counted
  have settled := (waiting [.write 1 {}, .exit 1, .waited 0] _ rfl ⟨_, rfl⟩).2
    (not_inStart rfl rfl) rfl
  refine ⟨_, _, reached, rfl, one, ?_, settled.2 ?_⟩
  · rw [← busy, one] at conserved
    exact Nat.add_right_cancel conserved
  · rintro backup ⟨earlier, before, -⟩
    cases before

/-- **Waiting for all backups does not always see their end.** Whoever comes second finds no handle
on the list and is done at once, although nobody is being started, and the backup that the first one
waits for is still being written. -/
theorem second_wait_sees_no_end :
    ∃ office after : Office String,
      (ofLimit 1).run [.letIn, .capture 0 {}, .spawn 0 "a.bck", .enlist 0, .wait] = some office
      ∧ (∀ backup, ¬ office.InStart backup)
      ∧ office.run [.wait, .waited 1] = some after
      ∧ after.HasWaited 1 ∧ (∀ backup, ¬ after.InStart backup)
      ∧ after.pool.busyCount = 1 :=
  ⟨_, _, rfl, not_inStart rfl rfl, rfl, ⟨_, rfl⟩, not_inStart rfl rfl, rfl⟩

end Office

end KeyWatch.Backup
