/-
# Proofs.Archive -- what a backup keeps of its moment

A backup takes its snapshot when it is let in. From then on the snapshot is its own: nothing that is
asked of the store reaches it, and what is written in the end is the text that the store showed when
the backup was let in. In a queue whoever is let in goes on as it is until it is written, whatever
starts and ends meanwhile (`Backup.Queue.mem_written`).

Files can be written by more than one backup. `Service.Saves` says of one place while a run goes on:
whoever still writes there writes these bytes, and if nobody does, the file has them. Every step
keeps this up that does not begin another backup at the same place (`Saves.advance`), and once all
backups are written the file has the bytes (`Saves.file`).
-/
import KeyWatch.Backup.Queue
import KeyWatch.Proofs.Listing

namespace KeyWatch

set_option autoImplicit false

/-! ## Places of files -/

namespace Files

variable {files : Files} {place : List String}

/-- Once a place is left out nothing is found there, and elsewhere what was found before. -/
theorem find?_filter_ne (nodes : List (List String × FileNode)) (place other : List String) :
    (nodes.filter (·.1 != place)).find? (·.1 == other)
      = if other = place then none else nodes.find? (·.1 == other) := by
  split
  · next same =>
    subst same
    rw [List.find?_eq_none]
    intro item kept
    simpa using (List.mem_filter.1 kept).2
  · next apart =>
    rw [List.find?_filter]
    congr 1
    funext item
    by_cases hit : item.1 = other
    · simp [hit, apart]
    · simp [hit]

theorem node?_put_self (inside : place ≠ []) (node : FileNode) :
    (files.put place node).node? place = some node := by
  rw [node?, if_neg inside, put, List.find?_append, find?_filter_ne, if_pos rfl]
  simp

theorem node?_put_of_ne {other : List String} (apart : other ≠ place) (node : FileNode) :
    (files.put place node).node? other = files.node? other := by
  unfold node?
  rw [put, List.find?_append, find?_filter_ne, if_neg apart]
  simp [show ¬ place = other from fun equal => apart equal.symm]

theorem node?_clear (inside : place ≠ []) (other : List String) :
    (files.clear place).node? other = if other = place then none else files.node? other := by
  unfold node?
  rw [clear, find?_filter_ne]
  by_cases same : other = place
  · rw [if_pos same, if_pos same, if_neg (same ▸ inside)]
    rfl
  · rw [if_neg same, if_neg same]

/-- A path that ends with a name leads to a place below the root. -/
theorem ne_nil_of_walk {closed last : Bool} {parts : List String} {found : List String}
    (walked : files.walk place closed parts = .ok (.entry found last)) : found ≠ [] := by
  fun_induction walk files place closed parts with
  | case1 => cases walked
  | case2 => cases walked
  | case3 => cases walked
  | case4 place part _ _ =>
    cases walked
    simp
  | case5 place part more _ ih =>
    cases entered : files.enter place part with
    | error fault =>
      rw [entered] at walked
      cases walked
    | ok next =>
      rw [entered] at walked
      exact ih next walked

theorem ne_nil_of_target {path : String} {closed : Bool}
    (leads : files.target path = .ok (.entry place closed)) : place ≠ [] := by
  unfold target at leads
  dsimp only at leads
  split at leads
  · cases leads
  split at leads
  · cases leads
  split at leads
  · cases leads
  · exact ne_nil_of_walk leads

/-- A file is made at a place below the root, and no other place changes. -/
theorem of_create {path : String} {after : Files} (made : files.create path = .ok (place, after)) :
    place ≠ [] ∧ ∀ other, other ≠ place → after.node? other = files.node? other := by
  unfold create at made
  cases leads : files.target path with
  | error fault =>
    rw [leads] at made
    cases made
  | ok target =>
    rw [leads] at made
    rcases target with ⟨place, closed⟩ | place
    · cases closed with
      | true => cases made
      | false =>
        have inside := ne_nil_of_target leads
        dsimp only [bind, Except.bind] at made
        cases found : files.lookup place with
        | error fault =>
          rw [found] at made
          cases made
        | ok node? =>
          rw [found] at made
          rcases node? with _ | _ | _ | _
          · cases made
            exact ⟨inside, fun other apart => node?_put_of_ne apart _⟩
          · cases made
            exact ⟨inside, fun other apart => node?_put_of_ne apart _⟩
          · cases made
          · cases made
            exact ⟨inside, fun _ _ => rfl⟩
    · cases made

end Files

/-! ## What is shown and what is printed -/

theorem Table.join_buckets (line : Entry → String) (buckets : List Bucket) :
    String.join (buckets.map fun bucket => String.join (bucket.entries.map line))
      = String.join ((buckets.flatMap (·.entries)).map line) := by
  induction buckets with
  | nil => rfl
  | cons bucket rest ih =>
    rw [List.map_cons, String.join_cons, ih, List.flatMap_cons, List.map_append, String.join_append]

/-- Bucket by bucket a table is shown as the text of its snapshot. -/
theorem Store.showAll_eq {store : Store} {table : Table} (there : store.table = some table) :
    store.showAll = .ok (Snapshot.ofTable table).text := by
  rw [showAll, requireTable, there, Snapshot.text, Snapshot.ofTable, List.map_map]
  exact congrArg Except.ok (Table.join_buckets _ _)

namespace Snapshot

/-- A snapshot leaves these bytes on every sink that takes whatever is written. -/
def Prints (snapshot : Snapshot) (bytes : Bytes) : Prop :=
  ∀ sink : Sink, sink.TakesAll →
    (snapshot.printTo sink).2 = { sink with taken := sink.taken ++ bytes }

/-- **Line by line a snapshot is printed as its text.** -/
theorem prints_text (snapshot : Snapshot) : snapshot.Prints (Text.utf8 snapshot.text) := by
  obtain ⟨entries⟩ := snapshot
  intro sink takesAll
  show (printLines sink entries).2 = _
  induction entries generalizing sink with
  | nil => simp [printLines, text, Text.utf8]
  | cons entry rest ih =>
    obtain ⟨key, value⟩ := entry
    rw [printLines, Sink.writeAll_of_takesAll takesAll]
    refine (ih { sink with taken := sink.taken ++ Text.utf8 (entryLine key value) } takesAll).trans ?_
    simp [text, Text.utf8_append]

end Snapshot

/-! ## Backups that are being written -/

namespace Backup.Pool

variable {δ : Type} (pool : Pool δ)

@[simp] theorem running_giveBack : pool.giveBack.running = pool.running := by
  unfold giveBack
  split <;> rfl

theorem running_abandon : pool.abandon.running = pool.running := by
  rw [abandon, running_giveBack]

theorem running_finish (index : Nat) :
    (pool.finish index).running = pool.running.eraseIdx index := by
  unfold finish
  split
  · rw [running_giveBack]
  · next outside => rw [List.eraseIdx_of_length_le (Nat.le_of_not_lt outside)]

theorem running_of_grant {pool granted : Pool δ} (grant : pool.grant? = some granted) :
    granted.running = pool.running := by
  unfold grant? at grant
  split at grant
  · cases grant
  · cases grant
    rfl

end Backup.Pool

/-! ## Backups into anything -/

namespace Backup.Queue

variable {δ : Type}

/-- What may happen to a queue, and the table at that moment. -/
inductive Step (δ : Type) where
  | start (table : Table) (destination : δ)
  | finish (table : Table) (index : Nat)

/-- The table at the moment of a step. -/
def Step.table : Step δ → Table
  | start table _ => table
  | finish table _ => table

/-- The start that a step lets in, the backups that it ends, and the queue after it. -/
def advance (queue : Queue δ) : Step δ → Option δ × List (Worker δ) × Queue δ
  | .start table destination =>
    (if (queue.start table destination).1 then some destination else none, [],
      (queue.start table destination).2)
  | .finish table index =>
    ((queue.finish table index).2.1, (queue.finish table index).1.toList,
      (queue.finish table index).2.2)

/-- The backups that steps end, and then those that end when all are waited for. -/
def written (queue : Queue δ) (last : Table) : List (Step δ) → List (Worker δ)
  | [] => (queue.finishAll last).1
  | step :: rest => (queue.advance step).2.1 ++ (queue.advance step).2.2.written last rest

/-- The backup of a start that is let in comes last. -/
theorem start_eq (queue : Queue δ) (table : Table) (destination : δ) :
    (queue.start table destination).2.pool.running
      = queue.pool.running ++ if (queue.start table destination).1
          then [⟨Snapshot.ofTable table, destination⟩] else [] := by
  unfold start
  cases grant : queue.pool.grant? with
  | none => simp
  | some pool => simp [Pool.launch, Pool.running_of_grant grant]

/-- The end of a backup leaves the others, and behind them the start that is let in. -/
theorem finish_eq (queue : Queue δ) (table : Table) (index : Nat) :
    (queue.finish table index).1 = queue.pool.running[index]?
      ∧ (queue.finish table index).2.2.pool.running
        = queue.pool.running.eraseIdx index
          ++ (queue.finish table index).2.1.toList.map fun next =>
            ⟨Snapshot.ofTable table, next⟩ := by
  unfold finish
  dsimp only
  cases queue.waiting with
  | nil => simp [Pool.running_finish]
  | cons next rest =>
    have left := start_eq ⟨queue.pool.finish index, rest⟩ table next
    dsimp only
    cases started : Queue.start ⟨queue.pool.finish index, rest⟩ table next with
    | mk now after =>
      rw [started] at left
      cases now with
      | true => simpa [Pool.running_finish] using left
      | false => simp [Pool.running_finish]

/-- **Whoever is let in** has a snapshot of the table of that moment. -/
theorem of_letIn {queue : Queue δ} {step : Step δ} {destination : δ}
    (letIn : (queue.advance step).1 = some destination) :
    ⟨Snapshot.ofTable step.table, destination⟩ ∈ (queue.advance step).2.2.pool.running := by
  cases step with
  | start table other =>
    obtain ⟨now, ⟨⟩⟩ := Option.ite_none_right_eq_some.1 letIn
    show _ ∈ (queue.start table _).2.pool.running
    rw [start_eq, if_pos now]
    exact List.mem_append_right _ (List.mem_singleton_self _)
  | finish table index =>
    change (queue.finish table index).2.1 = _ at letIn
    show _ ∈ (queue.finish table index).2.2.pool.running
    rw [(queue.finish_eq table index).2, letIn]
    exact List.mem_append_right _ (List.mem_singleton_self _)

/-- **A backup goes on as it is,** until a step ends it. -/
theorem mem_advance {queue : Queue δ} {worker : Worker δ} (runs : worker ∈ queue.pool.running)
    (step : Step δ) :
    worker ∈ (queue.advance step).2.1 ∨ worker ∈ (queue.advance step).2.2.pool.running := by
  cases step with
  | start table destination =>
    refine .inr ?_
    show worker ∈ (queue.start table destination).2.pool.running
    rw [start_eq]
    exact List.mem_append_left _ runs
  | finish table index =>
    obtain ⟨ended, left⟩ := queue.finish_eq table index
    show worker ∈ (queue.finish table index).1.toList
      ∨ worker ∈ (queue.finish table index).2.2.pool.running
    rw [ended, left]
    obtain ⟨slot, there⟩ := List.mem_iff_getElem?.1 runs
    by_cases same : slot = index
    · rw [← same, there]
      exact .inl (by simp)
    · exact .inr (List.mem_append_left _ (List.mem_eraseIdx_iff_getElem?.2 ⟨slot, same, there⟩))

/-- Ending so many backups, the oldest first, ends everyone who is among so many. -/
theorem mem_finishMany (last : Table) {worker : Worker δ} (count slot : Nat) {queue : Queue δ}
    (there : queue.pool.running[slot]? = some worker) (among : slot < count) :
    worker ∈ (queue.finishMany last count).1 := by
  induction count generalizing queue slot with
  | zero => cases among
  | succ count ih =>
    obtain ⟨ended, left⟩ := queue.finish_eq last 0
    show worker ∈ (queue.finish last 0).1.toList
      ++ ((queue.finish last 0).2.2.finishMany last count).1
    cases slot with
    | zero =>
      rw [ended, there]
      exact List.mem_append_left _ (by simp)
    | succ slot =>
      refine List.mem_append_right _ (ih slot ?_ (Nat.lt_of_succ_lt_succ among))
      rw [left, List.eraseIdx_zero, List.getElem?_append_left]
      · rw [List.getElem?_tail, there]
      · rw [List.length_tail]
        have := (List.getElem?_eq_some_iff.1 there).1
        omega

/-- **Every backup that runs is written,** whatever happens. -/
theorem mem_written {queue : Queue δ} {worker : Worker δ} (runs : worker ∈ queue.pool.running)
    (last : Table) (later : List (Step δ)) : worker ∈ queue.written last later := by
  induction later generalizing queue with
  | nil =>
    obtain ⟨slot, there⟩ := List.mem_iff_getElem?.1 runs
    refine mem_finishMany last _ slot there ?_
    have := (List.getElem?_eq_some_iff.1 there).1
    omega
  | cons step rest ih =>
    rcases mem_advance runs step with ended | still
    · exact List.mem_append_left _ ended
    · exact List.mem_append_right _ (ih still)

end Backup.Queue

/-! ## Backups into files -/

namespace Service

variable {service : Service} {place : List String} {bytes : Bytes}

/-- Whoever still writes to a place writes these bytes, and the file has them if nobody does. -/
structure Saves (place : List String) (bytes : Bytes) (service : Service) : Prop where
  alike : ∀ worker ∈ service.backups.running, worker.destination = place →
    Text.utf8 worker.snapshot.text = bytes
  kept : (∃ worker ∈ service.backups.running, worker.destination = place)
    ∨ service.files.node? place = some (.file bytes)

theorem Saves.congr {other : Service} (saves : service.Saves place bytes)
    (running : other.backups.running = service.backups.running)
    (files : other.files.node? place = service.files.node? place) : other.Saves place bytes := by
  refine ⟨?_, ?_⟩
  · rw [running]
    exact saves.alike
  · rw [running, files]
    exact saves.kept

/-- **A backup that ends** leaves its bytes, or leaves the place alone. -/
theorem Saves.finishBackupAt (inside : place ≠ []) (saves : service.Saves place bytes)
    (index : Nat) : (service.finishBackupAt index).Saves place bytes := by
  unfold Service.finishBackupAt
  cases found : service.backups.running[index]? with
  | none => exact saves
  | some ended =>
    have member : ended ∈ service.backups.running := List.mem_of_getElem? found
    refine ⟨fun worker still home => ?_, ?_⟩
    · rw [Backup.Pool.running_finish] at still
      exact saves.alike worker (List.mem_of_mem_eraseIdx still) home
    · by_cases home : ended.destination = place
      · refine .inr ?_
        show (service.files.put ended.destination _).node? place = _
        rw [home, Files.node?_put_self inside, saves.alike ended member home]
      · rcases saves.kept with ⟨worker, still, goes⟩ | kept
        · refine .inl ⟨worker, ?_, goes⟩
          rw [Backup.Pool.running_finish, List.mem_eraseIdx_iff_getElem?]
          obtain ⟨slot, there⟩ := List.mem_iff_getElem?.1 still
          refine ⟨slot, ?_, there⟩
          rintro rfl
          rw [found] at there
          cases there
          exact home goes
        · refine .inr ?_
          show (service.files.put ended.destination _).node? place = _
          rw [Files.node?_put_of_ne (Ne.symm home), kept]

theorem Saves.finishBackup (inside : place ≠ []) (saves : service.Saves place bytes) :
    service.finishBackup.Saves place bytes := by
  rw [finishBackup_eq]
  exact saves.finishBackupAt inside 0

theorem Saves.foldl_finishBackup {β : Type} (inside : place ≠ [])
    (saves : service.Saves place bytes) (items : List β) :
    (items.foldl (fun service _ => service.finishBackup) service).Saves place bytes := by
  induction items generalizing service with
  | nil => exact saves
  | cons item rest ih => exact ih (saves.finishBackup inside)

theorem Saves.finishBackups (inside : place ≠ []) (saves : service.Saves place bytes) :
    service.finishBackups.Saves place bytes :=
  saves.foldl_finishBackup inside _

theorem Saves.grantBackup (inside : place ≠ []) (saves : service.Saves place bytes) :
    service.grantBackup.Saves place bytes := by
  unfold Service.grantBackup
  cases grant : service.backups.grant? with
  | some granted => exact saves.congr (Backup.Pool.running_of_grant grant) rfl
  | none =>
    have waited := saves.finishBackup inside
    cases again : service.finishBackup.backups.grant? with
    | none => exact waited.congr (by simp [again]) rfl
    | some granted =>
      refine waited.congr ?_ rfl
      simp [again, Backup.Pool.running_of_grant again]

/-- Where a backup to a path would be written now. -/
def backupPlace? (service : Service) (path : String) : Option (List String) :=
  (service.grantBackup.files.create path).toOption.map Prod.fst

/-- Another backup leaves the place alone, unless it goes there. -/
theorem Saves.backup (inside : place ≠ []) (saves : service.Saves place bytes) (path : String)
    (elsewhere : service.backupPlace? path ≠ some place) :
    (service.backup path).2.Saves place bytes := by
  have granted := saves.grantBackup inside
  unfold Service.backup
  unfold backupPlace? at elsewhere
  cases service.store.requireTable with
  | error error => exact saves
  | ok table =>
    dsimp only
    cases made : service.grantBackup.files.create path with
    | error fault => exact granted.congr (Backup.Pool.running_abandon _) rfl
    | ok found =>
      obtain ⟨other, files⟩ := found
      rw [made] at elsewhere
      have apart : other ≠ place := fun same => elsewhere (congrArg some same)
      have frame := (Files.of_create made).2 place (Ne.symm apart)
      refine ⟨fun worker member home => ?_, ?_⟩
      · rcases List.mem_append.1 member with old | new
        · exact granted.alike worker old home
        · cases List.mem_singleton.1 new
          exact absurd home apart
      · rcases granted.kept with ⟨worker, still, goes⟩ | kept
        · exact .inl ⟨worker, List.mem_append_left _ still, goes⟩
        · exact .inr (frame.trans kept)

/-- What changes the store touches no file and no backup. -/
theorem apply_beside {α : Type} (service : Service) (decided : Except Error (Update Store α)) :
    (service.apply decided).2.files = service.files
      ∧ (service.apply decided).2.backups = service.backups := by
  cases decided <;> exact ⟨rfl, rfl⟩

theorem init_beside (service : Service) : service.init.2.files = service.files
    ∧ service.init.2.backups = service.backups := by
  unfold init
  cases service.store.init <;> exact ⟨rfl, rfl⟩

theorem delete_beside (service : Service) (keys : List String) (sink : Sink) :
    (service.delete keys sink).2.2.files = service.files
      ∧ (service.delete keys sink).2.2.backups = service.backups := by
  rw [delete_eq_written]
  exact service.apply_beside _

theorem Saves.beside {other : Service} (saves : service.Saves place bytes)
    (beside : other.files = service.files ∧ other.backups = service.backups) :
    other.Saves place bytes :=
  saves.congr (congrArg _ beside.2) (congrArg (·.node? place) beside.1)

theorem Saves.terminate (inside : place ≠ []) (saves : service.Saves place bytes) :
    service.terminate.2.Saves place bytes := by
  have waited := saves.finishBackups inside
  unfold Service.terminate
  dsimp only
  cases service.finishBackups.store.terminate with
  | error error => exact waited
  | ok store => exact waited.beside ⟨rfl, rfl⟩

/-- **Every step keeps what a backup saves,** but for another backup at its place. -/
theorem Saves.advance (inside : place ≠ []) (saves : service.Saves place bytes) (step : Step)
    (elsewhere : ∀ path, step = .event (.action (.backup path)) →
      service.backupPlace? path ≠ some place) :
    (service.advance step).Saves place bytes := by
  cases step with
  | backupEnds index => exact saves.finishBackupAt inside index
  | event event =>
    cases event with
    | action action =>
      cases action with
      | perform operation =>
        cases operation with
        | init => exact saves.beside service.init_beside
        | terminate => exact saves.terminate inside
        | put key value => exact saves.beside (service.apply_beside _)
        | write pairs => exact saves.beside (service.apply_beside _)
        | erase key => exact saves.beside (service.apply_beside _)
        | delete keys sink => exact saves.beside (service.delete_beside keys sink)
        | _ => exact saves
      | watch key watcher => exact saves.beside (service.apply_beside _)
      | unwatch key client => exact saves.beside (service.apply_beside _)
      | backup path => exact saves.backup inside path (elsewhere path rfl)
      | finishBackup => exact saves.finishBackup inside
      | _ => exact saves
    | _ => exact saves.beside ⟨rfl, rfl⟩

/-- No backup that starts later goes to a place. -/
def Elsewhere (place : List String) (service : Service) (later : List Step) : Prop :=
  ∀ early path rest, later = early ++ .event (.action (.backup path)) :: rest →
    (service.advanceAll early).backupPlace? path ≠ some place

theorem elsewhere_nil : service.Elsewhere place [] := by
  intro early path rest split
  simp at split

theorem elsewhere_cons (step : Step) (rest : List Step) :
    service.Elsewhere place (step :: rest)
      ↔ (∀ path, step = .event (.action (.backup path)) → service.backupPlace? path ≠ some place)
        ∧ (service.advance step).Elsewhere place rest := by
  constructor
  · refine fun elsewhere => ⟨fun path same => ?_, fun early path others split => ?_⟩
    · exact elsewhere [] path rest (by rw [same]; rfl)
    · exact elsewhere (step :: early) path others (by rw [split]; rfl)
  · rintro ⟨now, onward⟩ early path others split
    cases early with
    | nil =>
      cases split
      exact now path rfl
    | cons first early =>
      cases split
      exact onward early path others rfl

theorem Saves.advanceAll (inside : place ≠ []) (saves : service.Saves place bytes)
    (later : List Step) (elsewhere : service.Elsewhere place later) :
    (service.advanceAll later).Saves place bytes := by
  induction later generalizing service with
  | nil => exact saves
  | cons step rest ih =>
    obtain ⟨now, onward⟩ := (elsewhere_cons step rest).1 elsewhere
    exact ih (saves.advance inside step now) onward

/-! ## In the end -/

theorem running_finishBackup (service : Service) :
    service.finishBackup.backups.running = service.backups.running.tail := by
  rw [finishBackup_eq]
  unfold finishBackupAt
  cases found : service.backups.running with
  | nil => simp [found]
  | cons worker rest => simp [Backup.Pool.running_finish, found]

/-- Nothing is left to be written once backups were waited for. -/
theorem running_finishBackups (service : Service) : service.finishBackups.backups.running = [] := by
  have each : ∀ (items : List (Backup.Worker (List String))) (service : Service),
      (items.foldl (fun service _ => service.finishBackup) service).backups.running
        = service.backups.running.drop items.length := by
    intro items
    induction items with
    | nil => exact fun _ => rfl
    | cons item rest ih =>
      intro service
      rw [List.foldl_cons, ih, running_finishBackup, List.length_cons, List.drop_tail]
  rw [finishBackups, each, List.drop_length]

/-- Once all backups are written, the file has the bytes. -/
theorem Saves.file (inside : place ≠ []) (saves : service.Saves place bytes) :
    service.finishBackups.files.node? place = some (.file bytes) := by
  rcases (saves.finishBackups inside).kept with ⟨worker, still, -⟩ | kept
  · rw [service.running_finishBackups] at still
    cases still
  · exact kept

/-- **A backup that starts** takes the table of this moment to a file below the root. -/
theorem of_backup {path : String} {started : Service}
    (starts : service.backup path = (.ok (), started)) :
    ∃ table place, service.store.table = some table ∧ place ≠ []
      ∧ service.backupPlace? path = some place
      ∧ started.backups.running
        = service.grantBackup.backups.running ++ [⟨Snapshot.ofTable table, place⟩] := by
  unfold Service.backup at starts
  unfold backupPlace?
  cases there : service.store.table with
  | none =>
    rw [Store.requireTable, there] at starts
    cases starts
  | some table =>
    rw [Store.requireTable, there] at starts
    dsimp only at starts
    cases made : service.grantBackup.files.create path with
    | error fault =>
      rw [made] at starts
      cases starts
    | ok found =>
      obtain ⟨place, files⟩ := found
      rw [made] at starts
      cases starts
      exact ⟨table, place, rfl, (Files.of_create made).1, rfl, rfl⟩

/-- **What a backup saves** is the text of its snapshot, if it is the only one that goes there. -/
theorem saves_of_backup {others : List (Backup.Worker (List String))}
    {worker : Backup.Worker (List String)} (running : service.backups.running = others ++ [worker])
    (alone : ∀ other ∈ others, other.destination ≠ worker.destination) :
    service.Saves worker.destination (Text.utf8 worker.snapshot.text) := by
  refine ⟨fun other member home => ?_, .inl ⟨worker, ?_, rfl⟩⟩
  · rw [running] at member
    rcases List.mem_append.1 member with before | last
    · exact absurd home (alone other before)
    · rw [List.mem_singleton.1 last]
  · rw [running]
    exact List.mem_append_right _ (List.mem_singleton_self _)

theorem showAll_of_takesAll {table : Table} (there : service.store.table = some table) {sink : Sink}
    (takesAll : sink.TakesAll) :
    service.showAll sink
      = (.ok (), { sink with taken := sink.taken ++ Text.utf8 (Snapshot.ofTable table).text }) := by
  rw [showAll, Store.showAll_eq there]
  show Service.output sink _ = _
  rw [output, Sink.writeAll_of_takesAll takesAll]
  rfl

end Service

/-- A table that agrees with a chronicle is written as the lines of its listing. -/
theorem Chronicle.Tells.text_eq {chronicle : Chronicle} {table : Table}
    (tells : chronicle.Tells table) :
    (Snapshot.ofTable table).text = chronicle.text (table.entries.map (·.key)) := by
  rw [text, tells.pairs_eq]
  rfl

/-- **A listing shows, a snapshot keeps, and a backup saves the same entries in the same order.**
After any run of a store that was just made there is a table exactly if the chronicle goes on. Its
stored keys have one listing: by bucket, and within a bucket by the moment at which the present entry
was made. The entries of the table, a snapshot of it, and what is shown are the keys of this listing
with their values, one line for each.

A backup that is let in now prints the bytes that would be shown now, whatever happens later. If it
goes to a file, the file has these bytes once backups were waited for, unless another backup goes
there too. If it waits in a queue for its turn, its moment is that in which it is let in. -/
theorem Service.shown_as_saved (service : Service)
    (begins : service.store.table = none ∨ service.store.table = some {}) (steps : List Step) :
    let reached := service.advanceAll steps
    match Chronicle.ofRun service.store.settings (service.store.table.map fun _ => {}) steps with
    | none => reached.store.table = none
      ∧ (∀ sink, reached.showAll sink = (.error .notInitialized, sink))
      ∧ ∀ path, reached.backup path = (.error .notInitialized, reached)
    | some chronicle => ∃ table keys, reached.store.table = some table
      ∧ (∀ listing, chronicle.Lists listing ↔ listing = keys)
      ∧ let bytes := Text.utf8 (chronicle.text keys)
        table.entries.map (fun entry => (entry.key, entry.value)) = chronicle.pairs keys
        ∧ (Snapshot.ofTable table).entries = chronicle.pairs keys
        ∧ (∀ sink : Sink, sink.TakesAll →
          reached.showAll sink = (.ok (), { sink with taken := sink.taken ++ bytes }))
        ∧ (Snapshot.ofTable table).Prints bytes
        ∧ (∀ path started, reached.backup path = (.ok (), started) →
          ∃ others worker, started.backups.running = others ++ [worker]
            ∧ reached.backupPlace? path = some worker.destination
            ∧ worker.snapshot.Prints bytes
            ∧ ∀ later, (∀ other ∈ others, other.destination ≠ worker.destination) →
              started.Elsewhere worker.destination later →
              (started.advanceAll later).finishBackups.files.node? worker.destination
                = some (.file bytes))
        ∧ ∀ (δ : Type) (queue : Backup.Queue δ) (step : Backup.Queue.Step δ) (destination : δ),
          step.table = table → (queue.advance step).1 = some destination →
          ∀ later last, ∃ worker ∈ (queue.advance step).2.2.written last later,
            worker.destination = destination ∧ worker.snapshot.Prints bytes := by
  intro reached
  have told : Option.Rel Chronicle.Tells _ reached.store.table :=
    told_advanceAll (Store.told_of_begins begins) steps
  generalize Chronicle.ofRun service.store.settings _ steps = chronicle? at told ⊢
  cases there : reached.store.table with
  | none =>
    rw [there] at told
    cases told
    refine ⟨rfl, fun sink => ?_, fun path => ?_⟩
    · rw [Service.showAll, Store.showAll, Store.requireTable, there]
      rfl
    · rw [Service.backup, Store.requireTable, there]
  | some table =>
    rw [there] at told
    rcases told with tells | _
    refine ⟨table, table.entries.map fun entry => entry.key, rfl, fun listing =>
      ⟨fun also => also.unique tells.lists, fun same => same ▸ tells.lists⟩, ?_⟩
    rw [← tells.text_eq]
    refine ⟨tells.pairs_eq.symm, tells.pairs_eq.symm, fun sink => showAll_of_takesAll there,
      Snapshot.prints_text _, fun path started starts => ?_, ?_⟩
    · obtain ⟨same, place, was, inside, goes, running⟩ := of_backup starts
      cases there.symm.trans was
      refine ⟨_, _, running, goes, Snapshot.prints_text _, fun later alone elsewhere => ?_⟩
      exact ((saves_of_backup running alone).advanceAll inside later elsewhere).file inside
    · rintro δ queue step destination rfl letIn later last
      exact ⟨_, Backup.Queue.mem_written (Backup.Queue.of_letIn letIn) last later, rfl,
        Snapshot.prints_text _⟩

/-- A key that comes back stands behind one that was overwritten, and a backup of this is not touched
by what comes after, be it the next backup. -/
theorem Service.shown_as_saved_returning_key :
    let service : Service := { store := { settings := {} } }
    let steps : List Step := [Operation.init, .write [("b", "1"), ("A", "2"), ("a", "3"), ("b", "4")],
      .erase "A", .put "A" "5", .put "a" "6"].map fun operation => .event (.action (.perform operation))
    let reached := service.advanceAll steps
    let started := (reached.backup "c").2
    let later : List Step := [.event (.action (.perform (.put "a" "7"))),
      .event (.action (.backup "d")), .event (.action (.perform .terminate)),
      .event (.action (.perform .init))]
    service.store.table = none ∧ (reached.backup "c").1 = .ok () ∧ started.Elsewhere ["c"] later
      ∧ (started.advanceAll later).finishBackups.files.node? ["c"]
        = some (.file (Text.utf8 "(a, 6)\n(A, 5)\n(b, 4)\n")) := by
  intro service steps reached started later
  have starts : (reached.backup "c").1 = .ok () := by
    simp only [reached, service, steps]
    cbv
  have goes : reached.backupPlace? "c" = some ["c"] := by
    simp only [reached, service, steps]
    cbv
  have alone : started.backups.running.length = 1 := by
    simp only [started, reached, service, steps]
    cbv
  have next : ((started.advance (.event (.action (.perform (.put "a" "7"))))).backupPlace? "d"
      == some ["c"]) = false := by
    simp only [started, reached, service, steps]
    cbv
  have listed : (reached.store.table.map fun table => (Snapshot.ofTable table).text)
      = some "(a, 6)\n(A, 5)\n(b, 4)\n" := by
    simp only [reached, service, steps]
    cbv
  have elsewhere : started.Elsewhere ["c"] later := by
    simp only [later, elsewhere_cons, elsewhere_nil, reduceCtorEq, Step.event.injEq,
      Event.action.injEq, Action.backup.injEq, false_implies, implies_true, true_and, and_true,
      forall_eq']
    simpa using next
  have all := Service.shown_as_saved service (.inl rfl) steps
  have same : service.advanceAll steps = reached := rfl
  dsimp only at all
  rw [same] at all
  -- from here on nothing is evaluated any more
  clear_value reached
  obtain ⟨table, there, text⟩ := Option.map_eq_some_iff.1 listed
  split at all
  · cases there.symm.trans all.1
  · obtain ⟨-, keys, -, -, -, -, shows, -, saves, -⟩ := all
    have everything : Sink.TakesAll {} := ⟨rfl, by simp [Sink.Flows]⟩
    have bytes := congrArg (·.2.taken)
      ((shows {} everything).symm.trans (Service.showAll_of_takesAll there everything))
    simp only [List.nil_append, text] at bytes
    obtain ⟨others, worker, running, place, -, saved⟩ := saves "c" started (Prod.ext starts rfl)
    have home := Option.some.inj (goes.symm.trans place)
    have nobody : others = [] := by
      rw [running, List.length_append] at alone
      exact List.length_eq_zero_iff.1 (by simpa using alone)
    have file := saved later (by simp [nobody]) (home ▸ elsewhere)
    rw [← home, bytes] at file
    exact ⟨rfl, starts, elsewhere, file⟩

end KeyWatch
