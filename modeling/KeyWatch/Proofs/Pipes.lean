/-
# Proofs.Pipes -- pipes in a tree of files

Trees of files are compared by what a path can meet in them: `Files.Within` says that two trees have
the same directories and that the one has all the pipes of the other, so that a path to a pipe in
the one is a path to a pipe in the other (`Files.Within.isPipe`). To make a pipe goes up in this
order and gives a path its pipe (`Files.of_makePipe`). To remove one goes down, and leaves its path
without a pipe even where nothing could be removed (`Files.withoutPipe_spec`).
-/
import KeyWatch.Proofs.Archive

namespace KeyWatch

set_option autoImplicit false

/-! ## Paths to pipes -/

namespace Files

variable {files other after : Files} {path : String} {place : List String}

/-- A path that leads to a pipe. -/
def IsPipe (files : Files) (path : String) : Prop :=
  (files.open? path).map Prod.snd = .ok .pipe

instance (files : Files) (path : String) : Decidable (files.IsPipe path) :=
  inferInstanceAs (Decidable (_ = _))

/-- A path that gives a place its name, whether something stands there or not. -/
def Names (files : Files) (path : String) (place : List String) : Prop :=
  files.target path = .ok (.entry place false)
    ∧ (place.getLast?.getD "").utf8ByteSize ≤ maxName

theorem lookup_eq_ok_iff (files : Files) (place : List String) (found : Option FileNode) :
    files.lookup place = .ok found
      ↔ (place.getLast?.getD "").utf8ByteSize ≤ maxName ∧ found = files.node? place := by
  unfold lookup
  split
  · next long => simp [Nat.not_le.2 long]
  · next short => simp [Nat.not_lt.1 short, eq_comm]

theorem isPipe_iff (files : Files) (path : String) :
    files.IsPipe path ↔ ∃ place, files.Names path place ∧ files.node? place = some .pipe := by
  constructor
  · intro stands
    obtain ⟨⟨place, node⟩, opened, rfl⟩ := (map_eq_ok_iff _ _ _).1 stands
    obtain ⟨target, leads, onward⟩ := (bind_eq_ok_iff _ _ _).1 opened
    cases target with
    | directory place => cases onward
    | entry place closed =>
      obtain ⟨found, looked, onward⟩ := (bind_eq_ok_iff _ _ _).1 onward
      obtain ⟨short, rfl⟩ := (files.lookup_eq_ok_iff place found).1 looked
      split at onward
      · cases onward
      · cases onward
      · next node _ there =>
        cases closed with
        | true => cases onward
        | false =>
          cases onward
          exact ⟨_, ⟨leads, short⟩, there⟩
  · rintro ⟨place, ⟨leads, short⟩, there⟩
    have opened : files.open? path = .ok (place, .pipe) := by
      refine (bind_eq_ok_iff _ _ _).2 ⟨_, leads, (bind_eq_ok_iff _ _ _).2
        ⟨_, (files.lookup_eq_ok_iff place _).2 ⟨short, rfl⟩, ?_⟩⟩
      rw [there]
      rfl
    exact (map_eq_ok_iff _ _ _).2 ⟨_, opened, rfl⟩

/-! Trees with the same directories lead a path to the same place. -/

section Directories

variable (keeps : ∀ place, files.node? place = some .directory
  → other.node? place = some .directory)

include keeps

theorem enter_of_directories {next : List String} {part : String}
    (entered : files.enter place part = .ok next) : other.enter place part = .ok next := by
  unfold enter at entered ⊢
  by_cases stays : part = "."
  · rwa [if_pos stays] at entered ⊢
  rw [if_neg stays] at entered ⊢
  by_cases up : part = ".."
  · rwa [if_pos up] at entered ⊢
  rw [if_neg up] at entered ⊢
  by_cases long : maxName < part.utf8ByteSize
  · rw [if_pos long] at entered
    cases entered
  rw [if_neg long] at entered ⊢
  split at entered
  · next there =>
    rw [keeps _ there]
    exact entered
  · cases entered
  · cases entered

theorem walk_of_directories {closed : Bool} {parts : List String} {target : Target}
    (walked : files.walk place closed parts = .ok target) :
    other.walk place closed parts = .ok target := by
  fun_induction walk files place closed parts with
  | case1 place => exact walked
  | case2 place => exact walked
  | case3 place => exact walked
  | case4 place part stays up =>
    rw [walk, if_neg stays, if_neg up]
    exact walked
  | case5 place part more some ih =>
    obtain ⟨next, entered, onward⟩ := (bind_eq_ok_iff _ _ _).1 walked
    rw [walk]
    · exact (bind_eq_ok_iff _ _ _).2 ⟨next, enter_of_directories keeps entered, ih next onward⟩
    · exact some

theorem target_of_directories (start : other.workingDir = files.workingDir) {target : Target}
    (leads : files.target path = .ok target) : other.target path = .ok target := by
  unfold Files.target at leads ⊢
  dsimp only at leads ⊢
  split at leads
  · cases leads
  split at leads
  · cases leads
  split at leads
  · cases leads
  next nul empty long =>
    rw [if_neg nul, if_neg empty, if_neg long, start]
    exact walk_of_directories keeps leads

end Directories

/-- The same directories, and every pipe of the first tree. -/
structure Within (files other : Files) : Prop where
  workingDir : other.workingDir = files.workingDir
  directory : ∀ place, files.node? place = some .directory ↔ other.node? place = some .directory
  pipe : ∀ place, files.node? place = some .pipe → other.node? place = some .pipe

theorem Within.refl (files : Files) : files.Within files :=
  ⟨rfl, fun _ => .rfl, fun _ => id⟩

theorem Within.trans (first : files.Within other) (second : other.Within after) :
    files.Within after where
  workingDir := second.workingDir.trans first.workingDir
  directory := fun place => (first.directory place).trans (second.directory place)
  pipe := fun place stands => second.pipe place (first.pipe place stands)

theorem Within.names_iff (within : files.Within other) (path : String) (place : List String) :
    files.Names path place ↔ other.Names path place :=
  and_congr_left' ⟨target_of_directories (fun _ => (within.directory _).1) within.workingDir,
    target_of_directories (fun _ => (within.directory _).2) within.workingDir.symm⟩

/-- **Every path that leads to a pipe still does in the larger tree.** -/
theorem Within.isPipe (within : files.Within other) (stands : files.IsPipe path) :
    other.IsPipe path := by
  obtain ⟨place, names, there⟩ := (files.isPipe_iff path).1 stands
  exact (other.isPipe_iff path).2 ⟨place, (within.names_iff path place).1 names,
    within.pipe place there⟩

/-! ## Making and removing pipes -/

/-- What can be removed has a name, and is no directory. -/
theorem of_remove (removed : files.remove path = .ok after) :
    ∃ place, files.Names path place ∧ files.node? place ≠ some .directory
      ∧ after = files.clear place := by
  obtain ⟨target, leads, onward⟩ := (bind_eq_ok_iff _ _ _).1 removed
  cases target with
  | directory place => cases onward
  | entry place closed =>
    obtain ⟨found, looked, onward⟩ := (bind_eq_ok_iff _ _ _).1 onward
    obtain ⟨short, rfl⟩ := (files.lookup_eq_ok_iff place found).1 looked
    split at onward
    · cases onward
    · cases onward
    · next node solid there =>
      cases closed with
      | true => cases onward
      | false =>
        cases onward
        refine ⟨place, ⟨leads, short⟩, fun directory => ?_, rfl⟩
        rw [there] at directory
        exact solid (Option.some.inj directory)

/-- A pipe can be removed. -/
theorem remove_of_isPipe (stands : files.IsPipe path) : ∃ after, files.remove path = .ok after := by
  obtain ⟨place, ⟨leads, short⟩, there⟩ := (files.isPipe_iff path).1 stands
  refine ⟨files.clear place, (bind_eq_ok_iff _ _ _).2 ⟨_, leads, (bind_eq_ok_iff _ _ _).2
    ⟨_, (files.lookup_eq_ok_iff place _).2 ⟨short, rfl⟩, ?_⟩⟩⟩
  rw [there]
  rfl

theorem Names.ne_nil (names : files.Names path place) : place ≠ [] := ne_nil_of_target names.1

theorem within_clear (inside : place ≠ []) (solid : files.node? place ≠ some .directory) :
    (files.clear place).Within files where
  workingDir := rfl
  directory := fun other => by
    rw [node?_clear inside]
    split
    · next same => simp [same, solid]
    · rfl
  pipe := fun other stands => by
    rw [node?_clear inside] at stands
    split at stands
    · cases stands
    · exact stands

theorem within_put_pipe (inside : place ≠ []) (solid : files.node? place ≠ some .directory) :
    files.Within (files.put place .pipe) where
  workingDir := rfl
  directory := fun other => by
    by_cases same : other = place
    · rw [same, node?_put_self inside]
      simp [solid]
    · rw [node?_put_of_ne same]
  pipe := fun other stands => by
    by_cases same : other = place
    · rw [same, node?_put_self inside]
    · rwa [node?_put_of_ne same]

theorem put_clear (files : Files) (place : List String) (node : FileNode) :
    (files.clear place).put place node = files.put place node := by
  simp [put, clear]

/-- Make a pipe where nothing stands. -/
def placePipe (files : Files) (path : String) : Except IoFault Files := do
  match ← files.target path with
  | .directory _ => throw (.system .fileExists)
  | .entry _ true => throw (.system .noEntry)
  | .entry place false =>
    match ← files.lookup place with
    | some _ => throw (.system .fileExists)
    | none => return files.put place .pipe

theorem of_placePipe (made : files.placePipe path = .ok after) :
    ∃ place, files.Names path place ∧ files.node? place = none ∧ after = files.put place .pipe := by
  obtain ⟨target, leads, onward⟩ := (bind_eq_ok_iff _ _ _).1 made
  rcases target with ⟨place, _ | _⟩ | place
  · obtain ⟨found, looked, onward⟩ := (bind_eq_ok_iff _ _ _).1 onward
    obtain ⟨short, rfl⟩ := (files.lookup_eq_ok_iff place found).1 looked
    cases free : files.node? place with
    | some node =>
      rw [free] at onward
      cases onward
    | none =>
      rw [free] at onward
      cases onward
      exact ⟨place, ⟨leads, short⟩, free, rfl⟩
  · cases onward
  · cases onward

/-- A pipe is made where nothing stands, once what stood there was removed. -/
theorem placePipe_of_makePipe (made : files.makePipe path = .ok after) :
    files.placePipe path = .ok after
      ∨ ∃ cleared, files.remove path = .ok cleared ∧ cleared.placePipe path = .ok after := by
  unfold makePipe at made
  split at made
  · next cleared removed => exact .inr ⟨cleared, removed, made⟩
  · exact .inl made
  · cases made

/-- A pipe is made at the place that its path names, instead of what was there. -/
theorem eq_put_of_makePipe (made : files.makePipe path = .ok after) :
    ∃ place, files.Names path place ∧ files.node? place ≠ some .directory
      ∧ after = files.put place .pipe := by
  rcases placePipe_of_makePipe made with placed | ⟨cleared, removed, placed⟩
  · obtain ⟨place, names, free, rfl⟩ := of_placePipe placed
    exact ⟨place, names, by rw [free]; nofun, rfl⟩
  · obtain ⟨place, names, solid, rfl⟩ := of_remove removed
    obtain ⟨place', names', -, rfl⟩ := of_placePipe placed
    have named := ((within_clear names.ne_nil solid).names_iff path place').1 names'
    cases names.1.symm.trans named.1
    exact ⟨place, names, solid, files.put_clear place .pipe⟩

/-- **A pipe that is made stands,** and so does every other one. -/
theorem of_makePipe (made : files.makePipe path = .ok after) :
    files.Within after ∧ after.IsPipe path := by
  obtain ⟨place, names, solid, rfl⟩ := eq_put_of_makePipe made
  have within := within_put_pipe names.ne_nil solid
  exact ⟨within, (isPipe_iff _ _).2 ⟨place, (within.names_iff path place).1 names,
    node?_put_self names.ne_nil _⟩⟩

/-- The files after a pipe was removed, if it could be. -/
def withoutPipe (files : Files) (path : String) : Files :=
  (files.removePipe path).toOption.getD files

theorem withoutPipe_eq (files : Files) (path : String) :
    files.withoutPipe path = (files.remove path).toOption.getD files := by
  unfold withoutPipe removePipe
  split
  · next missing =>
    rw [missing]
    rfl
  · rfl

/-- **Once a pipe is removed its path leads to none,** also where nothing could be removed. -/
theorem withoutPipe_spec (files : Files) (path : String) :
    (files.withoutPipe path).Within files ∧ ¬ (files.withoutPipe path).IsPipe path := by
  rw [withoutPipe_eq]
  cases removed : files.remove path with
  | ok cleared =>
    obtain ⟨place, names, solid, rfl⟩ := of_remove removed
    have within := within_clear names.ne_nil solid
    refine ⟨within, fun stands => ?_⟩
    obtain ⟨other, named, there⟩ := (isPipe_iff _ _).1 stands
    cases names.1.symm.trans ((within.names_iff path other).1 named).1
    change (files.clear place).node? place = _ at there
    rw [node?_clear names.ne_nil, if_pos rfl] at there
    cases there
  | error fault =>
    -- what cannot be removed is no pipe
    refine ⟨.refl files, fun stands => ?_⟩
    obtain ⟨cleared, cleared_eq⟩ := remove_of_isPipe stands
    cases removed.symm.trans cleared_eq

end Files

end KeyWatch
