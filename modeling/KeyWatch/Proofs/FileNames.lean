/-
# Proofs.FileNames -- what the files of a job are called

A job script is `<stem>.job`, and the stem is all that its files take over: the output is
`<stem>.out`, a backup `<stem>-<n>.bck`. A stem may hold dots and dashes, and still the number of a
backup is behind the last dash (`append_mark_inj`) and can be read back from its digits
(`Text.digits?_toDigits`). So outputs and backups of different jobs are different files, and none of
them is a job script.

One stem is lost on the way. The extension is taken off with its dot still there, and what is left
of `..job` then is `..`, which names no file and is kept as it is: its output is the directory
above, and its backups are those of `...job` (`backup_twins`). No other two names meet
(`files_apart`).
-/
import KeyWatch.Files.Path
import KeyWatch.Proofs.Grammar

namespace KeyWatch

set_option autoImplicit false

/-- **A number is read back from its digits.** -/
theorem Text.digits?_toDigits (number : Nat) :
    digits? (Nat.toDigits 10 number) = some number := by
  have digit (value : Nat) (small : value < 10) :
      ('0' ≤ value.digitChar ∧ value.digitChar ≤ '9')
        ∧ value.digitChar.toNat - '0'.toNat = value := by
    revert value
    decide
  induction number using Nat.strongRecOn with
  | ind number ih =>
    rw [Nat.toDigits_eq_if (by omega)]
    split
    · next small =>
      have only := digits?_append_singleton [] number.digitChar
      rw [List.nil_append] at only
      rw [only, show digits? [] = some 0 from rfl, Option.bind_some, if_pos (digit _ small).1,
        (digit _ small).2]
      simp
    · next large =>
      have last := digit (number % 10) (by omega)
      rw [digits?_append_singleton, ih (number / 10) (by omega), Option.bind_some, if_pos last.1,
        last.2, Nat.div_add_mod]

namespace Path

variable {front name stem extension : List Char}

/-! ## Names -/

/-- A name that a directory can list. -/
def IsFileName (name : String) : Prop := isName name.toList = true ∧ '/' ∉ name.toList

theorem isName_iff (name : List Char) :
    isName name = true ↔ name ≠ [] ∧ name ≠ ['.'] ∧ name ≠ ['.', '.'] := by
  simp [isName, and_assoc]

theorem exists_front (directory : String) :
    ∃ front, front.getLast? = some '/'
      ∧ ∀ name, (join directory name).toList = front ++ name.toList := by
  by_cases closed : directory.toList.getLast? = some '/'
  · refine ⟨directory.toList, closed, fun name => ?_⟩
    rw [join, if_pos closed, String.toList_append]
  · refine ⟨directory.toList ++ ['/'], by simp, fun name => ?_⟩
    rw [join, if_neg closed]
    simp

/-- Nothing is dropped where a path, read backwards, begins with a name. -/
theorem dropTail_append (flat : '/' ∉ name) (some : name ≠ []) (notDot : name ≠ ['.'])
    (rest : List Char) : dropTail (name ++ '/' :: rest) = name ++ '/' :: rest := by
  obtain ⟨c, more, rfl⟩ := List.exists_cons_of_ne_nil some
  unfold dropTail
  split
  · next same =>
    cases same
    simp at flat
  · next same =>
    -- a dot before a slash would be the whole name
    cases more with
    | nil =>
      cases same
      exact absurd rfl notDot
    | cons d more =>
      cases same
      simp at flat
  · rfl

/-- **A path is split before its name,** unless that is the dot which counts for nothing. -/
theorem split_append (ends : front.getLast? = some '/') (flat : '/' ∉ name) (some : name ≠ [])
    (notDot : name ≠ ['.']) : split (front ++ name) = (front, name) := by
  obtain ⟨before, rfl⟩ := List.getLast?_eq_some_iff.1 ends
  have unslashed : ∀ c ∈ name.reverse, (c != '/') = true := fun c member =>
    bne_iff_ne.2 fun slash => flat (slash ▸ List.mem_reverse.1 member)
  have backwards : (before ++ ['/'] ++ name).reverse = name.reverse ++ '/' :: before.reverse := by
    simp
  have kept := dropTail_append (mt List.mem_reverse.1 flat) (mt List.reverse_eq_nil_iff.1 some)
    (fun dot => notDot (List.reverse_eq_iff.1 dot)) before.reverse
  unfold split
  rw [backwards, kept]
  dsimp only
  rw [List.takeWhile_append_of_pos unslashed, List.dropWhile_append_of_pos unslashed]
  simp

theorem name?_append (ends : front.getLast? = some '/') (flat : '/' ∉ name)
    (isName : isName name = true) : name? (front ++ name) = some name := by
  obtain ⟨some, notDot, -⟩ := (isName_iff name).1 isName
  rw [name?, split_append ends flat some notDot]
  exact if_pos isName

/-- What is named `..` is left alone. -/
theorem replaceExtension_up (ends : front.getLast? = some '/') :
    replaceExtension (front ++ ['.', '.']) extension = front ++ ['.', '.'] := by
  have unnamed : name? (front ++ ['.', '.']) = none := by
    rw [name?, split_append ends (by decide) (by decide) (by decide)]
    rfl
  rw [replaceExtension, unnamed]

theorem splitName_append (some : stem ≠ []) (dotless : '.' ∉ extension) :
    splitName (stem ++ '.' :: extension) = (stem, .some extension) := by
  have undotted : ∀ c ∈ extension.reverse, (c != '.') = true := fun c member =>
    bne_iff_ne.2 fun dot => dotless (dot ▸ List.mem_reverse.1 member)
  have backwards :
      (stem ++ '.' :: extension).reverse = extension.reverse ++ '.' :: stem.reverse := by
    simp
  unfold splitName
  rw [backwards]
  dsimp only
  rw [List.takeWhile_append_of_pos undotted, List.dropWhile_append_of_pos undotted]
  simp [some]

/-- A name with an extension is a stem, a dot and the extension. -/
theorem of_splitName (found : splitName name = (stem, some extension)) :
    name = stem ++ '.' :: extension ∧ stem ≠ [] := by
  have whole : name = (name.reverse.dropWhile (· != '.')).reverse
      ++ (name.reverse.takeWhile (· != '.')).reverse := by
    rw [← List.reverse_append, List.takeWhile_append_dropWhile, List.reverse_reverse]
  unfold splitName at found
  dsimp only at found
  split at found
  · cases found
  · cases found
  · next upToDot some notDot =>
    cases found
    have dotted := List.head?_dropWhile_not (· != '.') name.reverse
    generalize name.reverse.dropWhile (· != '.') = tail at *
    cases tail with
    | nil => exact absurd rfl some
    | cons c rest =>
      have dot : c = '.' := by simpa using dotted
      subst dot
      rw [List.reverse_cons] at whole notDot ⊢
      rw [List.dropLast_concat]
      refine ⟨whole.trans (by simp), ?_⟩
      intro nothing
      rw [nothing] at notDot
      exact notDot rfl

theorem extension?_append (ends : front.getLast? = some '/') (flat : '/' ∉ name)
    (isName : isName name = true) : extension? (front ++ name) = (splitName name).2 := by
  rw [extension?, name?_append ends flat isName]
  rfl

theorem extension?_append_of_dot (ends : front.getLast? = some '/') (some : stem ≠ [])
    (flat : '/' ∉ stem ++ '.' :: extension) (dotless : '.' ∉ extension)
    (long : extension ≠ []) :
    extension? (front ++ (stem ++ '.' :: extension)) = .some extension := by
  have isName : isName (stem ++ '.' :: extension) = true := by
    rw [isName_iff]
    have sizes := List.length_pos_iff.2 some
    have sizes' := List.length_pos_iff.2 long
    refine ⟨by simp, ?_, ?_⟩
    · intro same
      have length := congrArg List.length same
      simp at length
      omega
    · intro same
      have length := congrArg List.length same
      simp at length
      omega
  rw [extension?_append ends flat isName, splitName_append some dotless]

/-! ## Jobs -/

/-- A name of a job script with a stem. -/
def JobName (name : String) (stem : List Char) : Prop :=
  name.toList = stem ++ '.' :: "job".toList ∧ stem ≠ [] ∧ '/' ∉ stem

theorem exists_jobName {directory name : String} (plain : IsFileName name)
    (isJob : isJob (join directory name) = true) : ∃ stem, JobName name stem := by
  obtain ⟨front, ends, whole⟩ := exists_front directory
  have found : extension? (front ++ name.toList) = some "job".toList := by
    rw [← whole]
    exact beq_iff_eq.1 isJob
  rw [extension?_append ends plain.2 plain.1] at found
  have cut : splitName name.toList = (_, some "job".toList) := Prod.ext rfl found
  obtain ⟨made, some⟩ := of_splitName cut
  refine ⟨_, made, some, fun member => plain.2 ?_⟩
  rw [made]
  exact List.mem_append_left _ member

/-- What is left of a stem when the extension is taken off a job's name. -/
def kept (stem : List Char) : List Char := if stem = ['.'] then ['.', '.'] else stem

/-- **An extension takes the place of a job's own,** unless the stem is a dot. -/
theorem withExtension_job (ends : front.getLast? = some '/') (some : stem ≠ []) (flat : '/' ∉ stem)
    (extension : List Char) :
    withExtension (front ++ (stem ++ '.' :: "job".toList)) extension
      = if stem = ['.'] ∨ extension = [] then front ++ kept stem
        else front ++ (stem ++ '.' :: extension) := by
  have found : extension? (front ++ (stem ++ '.' :: "job".toList)) = .some "job".toList :=
    extension?_append_of_dot ends some (by simpa using flat) (by decide) (by decide)
  have cut : (front ++ (stem ++ '.' :: "job".toList)).take
      ((front ++ (stem ++ '.' :: "job".toList)).length - "job".toList.length)
        = front ++ (stem ++ ['.']) := by
    have whole : front ++ (stem ++ '.' :: "job".toList)
        = (front ++ (stem ++ ['.'])) ++ "job".toList := by simp
    rw [whole, List.length_append, Nat.add_sub_cancel, List.take_left]
  rw [withExtension, found]
  dsimp only
  rw [cut]
  by_cases dot : stem = ['.']
  · rw [dot, if_pos (.inl rfl)]
    exact replaceExtension_up ends
  · have isName : isName (stem ++ ['.']) = true := by
      rw [isName_iff]
      refine ⟨by simp, fun same => some ?_, fun same => dot ?_⟩
      · exact List.append_cancel_right (same.trans (List.nil_append _).symm)
      · exact List.append_cancel_right (same.trans rfl)
    have here : '/' ∉ stem ++ ['.'] := by simpa using flat
    rw [replaceExtension, name?_append ends here isName,
      split_append ends here (by simp) ((isName_iff _).1 isName).2.1]
    dsimp only
    rw [splitName_append some List.not_mem_nil, kept, if_neg dot]
    by_cases none : extension = []
    · simp [none]
    · simp [none, dot]

/-- The name of a job's output. -/
def outputName (stem : List Char) : List Char :=
  if stem = ['.'] then ['.', '.'] else stem ++ '.' :: "out".toList

/-- The name of a job's backup of a number. -/
def backupName (stem : List Char) (number : Nat) : List Char :=
  kept stem ++ '-' :: Nat.toDigits 10 number ++ '.' :: "bck".toList

variable {directory name : String}

theorem toList_output (ends : front.getLast? = some '/')
    (whole : (join directory name).toList = front ++ name.toList) (named : JobName name stem) :
    (output (join directory name)).toList = front ++ outputName stem := by
  rw [output, String.toList_ofList, whole, named.1, withExtension_job ends named.2.1 named.2.2,
    outputName]
  by_cases dot : stem = ['.']
  · simp [dot, kept]
  · simp [dot]

theorem toList_backup (ends : front.getLast? = some '/')
    (whole : (join directory name).toList = front ++ name.toList) (named : JobName name stem)
    (number : Nat) :
    (backup (join directory name) number).toList = front ++ backupName stem number := by
  rw [backup, whole, named.1, withExtension_job ends named.2.1 named.2.2, if_pos (.inr rfl),
    Nat.toString_eq_ofList_toDigits, backupName]
  simp

/-- **A job's files stand beside it,** and are named after its stem, unless that is a dot. -/
theorem files_of_job (directory stem : String) (number : Nat) (some : stem ≠ "")
    (flat : '/' ∉ stem.toList) (notDot : stem ≠ ".") :
    output (join directory (stem ++ ".job")) = join directory (stem ++ ".out")
      ∧ backup (join directory (stem ++ ".job")) number
        = join directory (stem ++ "-" ++ toString number ++ ".bck") := by
  obtain ⟨front, ends, whole⟩ := exists_front directory
  have named : JobName (stem ++ ".job") stem.toList := by
    refine ⟨by simp, fun nothing => some ?_, flat⟩
    exact String.toList_inj.1 nothing
  have notDot' : stem.toList ≠ ['.'] := fun dot => notDot (String.toList_inj.1 dot)
  constructor
  · rw [← String.toList_inj, toList_output ends (whole _) named, whole, outputName, if_neg notDot']
    simp
  · rw [← String.toList_inj, toList_backup ends (whole _) named, whole, backupName, kept,
      if_neg notDot', Nat.toString_eq_ofList_toDigits]
    simp

/-! ## Which files meet -/

/-- **The last mark of a text is found by what is free of it.** -/
theorem append_mark_inj {mark : Char} {before before' behind behind' : List Char}
    (free : mark ∉ behind) (free' : mark ∉ behind') :
    before ++ mark :: behind = before' ++ mark :: behind'
      ↔ before = before' ∧ behind = behind' := by
  constructor
  · intro same
    rcases List.append_eq_append_iff.1 same with ⟨inner, rfl, rest⟩ | ⟨inner, rfl, rest⟩
    · cases inner with
      | nil => simpa using rest
      | cons c inner =>
        cases rest
        simp at free
    · cases inner with
      | nil => simpa [eq_comm] using rest
      | cons c inner =>
        cases rest
        simp at free'
  · rintro ⟨rfl, rfl⟩
    rfl

theorem not_mem_toDigits {c : Char} (plain : c.isDigit = false) (number : Nat) :
    c ∉ Nat.toDigits 10 number := by
  intro member
  rw [Nat.isDigit_of_mem_toDigits (by decide) (by decide) member] at plain
  cases plain

theorem toDigits_inj {number other : Nat} :
    Nat.toDigits 10 number = Nat.toDigits 10 other ↔ number = other := by
  constructor
  · intro same
    have read := Text.digits?_toDigits number
    rw [same, Text.digits?_toDigits other] at read
    exact (Option.some.inj read).symm
  · rintro rfl
    rfl

/-- The two jobs whose backups are the same files. -/
def Twins (first second : String) : Prop :=
  first = "..job" ∧ second = "...job" ∨ first = "...job" ∧ second = "..job"

theorem JobName.eq_iff {first second : String} {stem' : List Char} (named : JobName first stem)
    (named' : JobName second stem') : first = second ↔ stem = stem' := by
  rw [← String.toList_inj, named.1, named'.1, List.append_left_inj]

theorem kept_eq_iff {first second : String} {stem' : List Char} (named : JobName first stem)
    (named' : JobName second stem') :
    kept stem = kept stem' ↔ first = second ∨ Twins first second := by
  have dots {name : String} {stem : List Char} (named : JobName name stem) (dots : List Char)
      (known : String) (whole : known.toList = dots ++ '.' :: "job".toList) :
      stem = dots ↔ name = known := by
    rw [← String.toList_inj, named.1, whole, List.append_left_inj]
  have one {name : String} {stem : List Char} (named : JobName name stem) :
      stem = ['.'] ↔ name = "..job" := dots named ['.'] _ rfl
  have two {name : String} {stem : List Char} (named : JobName name stem) :
      stem = ['.', '.'] ↔ name = "...job" := dots named ['.', '.'] _ rfl
  rw [Twins, ← one named, ← two named, ← one named', ← two named', named.eq_iff named', kept, kept]
  by_cases first : stem = ['.']
  · by_cases second : stem' = ['.']
    · simp [first, second]
    · simp [first, second, eq_comm]
  · by_cases second : stem' = ['.']
    · simp [first, second]
    · simp [first, second]

theorem outputName_eq_iff {stem' : List Char} :
    outputName stem = outputName stem' ↔ stem = stem' := by
  constructor
  · intro same
    -- two dots are too short for a name with an extension
    have length := congrArg List.length same
    unfold outputName at same length
    split at same
    · next first =>
      split at same
      · next second => exact first.trans second.symm
      · next second => simp [first, second] at length
    · next first =>
      split at same
      · next second => simp [first, second] at length
      · exact List.append_cancel_right same
  · rintro rfl
    rfl

theorem outputName_ne_backupName (stem stem' : List Char) (number : Nat) :
    outputName stem ≠ backupName stem' number := by
  have last : (backupName stem' number).getLast? = some 'k' := by
    rw [backupName, List.getLast?_append]
    rfl
  intro same
  rw [← same, outputName] at last
  split at last
  · cases last
  · rw [List.getLast?_append] at last
    cases last

theorem isJob_output {path : String} (ends : front.getLast? = some '/') (flat : '/' ∉ stem)
    (some : stem ≠ []) (whole : path.toList = front ++ outputName stem) : isJob path = false := by
  rw [isJob, whole, outputName]
  split
  · have unnamed : name? (front ++ ['.', '.']) = none := by
      rw [name?, split_append ends (by decide) (by decide) (by decide)]
      rfl
    rw [extension?, unnamed]
    rfl
  · rw [extension?_append_of_dot ends some (by simpa using flat) (by decide) (by decide)]
    decide

theorem isJob_backup {path : String} {number : Nat} (ends : front.getLast? = some '/')
    (flat : '/' ∉ stem) (whole : path.toList = front ++ backupName stem number) :
    isJob path = false := by
  have flatKept : '/' ∉ kept stem := by
    unfold kept
    split
    · decide
    · exact flat
  have digits := not_mem_toDigits (show '/'.isDigit = false from rfl) number
  rw [isJob, whole, backupName, extension?_append_of_dot ends (by simp)
    (by simpa [flatKept] using digits) (by decide) (by decide)]
  decide

/-- **The files of jobs are apart,** in every directory and for any two names of job scripts in it.
Outputs are different for different jobs. Backups are different for different jobs and for different
numbers, but for the one pair of jobs whose stems are a dot and two dots. No output is a backup, and
no file that a job writes is a job script. -/
theorem files_apart (directory first second : String) (number other : Nat)
    (plain : IsFileName first) (plain' : IsFileName second)
    (isJob : isJob (join directory first) = true)
    (isJob' : Path.isJob (join directory second) = true) :
    (output (join directory first) = output (join directory second) ↔ first = second)
      ∧ (backup (join directory first) number = backup (join directory second) other
        ↔ (first = second ∨ Twins first second) ∧ number = other)
      ∧ output (join directory first) ≠ backup (join directory second) other
      ∧ Path.isJob (output (join directory first)) = false
      ∧ Path.isJob (backup (join directory first) number) = false := by
  obtain ⟨front, ends, whole⟩ := exists_front directory
  obtain ⟨stem, named⟩ := exists_jobName plain isJob
  obtain ⟨stem', named'⟩ := exists_jobName plain' isJob'
  have output := toList_output ends (whole first) named
  have output' := toList_output ends (whole second) named'
  have backup := toList_backup ends (whole first) named number
  have backup' := toList_backup ends (whole second) named' other
  refine ⟨?_, ?_, ?_, ?_, ?_⟩
  · rw [← String.toList_inj, output, output', List.append_right_inj, outputName_eq_iff,
      named.eq_iff named']
  · have dash := @not_mem_toDigits '-' rfl
    rw [← String.toList_inj, backup, backup', List.append_right_inj, backupName, backupName,
      List.append_left_inj, append_mark_inj (dash number) (dash other), kept_eq_iff named named',
      toDigits_inj]
  · intro same
    rw [← String.toList_inj, output, backup', List.append_right_inj] at same
    exact outputName_ne_backupName stem stem' other same
  · exact isJob_output ends named.2.2 named.2.1 output
  · exact isJob_backup ends named.2.2 backup

/-- A dash and a digit in a stem are not taken for a number. -/
theorem files_apart_dashed_stem :
    IsFileName "a.job" ∧ IsFileName "a-1.job" ∧ isJob (join "jobs" "a.job") = true
      ∧ isJob (join "jobs" "a-1.job") = true
      ∧ backup (join "jobs" "a.job") 11 ≠ backup (join "jobs" "a-1.job") 1
      ∧ output (join "jobs" "a.job") ≠ output (join "jobs" "a-1.job") := by
  have plain : IsFileName "a.job" := ⟨by decide, by decide⟩
  have plain' : IsFileName "a-1.job" := ⟨by decide, by decide⟩
  have isJob : isJob (join "jobs" "a.job") = true := by decide
  have isJob' : Path.isJob (join "jobs" "a-1.job") = true := by decide
  obtain ⟨outputs, backups, -⟩ :=
    files_apart "jobs" "a.job" "a-1.job" 11 1 plain plain' isJob isJob'
  refine ⟨plain, plain', isJob, isJob', fun same => ?_, fun same => ?_⟩
  · exact absurd (backups.1 same).2 (by decide)
  · exact absurd (outputs.1 same) (by decide)

/-- **Two jobs, one backup:** what is left of `..job` without its extension names no file, and what
is left of `...job` without its own is the same. -/
theorem backup_twins :
    IsFileName "..job" ∧ IsFileName "...job" ∧ isJob (join "jobs" "..job") = true
      ∧ isJob (join "jobs" "...job") = true ∧ "..job" ≠ "...job"
      ∧ backup (join "jobs" "..job") 1 = backup (join "jobs" "...job") 1 := by
  unfold IsFileName
  decide +kernel

end Path
end KeyWatch
