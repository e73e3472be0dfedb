/-
# Files.Path -- file names and extensions

The name of a path is its last part, slashes and `/.` at its end left aside; `.` and `..` are no
names. The extension of a name is what follows its last dot, unless nothing stands before that
dot, and the stem is what stands before it. The output of a job takes the place of its extension,
and its backups are numbered after its stem.
-/

namespace KeyWatch.Path

set_option autoImplicit false

/-- A path read backwards, without what counts for nothing at its end. -/
def dropTail : List Char → List Char
  | '/' :: rest => dropTail rest
  | '.' :: '/' :: rest => dropTail rest
  | path => path

/-- A path cut before its name. -/
def split (path : List Char) : List Char × List Char :=
  let tail := dropTail path.reverse
  ((tail.dropWhile (· != '/')).reverse, (tail.takeWhile (· != '/')).reverse)

/-- Whether the last part of a path names a file. -/
def isName (part : List Char) : Bool :=
  part != [] && part != ['.'] && part != ['.', '.']

/-- A name cut at its last dot: the stem, and the extension if the name has one. -/
def splitName (name : List Char) : List Char × Option (List Char) :=
  let backwards := name.reverse
  let extension := (backwards.takeWhile (· != '.')).reverse
  match (backwards.dropWhile (· != '.')).reverse with
  | [] => (name, none)
  | ['.'] => (name, none)
  | upToDot => (upToDot.dropLast, some extension)

def name? (path : List Char) : Option (List Char) :=
  let name := (split path).2
  if isName name then some name else none

def extension? (path : List Char) : Option (List Char) :=
  name? path >>= fun name => (splitName name).2

/-- The path up to the stem of its name, with an extension. A path without a name stays as it
is. -/
def replaceExtension (path extension : List Char) : List Char :=
  match name? path with
  | none => path
  | some name =>
    let stem := (split path).1 ++ (splitName name).1
    if extension = [] then stem else stem ++ '.' :: extension

/-- The path with another extension: the old one is taken off the end, and the new one follows the
stem of what is left. -/
def withExtension (path extension : List Char) : List Char :=
  match extension? path with
  | none => replaceExtension path extension
  | some old => replaceExtension (path.take (path.length - old.length)) extension

/-- A part put behind a directory. -/
def join (directory name : String) : String :=
  if directory.toList.getLast? = some '/' then directory ++ name else directory ++ "/" ++ name

/-! ## Jobs -/

def isJob (path : String) : Bool := extension? path.toList == some "job".toList

def output (job : String) : String := String.ofList (withExtension job.toList "out".toList)

def backup (job : String) (number : Nat) : String :=
  String.ofList (withExtension job.toList []) ++ "-" ++ toString number ++ ".bck"

end KeyWatch.Path
