/-
# Files.Basic -- a tree of files, directories and pipes

Files are kept by the full list of the names that lead to them; the root is the empty list and
always a directory. A path is walked part by part from the working directory, or from the root if
it starts with a slash: every part but the last has to lead to a directory, `.` stays and `..`
goes up. What the last part may be depends on what is asked: to read, to create, to remove. Each
operation changes at most the place that its path leads to.
-/
import KeyWatch.Stream.Fault
import KeyWatch.Text.Lines

namespace KeyWatch

set_option autoImplicit false

inductive FileNode where
  | file (contents : Bytes)
  | directory
  | pipe
  deriving Repr, DecidableEq

/-- A tree of files, and the directory in which paths start. -/
structure Files where
  nodes : List (List String × FileNode) := []
  workingDir : List String := []
  deriving Repr, DecidableEq

namespace Files

def maxName : Nat := 255

def maxPath : Nat := 4095

def node? (files : Files) (place : List String) : Option FileNode :=
  if place = [] then some .directory
  else (files.nodes.find? (·.1 == place)).map (·.2)

/-- Put a node at a place, instead of what was there. -/
def put (files : Files) (place : List String) (node : FileNode) : Files :=
  { files with nodes := files.nodes.filter (·.1 != place) ++ [(place, node)] }

/-- Put a node where the parts of a path lead from a place, and make the directories on the way. -/
def plant (files : Files) (place : List String) (node : FileNode) : List String → Files
  | [] => files
  | part :: more =>
      if part = "" ∨ part = "." then files.plant place node more
      else if part = ".." then files.plant place.dropLast node more
      else if more = [] then files.put (place ++ [part]) node
      else (files.put (place ++ [part]) .directory).plant (place ++ [part]) node more

def clear (files : Files) (place : List String) : Files :=
  { files with nodes := files.nodes.filter (·.1 != place) }

/-- Where the last part of a path leads. -/
inductive Target where
  /-- A name in a directory; `closed` if a slash follows, which only a directory may have. -/
  | entry (place : List String) (closed : Bool)
  | directory (place : List String)
  deriving Repr, DecidableEq

/-- Go from one directory through a part that has to be a directory. -/
def enter (files : Files) (place : List String) (part : String) :
    Except IoFault (List String) :=
  if part = "." then .ok place
  else if part = ".." then .ok place.dropLast
  else if maxName < part.utf8ByteSize then .error (.system .nameTooLong)
  else
    match files.node? (place ++ [part]) with
    | some .directory => .ok (place ++ [part])
    | some _ => .error (.system .notDirectory)
    | none => .error (.system .noEntry)

def walk (files : Files) (place : List String) (closed : Bool) :
    List String → Except IoFault Target
  | [] => .ok (.directory place)
  | [part] =>
      if part = "." then .ok (.directory place)
      else if part = ".." then .ok (.directory place.dropLast)
      else .ok (.entry (place ++ [part]) closed)
  | part :: more => do walk files (← files.enter place part) closed more

def target (files : Files) (path : String) : Except IoFault Target :=
  let text := path.toList
  if '\x00' ∈ text then .error .nulInName
  else if text = [] then .error (.system .noEntry)
  else if maxPath < path.utf8ByteSize then .error (.system .nameTooLong)
  else
    let start := if text.head? = some '/' then [] else files.workingDir
    let parts := ((Text.pieces '/' text).filter (· != [])).map String.ofList
    files.walk start (text.getLast? == some '/') parts

/-- Look up a name that may be missing. -/
def lookup (files : Files) (place : List String) : Except IoFault (Option FileNode) :=
  if maxName < (place.getLast?.getD "").utf8ByteSize then .error (.system .nameTooLong)
  else .ok (files.node? place)

/-- What a path leads to, with its place. -/
def open? (files : Files) (path : String) : Except IoFault (List String × FileNode) := do
  match ← files.target path with
  | .directory place => return (place, .directory)
  | .entry place closed =>
    match ← files.lookup place with
    | none => throw (.system .noEntry)
    | some .directory => return (place, .directory)
    | some node => if closed then throw (.system .notDirectory) else return (place, node)

def openForWriting (files : Files) (path : String) : Except IoFault (List String × FileNode) := do
  match ← files.open? path with
  | (_, .directory) => throw (.system .isDirectory)
  | found => return found

/-- Make an empty file, or empty the one that is there. Answers its place. -/
def create (files : Files) (path : String) : Except IoFault (List String × Files) := do
  match ← files.target path with
  | .directory _ => throw (.system .isDirectory)
  | .entry _ true => throw (.system .isDirectory)
  | .entry place false =>
    match ← files.lookup place with
    | some .directory => throw (.system .isDirectory)
    | some .pipe => return (place, files)
    | _ => return (place, files.put place (.file []))

/-- Replace the contents of the file at a place. -/
def write (files : Files) (place : List String) (contents : Bytes) : Files :=
  files.put place (.file contents)

/-- Make a file with these contents, or replace the contents of the one that is there. -/
def save (files : Files) (path : String) (contents : Bytes) : Except IoFault Files := do
  let (place, files) ← files.create path
  return files.write place contents

def remove (files : Files) (path : String) : Except IoFault Files := do
  match ← files.target path with
  | .directory _ => throw (.system .isDirectory)
  | .entry place closed =>
    match ← files.lookup place with
    | none => throw (.system .noEntry)
    | some .directory => throw (.system .isDirectory)
    | some _ => if closed then throw (.system .notDirectory) else return files.clear place

def makeDirectory (files : Files) (path : String) : Except IoFault Files := do
  match ← files.target path with
  | .directory _ => throw (.system .fileExists)
  | .entry place _ =>
    match ← files.lookup place with
    | some _ => throw (.system .fileExists)
    | none => return files.put place .directory

/-- The names in the directory at a place, with what they name, in byte order. -/
def namesIn (files : Files) (place : List String) : List (String × FileNode) :=
  let inside := files.nodes.filterMap fun (found, node) =>
    if found ≠ [] ∧ found.dropLast = place then some (found.getLast?.getD "", node) else none
  inside.mergeSort fun first second => decide (first.1 ≤ second.1)

def list (files : Files) (path : String) : Except IoFault (List (String × FileNode)) := do
  match ← files.open? path with
  | (place, .directory) => return files.namesIn place
  | _ => throw (.system .notDirectory)

/-! ## Named pipes -/

/-- Make a pipe, instead of whatever file or pipe was there. -/
def makePipe (files : Files) (path : String) : Except IoFault Files := do
  let cleared ←
    match files.remove path with
    | .ok cleared => pure cleared
    | .error (.system .noEntry) => pure files
    | .error fault => throw fault
  match ← cleared.target path with
  | .directory _ => throw (.system .fileExists)
  | .entry _ true => throw (.system .noEntry)
  | .entry place false =>
    match ← cleared.lookup place with
    | some _ => throw (.system .fileExists)
    | none => return cleared.put place .pipe

/-- Remove a pipe; a missing one is no fault. -/
def removePipe (files : Files) (path : String) : Except IoFault Files :=
  match files.remove path with
  | .error (.system .noEntry) => .ok files
  | result => result

end Files

end KeyWatch
