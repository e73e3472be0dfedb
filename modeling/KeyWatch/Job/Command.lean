/-
# Job.Command -- the commands of a job script

    WRITE [(key,value)(key2,value2)]
    READ [key,key2]
    DELETE [key,key2]
    SHOW
    WAIT <delay_ms>
    BACKUP
    HELP

`Job.Command.parse` reads one line. Pairs may be set apart by any blanks and commas; a key ends at
the first comma of its pair, a value at the first closing parenthesis, and blanks around either do
not count. Of several faults in a line the first one from the left is named.
-/
import KeyWatch.Command.Line
import KeyWatch.Text.Numeral

namespace KeyWatch.Job

set_option autoImplicit false

inductive Command where
  | write (pairs : List (String × String))
  | read (keys : List String)
  | delete (keys : List String)
  | showAll
  | wait (milliseconds : Nat)
  | backup
  | help
  deriving Repr, DecidableEq

def commandList : String :=
  "Available commands:\n"
    ++ "  WRITE [(key,value)(key2,value2),...]\n"
    ++ "  READ [key,key2,...]\n"
    ++ "  DELETE [key,key2,...]\n"
    ++ "  SHOW\n"
    ++ "  WAIT <delay_ms>\n"
    ++ "  BACKUP\n"
    ++ "  HELP\n"

namespace Command

/-- The arguments of a command that takes a list. -/
def list (text : List Char) : Except SyntaxFault (List Char) :=
  match KeyWatch.Command.bracketed? text with
  | some inner => .ok inner
  | none => .error (.listExpected (String.ofList text))

def key (piece : List Char) : Except SyntaxFault String :=
  match Text.trim piece with
  | [] => .error .emptyKey
  | key => .ok (String.ofList key)

def keys (text : List Char) : Except SyntaxFault (List String) := do
  let inner ← list text
  if inner = [] then throw .emptyKeyList
  (Text.pieces ',' inner).mapM key

/-- The text from the next pair on. -/
def skipToPair (text : List Char) : List Char :=
  text.dropWhile fun c => Text.isBlank c || c == ','

/-- The key and value of a pair, which stood between parentheses. -/
def pair (inside : List Char) : Except SyntaxFault (String × String) :=
  match Text.cutAt ',' inside with
  | none => .error (.pairWithoutValue (String.ofList inside))
  | some (key, value) =>
    match Text.trim key, Text.trim value with
    | [], _ => .error .emptyPairPart
    | _, [] => .error .emptyPairPart
    | key, value => .ok (String.ofList key, String.ofList value)

theorem length_skipToPair (text : List Char) : (skipToPair text).length ≤ text.length := by
  unfold skipToPair
  induction text with
  | nil => simp
  | cons c rest ih => rw [List.dropWhile_cons]; split <;> simp; omega

set_option linter.unusedVariables false in
/-- The pairs of a text, up to its end. -/
def pairsIn (text : List Char) : Except SyntaxFault (List (String × String)) :=
  match next : skipToPair text with
  | [] => .ok []
  | '(' :: body =>
    match cut : Text.cutAt ')' body with
    | none => .error .unterminatedPair
    | some (inside, rest) => do
      let first ← pair inside
      let more ← pairsIn rest
      return first :: more
  | other => .error (.pairExpected (String.ofList other))
  termination_by text.length
  decreasing_by
    have shorter := Text.cutAt_length cut
    have skipped := length_skipToPair text
    rw [next, List.length_cons] at skipped
    omega

def pairs (text : List Char) : Except SyntaxFault (List (String × String)) := do
  let found ← pairsIn (← list text)
  if found = [] then throw .emptyPairList
  return found

/-- A command that stands alone. -/
def alone (command : Command) : List Char → Except SyntaxFault Command
  | [] => .ok command
  | text => .error (.unexpectedArguments (String.ofList text))

def delay (text : List Char) : Except SyntaxFault Nat :=
  match Text.decimal? Text.maxWord text with
  | some milliseconds => .ok milliseconds
  | none => .error (.waitExpected (String.ofList text))

def ofWord (word : String) (arguments : List Char) : Except SyntaxFault Command :=
  match word with
  | "WRITE" => (pairs arguments).map .write
  | "READ" => (keys arguments).map .read
  | "DELETE" => (keys arguments).map .delete
  | "SHOW" => alone .showAll arguments
  | "BACKUP" => alone .backup arguments
  | "HELP" => alone .help arguments
  | "WAIT" => (delay arguments).map .wait
  | word => .error (.unknownCommand word)

/-- Read a line; `none` for a line that holds no command. -/
def parse (text : String) : Except SyntaxFault (Option Command) :=
  let line := Text.trim text.toList
  if KeyWatch.Command.isSilent line then .ok none
  else
    (ofWord (String.ofList (KeyWatch.Command.word line)) (KeyWatch.Command.arguments line)).map some

end Command

end KeyWatch.Job
