/-
# CommandLine.Usage -- what a program expects on its command line

A program has places, which are filled in order, and choices, which are named: by `--long value`,
`--long=value`, `-s value`, `-svalue` or `-s=value`. Arguments are read from the left and each is
checked as it is read, so what comes first decides: a call for help before a mistake is answered,
one behind it is not. A choice is made at most once; `--` makes everything after it a place.
-/
import KeyWatch.Text.Lines
import KeyWatch.Text.Numeral

namespace KeyWatch.CommandLine

set_option autoImplicit false

/-- What the text at a place has to be. -/
inductive PlaceKind where
  | text
  /-- Anything but the empty text. -/
  | path
  | count
  deriving Repr, DecidableEq

/-- An argument that is told by its place. -/
structure Place where
  label : String
  about : String
  kind : PlaceKind
  isRequired : Bool := true
  deriving Repr

/-- A number that is told by a name. -/
structure Choice where
  long : String
  short : Option Char := none
  about : String
  standard : Nat
  deriving Repr

structure Usage where
  program : String
  about : String
  places : List Place
  choices : List Choice := []
  version : Option String := none
  deriving Repr

inductive Stop where
  | help
  | version
  | misuse
  deriving Repr, DecidableEq

def Stop.status : Stop → Nat
  | .help | .version => 0
  | .misuse => 2

structure Given where
  places : List String := []
  choices : List (String × Nat) := []
  deriving Repr, DecidableEq

def count? (text : String) : Option Nat := Text.decimal? Text.maxWord text.toList

def PlaceKind.admits (kind : PlaceKind) (text : String) : Bool :=
  match kind with
  | .text => true
  | .path => text != ""
  | .count => (count? text).isSome

/-- The number chosen for a name, or the one that stands if none is. -/
def Given.choice (given : Given) (choice : Choice) : Nat :=
  (given.choices.lookup choice.long).getD choice.standard

namespace Usage

/-! ## Reading -/

def fill (usage : Usage) (given : Given) (text : String) : Except Stop Given :=
  match usage.places[given.places.length]? with
  | none => .error .misuse
  | some place =>
    if place.kind.admits text then .ok { given with places := given.places ++ [text] }
    else .error .misuse

def choose (given : Given) (choice : Choice) (text : List Char) : Except Stop Given :=
  match count? (String.ofList text) with
  | none => .error .misuse
  | some number =>
    if (given.choices.lookup choice.long).isSome then .error .misuse
    else .ok { given with choices := given.choices ++ [(choice.long, number)] }

inductive Named where
  | stop (stop : Stop)
  /-- A choice, with its number if it was given in the same argument. -/
  | choice (choice : Choice) (text : Option (List Char))
  deriving Repr

def long (usage : Usage) (text : List Char) : Named :=
  let (name, value) := match Text.cutAt '=' text with
    | none => (String.ofList text, none)
    | some (name, value) => (String.ofList name, some value)
  match usage.choices.find? (·.long == name) with
  | some choice => .choice choice value
  | none =>
    if value.isSome then .stop .misuse
    else if name = "help" then .stop .help
    else if name = "version" ∧ usage.version.isSome then .stop .version
    else .stop .misuse

def short (usage : Usage) (letter : Char) (text : List Char) : Named :=
  match usage.choices.find? (·.short == some letter) with
  | some choice =>
    match text with
    | [] => .choice choice none
    | '=' :: value => .choice choice (some value)
    | value => .choice choice (some value)
  | none =>
    if letter = 'h' then .stop .help
    else if letter = 'V' ∧ usage.version.isSome then .stop .version
    else .stop .misuse

/-- Read arguments; `awaited` is a choice whose number is to come next. -/
def readAll (usage : Usage) (given : Given) (awaited : Option Choice) :
    List String → Except Stop Given
  | [] => if awaited.isSome then .error .misuse else .ok given
  | argument :: rest =>
    let named (named : Named) : Except Stop Given :=
      match named with
      | .stop stop => .error stop
      | .choice choice none => usage.readAll given (some choice) rest
      | .choice choice (some text) => do usage.readAll (← choose given choice text) none rest
    match awaited, argument.toList with
    | some _, '-' :: _ :: _ => .error .misuse
    | some choice, text => do usage.readAll (← choose given choice text) none rest
    | none, ['-', '-'] => rest.foldlM usage.fill given
    | none, '-' :: '-' :: text => named (usage.long text)
    | none, '-' :: letter :: text => named (usage.short letter text)
    | none, _ => do usage.readAll (← usage.fill given argument) none rest

def read (usage : Usage) (arguments : List String) : Except Stop Given := do
  let given ← usage.readAll {} none arguments
  if given.places.length < (usage.places.filter (·.isRequired)).length then throw .misuse
  return given

/-! ## Help -/

def placeLabel (place : Place) : String :=
  if place.isRequired then "<" ++ place.label ++ ">" else "[" ++ place.label ++ "]"

/-- A choice as the help shows it: the name of its number is its own in capitals. -/
def choiceLabel (choice : Choice) : String :=
  let number := choice.long.map fun c => if c = '-' then '_' else c.toUpper
  let letter := match choice.short with
    | some letter => "-" ++ String.singleton letter ++ ", "
    | none => "    "
  letter ++ "--" ++ choice.long ++ " <" ++ number ++ ">"

def rows (entries : List (String × String)) : String :=
  let width := (entries.map (·.1.length)).foldl max 0
  String.join (entries.map fun (label, about) =>
    "  " ++ label ++ String.ofList (List.replicate (width - label.length) ' ') ++ "  " ++ about
      ++ "\n")

def summary (usage : Usage) : String :=
  "Usage: " ++ usage.program ++ (if usage.choices.isEmpty then "" else " [OPTIONS]")
    ++ String.join (usage.places.map fun place => " " ++ placeLabel place) ++ "\n"

def help (usage : Usage) : String :=
  let places := usage.places.map fun place => (placeLabel place, place.about)
  let choices := usage.choices.map fun choice =>
    (choiceLabel choice, choice.about ++ " [default: " ++ toString choice.standard ++ "]")
  let always := ("-h, --help", "Print help")
    :: (if usage.version.isSome then [("-V, --version", "Print version")] else [])
  usage.about ++ "\n\n" ++ usage.summary ++ "\nArguments:\n" ++ rows places ++ "\nOptions:\n"
    ++ rows (choices ++ always)

def printed (usage : Usage) : Stop → String
  | .help => usage.help
  | .version => usage.program ++ " " ++ usage.version.getD "" ++ "\n"
  | .misuse => ""

end Usage

end KeyWatch.CommandLine
