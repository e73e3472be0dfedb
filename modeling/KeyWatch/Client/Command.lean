/-
# Client.Command -- the commands of a client

    SUBSCRIBE [key]
    UNSUBSCRIBE [key]
    DELAY <ms>
    DISCONNECT

`Client.Command.parse` reads one line of a client's input; lines are shaped as those of a job
script, but the brackets hold exactly one key.
-/
import KeyWatch.Command.Line
import KeyWatch.Text.Numeral

namespace KeyWatch.Client

set_option autoImplicit false

inductive Command where
  | subscribe (key : String)
  | unsubscribe (key : String)
  | delay (milliseconds : Nat)
  | disconnect
  deriving Repr, DecidableEq

namespace Command

def key (text : List Char) : Except SyntaxFault String :=
  match KeyWatch.Command.bracketed? text with
  | none => .error (.keyExpected (String.ofList text))
  | some inner =>
    if inner = [] ∨ ',' ∈ inner then .error (.oneKeyExpected (String.ofList inner))
    else .ok (String.ofList inner)

def milliseconds (text : List Char) : Except SyntaxFault Nat :=
  match Text.decimal? Text.maxWord text with
  | some milliseconds => .ok milliseconds
  | none => .error (.delayExpected (String.ofList text))

/-- Read a line; `none` for a line that holds no command. -/
def parse (text : String) : Except SyntaxFault (Option Command) :=
  let line := Text.trim text.toList
  if KeyWatch.Command.isSilent line then .ok none
  else
    let arguments := KeyWatch.Command.arguments line
    match String.ofList (KeyWatch.Command.word line) with
    | "SUBSCRIBE" => (key arguments).map (some ∘ .subscribe)
    | "UNSUBSCRIBE" => (key arguments).map (some ∘ .unsubscribe)
    | "DELAY" => (milliseconds arguments).map (some ∘ .delay)
    | "DISCONNECT" =>
      if arguments = [] then .ok (some .disconnect)
      else .error (.invalidCommand (String.ofList line))
    | _ => .error (.invalidCommand (String.ofList line))

end Command

end KeyWatch.Client
