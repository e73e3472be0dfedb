/-
# Command.Line -- the common shape of command lines

Job scripts and clients write one command in a line. A line counts without the blanks around it;
an empty line and one that starts with `#` hold no command. The command's word ends before the
first blank or opening bracket, and its arguments are what follows, again without the blanks
around them. A list of arguments stands between brackets.
-/
import KeyWatch.Command.Fault
import KeyWatch.Text.Blank
import KeyWatch.Text.Lines

namespace KeyWatch.Command

set_option autoImplicit false

/-- A line that holds no command; the blanks around it are gone already. -/
def isSilent : List Char → Bool
  | [] => true
  | c :: _ => c == '#'

/-- Whether a character ends the word of a command. -/
def endsWord (c : Char) : Bool := Text.isBlank c || c == '['

def word (line : List Char) : List Char := line.takeWhile (!endsWord ·)

/-- What follows the word of a line, without the blanks around it. -/
def arguments (line : List Char) : List Char := Text.trim (line.dropWhile (!endsWord ·))

/-- What stands between the brackets that a text starts and ends with, without the blanks around
it. A single character cannot be both brackets. -/
def bracketed? : List Char → Option (List Char)
  | '[' :: rest => if rest.getLast? = some ']' then some (Text.trim rest.dropLast) else none
  | _ => none

/-! ## Laws -/

theorem word_append_dropWhile (line : List Char) :
    word line ++ line.dropWhile (!endsWord ·) = line :=
  List.takeWhile_append_dropWhile

theorem bracketed?_eq_some_iff (text inner : List Char) :
    bracketed? text = some inner ↔ ∃ body, text = '[' :: body ++ [']'] ∧ inner = Text.trim body := by
  constructor
  · intro found
    unfold bracketed? at found
    split at found
    · next rest =>
      split at found
      · next last =>
        obtain ⟨body, rfl⟩ := List.getLast?_eq_some_iff.1 last
        refine ⟨body, rfl, ?_⟩
        simpa using found.symm
      · cases found
    · cases found
  · rintro ⟨body, rfl, rfl⟩
    simp [bracketed?]

end KeyWatch.Command
