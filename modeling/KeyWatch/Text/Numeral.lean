/-
# Text.Numeral -- numbers as they are written

Reading: `decimal?` takes an optional single `+` and then one or more ASCII digits, leading zeros
allowed, and refuses a value above the given bound. Writing: `hex` is lower case without leading
zeros, `hexByte` has exactly two digits.
-/

namespace KeyWatch.Text

set_option autoImplicit false

/-- The greatest number that fits 64 bits. -/
def maxWord : Nat := UInt64.size - 1

/-- The value of a text of ASCII digits, most significant first; `none` for any other character. -/
def digits? (text : List Char) : Option Nat :=
  text.foldlM
    (fun value c => if '0' ≤ c ∧ c ≤ '9' then some (10 * value + (c.toNat - '0'.toNat)) else none) 0

/-- The text after a single leading `+`, if it has one. -/
def dropPlus : List Char → List Char
  | '+' :: rest => rest
  | text => text

/-- A decimal number of at most `bound`. -/
def decimal? (bound : Nat) (text : List Char) : Option Nat :=
  match dropPlus text with
  | [] => none
  | digits => (digits? digits).filter (· ≤ bound)

/-- Lower-case hexadecimal digits without leading zeros; zero is `0`. -/
def hex (n : Nat) : String := String.ofList (Nat.toDigits 16 n)

def hexByte (byte : UInt8) : String :=
  if byte < 16 then "0" ++ hex byte.toNat else hex byte.toNat

end KeyWatch.Text
