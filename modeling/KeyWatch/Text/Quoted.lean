/-
# Text.Quoted -- a text inside a message

`quote` puts a text between double quotes such that it can be read off a single line: a quote, a
backslash and the four common controls get a backslash, every other unprintable character is
written by its code point as `\u{hex}`, all else stands as it is. Quoting goes character by
character (`quote_append`), so a quotation says the same of a part of a text wherever it stands.
-/
import KeyWatch.Text.Numeral
import KeyWatch.Text.Unprintable

namespace KeyWatch.Text

set_option autoImplicit false

/-- A character as it is written inside a quotation. -/
def quoteChar (c : Char) : List Char :=
  if c = '\x00' then ['\\', '0']
  else if c = '\t' then ['\\', 't']
  else if c = '\r' then ['\\', 'r']
  else if c = '\n' then ['\\', 'n']
  else if c = '"' then ['\\', '"']
  else if c = '\\' then ['\\', '\\']
  else if isUnprintable c then ['\\', 'u', '\x7b'] ++ Nat.toDigits 16 c.toNat ++ ['\x7d']
  else [c]

/-- The text between double quotes, fit for one line of a message. -/
def quote (text : String) : String :=
  String.ofList ('"' :: text.toList.flatMap quoteChar ++ ['"'])

theorem quote_append (first second : String) :
    (quote (first ++ second)).toList
      = '"' :: first.toList.flatMap quoteChar ++ second.toList.flatMap quoteChar ++ ['"'] := by
  simp [quote]

end KeyWatch.Text
