/-
# Text.Lines -- bytes cut into lines, and texts cut at a separator

`lines` cuts at each line feed, which it drops together with one carriage return before it. Bytes
after the last line feed are a line of their own, without anything dropped; no bytes are no line.
`pieces` cuts a text at every separator, and always gives at least one piece.
-/
import KeyWatch.Text.Utf8

namespace KeyWatch.Text

set_option autoImplicit false

/-- A line read backwards, without a carriage return at its end. -/
def dropReturn : Bytes → Bytes
  | 13 :: line => line
  | line => line

/-- The lines of bytes that follow `read`, the last bytes of an open line read backwards. -/
def linesAfter (read : Bytes) : Bytes → List Bytes
  | [] => if read.isEmpty then [] else [read.reverse]
  | byte :: rest =>
      if byte = 10 then (dropReturn read).reverse :: linesAfter [] rest
      else linesAfter (byte :: read) rest

def lines (bytes : Bytes) : List Bytes := linesAfter [] bytes

/-- The pieces of a text between the separators. -/
def pieces (separator : Char) : List Char → List (List Char)
  | [] => [[]]
  | c :: rest =>
      if c = separator then [] :: pieces separator rest
      else
        match pieces separator rest with
        | [] => [[c]]
        | piece :: more => (c :: piece) :: more

/-- The text before the first `mark` and the text after it. -/
def cutAt (mark : Char) : List Char → Option (List Char × List Char)
  | [] => none
  | c :: rest =>
      if c = mark then some ([], rest)
      else (cutAt mark rest).map fun cut => (c :: cut.1, cut.2)

/-! ## Laws -/

theorem pieces_ne_nil (separator : Char) (text : List Char) : pieces separator text ≠ [] := by
  cases text with
  | nil => simp [pieces]
  | cons c rest =>
    rw [pieces]
    split
    · simp
    · split <;> simp

/-- **A cut loses only its mark.** Both parts stand around it, and the first one is free of it. -/
theorem cutAt_eq_some {mark : Char} {text before after : List Char}
    (cut : cutAt mark text = some (before, after)) :
    text = before ++ mark :: after ∧ mark ∉ before := by
  induction text generalizing before with
  | nil => simp [cutAt] at cut
  | cons c rest ih =>
    rw [cutAt] at cut
    split at cut
    · next same => simp only [Option.some.injEq, Prod.mk.injEq] at cut; simp [← cut.1, ← cut.2, same]
    · next differs =>
      obtain ⟨⟨first, second⟩, found, pair⟩ := Option.map_eq_some_iff.1 cut
      simp only [Prod.mk.injEq] at pair
      obtain ⟨rfl, rfl⟩ := pair
      obtain ⟨joined, free⟩ := ih found
      exact ⟨by rw [joined]; rfl, by simp [free, Ne.symm differs]⟩

theorem cutAt_length {mark : Char} {text before after : List Char}
    (cut : cutAt mark text = some (before, after)) : after.length < text.length := by
  rw [(cutAt_eq_some cut).1]; simp; omega

end KeyWatch.Text
