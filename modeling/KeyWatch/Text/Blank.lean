/-
# Text.Blank -- blank characters and trimming

A blank is a character with the Unicode property White_Space. `trim` drops the blanks at both
ends of a text and nothing else: `trimEnd_append_blank` and `trim_cons_blank` say that a blank at an
end does not count, `trim_eq_self` that a text whose ends are not blank is left alone.
-/

namespace KeyWatch.Text

set_option autoImplicit false

/-- The Unicode property White_Space. -/
def isBlank (c : Char) : Bool :=
  let n := c.toNat
  (0x09 ≤ n && n ≤ 0x0D) || n == 0x20 || n == 0x85 || n == 0xA0 || n == 0x1680
    || (0x2000 ≤ n && n ≤ 0x200A) || n == 0x2028 || n == 0x2029 || n == 0x202F || n == 0x205F
    || n == 0x3000

/-- The text without the blanks it starts with. -/
def trimStart (text : List Char) : List Char := text.dropWhile isBlank

/-- The text without the blanks it ends with. -/
def trimEnd (text : List Char) : List Char := (text.reverse.dropWhile isBlank).reverse

def trim (text : List Char) : List Char := trimEnd (trimStart text)

/-! ## Laws -/

theorem trim_cons_blank (c : Char) (text : List Char) (blank : isBlank c = true) :
    trim (c :: text) = trim text := by
  simp [trim, trimStart, blank]

theorem trimEnd_append_blank (text : List Char) (c : Char) (blank : isBlank c = true) :
    trimEnd (text ++ [c]) = trimEnd text := by
  simp [trimEnd, blank]

/-- A text that is empty or starts and ends with something else than a blank is its own trim. -/
theorem trim_eq_self (text : List Char) (starts : ∀ c, text.head? = some c → isBlank c = false)
    (ends : ∀ c, text.getLast? = some c → isBlank c = false) : trim text = text := by
  have start : trimStart text = text := by
    cases text with
    | nil => rfl
    | cons c rest => simp [trimStart, starts c rfl]
  rw [trim, start, trimEnd]
  cases reversed : text.reverse with
  | nil => simpa using congrArg List.reverse reversed
  | cons c rest =>
    have last : text.getLast? = some c := by
      rw [← List.head?_reverse, reversed]; rfl
    rw [List.dropWhile_cons_of_neg (by simp [ends c last]), ← reversed, List.reverse_reverse]

end KeyWatch.Text
