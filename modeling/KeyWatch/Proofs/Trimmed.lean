/-
# Proofs.Trimmed -- texts without the blanks around them

Every text is a tight one with blanks around it, in one way only (`Text.trims_iff`); so whatever is
trimmed can be looked at as such a text. Blanks around a text that is trimmed later do not count:
neither before or behind the whole (`trim_append_left`, `trim_append_right`), nor around what is cut
into pieces which are trimmed one by one (`map_trim_pieces_trim`).

A line of a command is its word, a gap and its arguments. The gap may only be missing where an
opening bracket ends the word, or where there are no arguments (`Command.splits_iff`).
-/
import KeyWatch.Command.Line
import Mathlib.Data.List.TakeWhile

namespace KeyWatch

set_option autoImplicit false

namespace Text

/-- A text of blanks and nothing else. -/
def Blank (text : List Char) : Prop := ∀ c ∈ text, isBlank c = true

/-- A text that neither starts nor ends with a blank. -/
structure Tight (text : List Char) : Prop where
  starts : ∀ c, text.head? = some c → isBlank c = false
  ends : ∀ c, text.getLast? = some c → isBlank c = false

/-- Without the blanks around it, a text is this one. -/
def Trims (text inner : List Char) : Prop :=
  Tight inner ∧ ∃ before after, Blank before ∧ Blank after ∧ text = before ++ inner ++ after

variable {text inner gap : List Char}

/-! ## Trimming -/

theorem tight_nil : Tight [] where
  starts := fun _ first => nomatch first
  ends := fun _ last => nomatch last

theorem Tight.trim_eq (tight : Tight text) : trim text = text :=
  trim_eq_self text tight.starts tight.ends

/-- Blanks behind a tight text that ends with them are none. -/
theorem Tight.gap_eq_nil (tight : Tight (text ++ gap)) (blank : Blank gap) : gap = [] := by
  cases last : gap.getLast? with
  | none => exact List.getLast?_eq_none_iff.1 last
  | some c =>
    have solid := tight.ends c (by rw [List.getLast?_append, last]; rfl)
    rw [blank c (List.mem_of_getLast? last)] at solid
    cases solid

theorem trim_append_left (blank : Blank gap) (text : List Char) :
    trim (gap ++ text) = trim text := by
  unfold trim trimStart
  rw [List.dropWhile_append_of_pos blank]

theorem trimEnd_append_right (text : List Char) (blank : Blank gap) :
    trimEnd (text ++ gap) = trimEnd text := by
  have mirrored : ∀ c ∈ gap.reverse, isBlank c = true := fun c member =>
    blank c (List.mem_reverse.1 member)
  rw [trimEnd, List.reverse_append, List.dropWhile_append_of_pos mirrored, trimEnd]

theorem trim_append_right (text : List Char) (blank : Blank gap) :
    trim (text ++ gap) = trim text := by
  unfold trim trimStart
  rw [List.dropWhile_append]
  split
  · next nothing =>
    rw [List.isEmpty_iff.1 nothing, List.dropWhile_eq_nil_iff.2 blank]
  · exact trimEnd_append_right _ blank

theorem Trims.eq (trims : Trims text inner) : trim text = inner := by
  obtain ⟨tight, before, after, blank, blank', rfl⟩ := trims
  rw [trim_append_right _ blank', trim_append_left blank, tight.trim_eq]

theorem trimStart_spec (text : List Char) :
    ∃ before, Blank before ∧ text = before ++ trimStart text
      ∧ ∀ c, (trimStart text).head? = some c → isBlank c = false := by
  refine ⟨text.takeWhile isBlank, fun c => List.mem_takeWhile_imp,
    List.takeWhile_append_dropWhile.symm, fun c first => ?_⟩
  have solid := List.head?_dropWhile_not isBlank text
  rw [show (text.dropWhile isBlank).head? = some c from first] at solid
  exact solid

theorem trimEnd_spec (text : List Char) :
    ∃ after, Blank after ∧ text = trimEnd text ++ after
      ∧ ∀ c, (trimEnd text).getLast? = some c → isBlank c = false := by
  obtain ⟨before, blank, whole, solid⟩ := trimStart_spec text.reverse
  refine ⟨before.reverse, fun c member => blank c (List.mem_reverse.1 member), ?_, fun c last => ?_⟩
  · rw [trimEnd, ← List.reverse_append, ← trimStart, ← whole, List.reverse_reverse]
  · rw [trimEnd, List.getLast?_reverse] at last
    exact solid c last

theorem trims_trim (text : List Char) : Trims text (trim text) := by
  obtain ⟨before, blank, whole, starts⟩ := trimStart_spec text
  obtain ⟨after, blank', whole', ends⟩ := trimEnd_spec (trimStart text)
  refine ⟨⟨fun c first => starts c ?_, ends⟩, before, after, blank, blank', ?_⟩
  · rw [whole', List.head?_append, show (trimEnd (trimStart text)).head? = some c from first]
    rfl
  · rw [List.append_assoc]
    exact whole.trans (congrArg (before ++ ·) whole')

/-- **A text is trimmed in one way.** -/
theorem trims_iff (text inner : List Char) : Trims text inner ↔ inner = trim text := by
  constructor
  · exact fun trims => trims.eq.symm
  · rintro rfl
    exact trims_trim text

theorem tight_trim (text : List Char) : Tight (trim text) := (trims_trim text).1

theorem mem_of_mem_trim {c : Char} (member : c ∈ trim text) : c ∈ text := by
  obtain ⟨-, before, after, -, -, whole⟩ := trims_trim text
  rw [whole]
  exact List.mem_append_left _ (List.mem_append_right _ member)

/-! ## Pieces -/

/-- The texts that separators divide a text into. -/
def Divides (separator : Char) (parts : List (List Char)) (text : List Char) : Prop :=
  parts ≠ [] ∧ (∀ part ∈ parts, separator ∉ part) ∧ text = [separator].intercalate parts

variable {separator c : Char}

theorem pieces_cons_self (separator : Char) (text : List Char) :
    pieces separator (separator :: text) = [] :: pieces separator text := by
  rw [pieces, if_pos rfl]

theorem pieces_cons_of_ne (apart : c ≠ separator) (text : List Char) :
    ∃ piece more, pieces separator text = piece :: more
      ∧ pieces separator (c :: text) = (c :: piece) :: more := by
  obtain ⟨piece, more, found⟩ := List.exists_cons_of_ne_nil (pieces_ne_nil separator text)
  exact ⟨piece, more, found, by rw [pieces, if_neg apart, found]⟩

theorem pieces_append (free : separator ∉ inner) (text : List Char) :
    ∃ piece more, pieces separator text = piece :: more
      ∧ pieces separator (inner ++ text) = (inner ++ piece) :: more := by
  induction inner with
  | nil =>
    obtain ⟨piece, more, found⟩ := List.exists_cons_of_ne_nil (pieces_ne_nil separator text)
    exact ⟨piece, more, found, found⟩
  | cons first rest ih =>
    obtain ⟨apart, free⟩ := not_or.1 (mt List.mem_cons.2 free)
    obtain ⟨piece, more, found, joined⟩ := ih free
    obtain ⟨piece', more', found', joined'⟩ := pieces_cons_of_ne (Ne.symm apart) (rest ++ text)
    rw [joined] at found'
    cases found'
    exact ⟨piece, more, found, joined'⟩

theorem pieces_append_right (free : separator ∉ gap) (text : List Char) :
    ∃ more piece, pieces separator text = more ++ [piece]
      ∧ pieces separator (text ++ gap) = more ++ [piece ++ gap] := by
  induction text with
  | nil =>
    obtain ⟨piece, more, found, joined⟩ := pieces_append free []
    cases found
    rw [List.append_nil] at joined
    exact ⟨[], [], rfl, joined⟩
  | cons c rest ih =>
    obtain ⟨more, piece, found, joined⟩ := ih
    rw [List.cons_append]
    by_cases same : c = separator
    · rw [same, pieces_cons_self, pieces_cons_self, found, joined]
      exact ⟨[] :: more, piece, rfl, rfl⟩
    · obtain ⟨first, others, found', extended⟩ := pieces_cons_of_ne same rest
      obtain ⟨first', others', joined', extended'⟩ := pieces_cons_of_ne same (rest ++ gap)
      rw [extended, extended']
      rw [found] at found'
      rw [joined] at joined'
      cases more with
      | nil =>
        cases found'
        cases joined'
        exact ⟨[], c :: piece, rfl, rfl⟩
      | cons first more =>
        cases found'
        cases joined'
        exact ⟨(c :: first) :: more, piece, rfl, rfl⟩

/-- **Pieces are what separators divide a text into.** -/
theorem divides_pieces (separator : Char) (text : List Char) :
    Divides separator (pieces separator text) text := by
  refine ⟨pieces_ne_nil separator text, ?_⟩
  induction text with
  | nil => simp [pieces]
  | cons c rest ih =>
    obtain ⟨free, whole⟩ := ih
    by_cases same : c = separator
    · subst same
      rw [pieces_cons_self]
      refine ⟨List.forall_mem_cons.2 ⟨List.not_mem_nil, free⟩, ?_⟩
      obtain ⟨piece, more, found⟩ := List.exists_cons_of_ne_nil (pieces_ne_nil c rest)
      rw [found, List.intercalate_cons_cons, ← found, ← whole]
      rfl
    · obtain ⟨piece, more, found, joined⟩ := pieces_cons_of_ne same rest
      rw [found] at free whole
      rw [joined]
      obtain ⟨freeFirst, freeRest⟩ := List.forall_mem_cons.1 free
      have freeLonger : separator ∉ c :: piece :=
        mt List.mem_cons.1 (not_or.2 ⟨Ne.symm same, freeFirst⟩)
      refine ⟨List.forall_mem_cons.2 ⟨freeLonger, freeRest⟩, ?_⟩
      cases more with
      | nil => simpa using whole
      | cons next more =>
        rw [List.intercalate_cons_cons] at whole ⊢
        rw [whole]
        rfl

theorem divides_iff (separator : Char) (parts : List (List Char)) (text : List Char) :
    Divides separator parts text ↔ parts = pieces separator text := by
  constructor
  · rintro ⟨some, free, whole⟩
    obtain ⟨some', free', whole'⟩ := divides_pieces separator text
    rw [← List.splitOn_intercalate separator free some, ← whole, whole',
      List.splitOn_intercalate separator free' some', ← whole']
  · rintro rfl
    exact divides_pieces separator text

/-- **Blanks around a text end up around its pieces:** before the first one and behind the last. -/
theorem map_trim_pieces_trim (solid : isBlank separator = false) (text : List Char) :
    (pieces separator (trim text)).map trim = (pieces separator text).map trim := by
  obtain ⟨-, before, after, blank, blank', whole⟩ := trims_trim text
  have free {gap : List Char} (blank : Blank gap) : separator ∉ gap := fun member => by
    rw [blank separator member] at solid
    cases solid
  obtain ⟨first, more, found, joined⟩ := pieces_append (free blank) (trim text ++ after)
  obtain ⟨others, last, found', joined'⟩ := pieces_append_right (free blank') (trim text)
  have behind : (pieces separator (trim text ++ after)).map trim
      = (pieces separator (trim text)).map trim := by
    rw [joined', found', List.map_append, List.map_append, List.map_singleton, List.map_singleton,
      trim_append_right _ blank']
  calc (pieces separator (trim text)).map trim
      = trim first :: more.map trim := by rw [← behind, found, List.map_cons]
    _ = (pieces separator (before ++ (trim text ++ after))).map trim := by
        rw [joined, List.map_cons, trim_append_left blank]
    _ = (pieces separator text).map trim := by rw [← List.append_assoc, ← whole]

end Text

namespace Command

open Text

/-- A line is a word, a gap and arguments. An opening bracket ends a word without a gap. -/
def Splits (line name arguments : List Char) : Prop :=
  ∃ gap, Blank gap ∧ line = name ++ gap ++ arguments
    ∧ (gap = [] → arguments = [] ∨ arguments.head? = some '[')

/-- What the word of a line is followed by ends it. -/
theorem endsWord_of_head? {c : Char} (line : List Char)
    (next : (line.dropWhile (!endsWord ·)).head? = some c) : endsWord c = true := by
  have stopped := List.head?_dropWhile_not (!endsWord ·) line
  rw [next] at stopped
  simpa using stopped

theorem splits_word {line : List Char} (tight : Tight line) :
    Splits line (word line) (Command.arguments line) := by
  obtain ⟨solid, before, after, blank, blank', rest⟩ := trims_trim (line.dropWhile (!endsWord ·))
  have whole : line = word line ++ before ++ Command.arguments line ++ after :=
    calc line = word line ++ line.dropWhile (!endsWord ·) := (word_append_dropWhile line).symm
      _ = word line ++ (before ++ Command.arguments line ++ after) := congrArg _ rest
      _ = word line ++ before ++ Command.arguments line ++ after := by simp only [List.append_assoc]
  have nothing : after = [] := Tight.gap_eq_nil (whole ▸ tight) blank'
  rw [nothing, List.append_nil] at whole rest
  refine ⟨before, blank, whole, ?_⟩
  rintro rfl
  cases first : (Command.arguments line).head? with
  | none => exact .inl (List.head?_eq_none_iff.1 first)
  | some c =>
    have ended : endsWord c = true := endsWord_of_head? line (by rw [rest]; exact first)
    have unblank : isBlank c = false := solid.starts c first
    rw [endsWord, unblank, Bool.false_or, beq_iff_eq] at ended
    exact .inr (congrArg some ended)

/-- **A line splits in one way.** -/
theorem splits_iff {line name arguments : List Char} (tight : Tight line)
    (plain : ∀ c ∈ name, endsWord c = false) :
    word line = name ∧ Command.arguments line = arguments
      ↔ Tight arguments ∧ Splits line name arguments := by
  constructor
  · rintro ⟨rfl, rfl⟩
    exact ⟨tight_trim _, splits_word tight⟩
  · rintro ⟨solid, gap, blank, rfl, bracket⟩
    have named : ∀ c ∈ name, (!endsWord c) = true := fun c member => by rw [plain c member]; rfl
    have ended : ∀ c, (gap ++ arguments).head? = some c → endsWord c = true := by
      intro c first
      cases gap with
      | nil =>
        rcases bracket rfl with rfl | opening
        · cases first
        · cases opening.symm.trans first
          rfl
      | cons d gap =>
        cases first
        rw [endsWord, blank c (by simp)]
        rfl
    have stopped : (gap ++ arguments).takeWhile (!endsWord ·) = []
        ∧ (gap ++ arguments).dropWhile (!endsWord ·) = gap ++ arguments := by
      cases following : gap ++ arguments with
      | nil => exact ⟨rfl, rfl⟩
      | cons c rest =>
        have ends := ended c (by rw [following]; rfl)
        exact ⟨List.takeWhile_cons_of_neg (by simp [ends]),
          List.dropWhile_cons_of_neg (by simp [ends])⟩
    unfold word Command.arguments
    rw [List.append_assoc, List.takeWhile_append_of_pos named, List.dropWhile_append_of_pos named,
      stopped.1, stopped.2, List.append_nil, trim_append_left blank, solid.trim_eq]
    exact ⟨rfl, rfl⟩

/-- A line is neither empty nor a comment if its word is neither. -/
theorem not_silent_of_word {line : List Char}
    (first : (word line).head?.any (· != '#') = true) : isSilent line = false := by
  cases line with
  | nil => cases first
  | cons c rest =>
    by_cases comment : c = '#'
    · subst comment
      rw [word, List.takeWhile_cons_of_pos rfl] at first
      cases first
    · simpa [isSilent] using comment

end Command

end KeyWatch
