/-
# Proofs.Grammar -- how the commands of a job script are written

`Command.Written` says how a line has to look that holds a command, without a word about how a line
is read: a list of keys is what commas divide, pairs stand between parentheses with blanks and
commas around them (`Pairs`), a number has ASCII digits (`Text.Numeral`). Reading a line finds just
the command that is written there (`parse_eq_grammar`), so a line that is not written like any
command, is not empty and is no comment is refused.

The parts of a line are read by functions of their own, and each has one lemma here that tells its
results by what is written: `decimal?_eq_some_iff`, `keys_eq_ok_iff`, `pairs_eq_ok_iff`.
-/
import KeyWatch.Error
import KeyWatch.Job.Command
import KeyWatch.Proofs.Trimmed
import Mathlib.Data.List.Induction
import Mathlib.Data.Nat.Digits.Defs

namespace KeyWatch

set_option autoImplicit false

/-! ## Numbers -/

namespace Text

/-- ASCII digits, most significant first, and the number that they write. -/
structure Numeral (digits : List Char) (value : Nat) : Prop where
  nonempty : digits ≠ []
  ascii : ∀ c ∈ digits, '0' ≤ c ∧ c ≤ '9'
  value : value = Nat.ofDigits 10 (digits.reverse.map fun c => c.toNat - '0'.toNat)

theorem isBlank_of_ascii {c : Char} (digit : '0' ≤ c ∧ c ≤ '9') : isBlank c = false := by
  have least : 48 ≤ c.toNat := digit.1
  have greatest : c.toNat ≤ 57 := digit.2
  simp only [isBlank, Bool.or_eq_false_iff, Bool.and_eq_false_iff, decide_eq_false_iff_not,
    beq_eq_false_iff_ne]
  omega

theorem digits?_append_singleton (digits : List Char) (c : Char) :
    digits? (digits ++ [c]) = (digits? digits).bind fun value =>
      if '0' ≤ c ∧ c ≤ '9' then some (10 * value + (c.toNat - '0'.toNat)) else none := by
  rw [digits?, List.foldlM_append]
  simp [digits?]

theorem digits?_eq_some_iff (digits : List Char) (value : Nat) :
    digits? digits = some value ↔ (∀ c ∈ digits, '0' ≤ c ∧ c ≤ '9')
      ∧ value = Nat.ofDigits 10 (digits.reverse.map fun c => c.toNat - '0'.toNat) := by
  induction digits using List.reverseRecOn generalizing value with
  | nil => simp [digits?, eq_comm]
  | append_singleton digits c ih =>
    rw [digits?_append_singleton, Option.bind_eq_some_iff, List.reverse_append,
      List.reverse_singleton, List.singleton_append, List.map_cons, Nat.ofDigits_cons]
    simp only [List.forall_mem_append, List.forall_mem_singleton]
    constructor
    · rintro ⟨high, read, onward⟩
      obtain ⟨ascii, rfl⟩ := (ih high).1 read
      split at onward
      · next digit =>
        cases onward
        exact ⟨⟨ascii, digit⟩, Nat.add_comm _ _⟩
      · cases onward
    · rintro ⟨⟨ascii, digit⟩, rfl⟩
      refine ⟨_, (ih _).2 ⟨ascii, rfl⟩, ?_⟩
      rw [if_pos digit]
      exact congrArg some (Nat.add_comm _ _)

theorem numeral_iff (digits : List Char) (value : Nat) :
    Numeral digits value ↔ digits ≠ [] ∧ digits? digits = some value := by
  rw [digits?_eq_some_iff]
  constructor
  · rintro ⟨nonempty, ascii, value⟩
    exact ⟨nonempty, ascii, value⟩
  · rintro ⟨nonempty, ascii, value⟩
    exact ⟨nonempty, ascii, value⟩

/-- **A decimal number has an optional plus and digits,** and is within the bound. -/
theorem decimal?_eq_some_iff (bound : Nat) (text : List Char) (value : Nat) :
    decimal? bound text = some value ↔ ∃ sign digits, (sign = [] ∨ sign = ['+'])
      ∧ text = sign ++ digits ∧ Numeral digits value ∧ value ≤ bound := by
  have bounded : decimal? bound text = some value
      ↔ Numeral (dropPlus text) value ∧ value ≤ bound := by
    rw [numeral_iff, decimal?]
    cases dropPlus text with
    | nil => simp
    | cons first rest => simp [Option.filter_eq_some_iff]
  have signed : ∃ sign, (sign = [] ∨ sign = ['+']) ∧ text = sign ++ dropPlus text := by
    unfold dropPlus
    split
    · exact ⟨['+'], .inr rfl, rfl⟩
    · exact ⟨[], .inl rfl, rfl⟩
  rw [bounded]
  constructor
  · rintro ⟨number, fits⟩
    obtain ⟨sign, plus, whole⟩ := signed
    exact ⟨sign, _, plus, whole, number, fits⟩
  · rintro ⟨sign, digits, plus, rfl, number, fits⟩
    have unsigned : dropPlus (sign ++ digits) = digits := by
      rcases plus with rfl | rfl
      · -- a plus is no digit
        unfold dropPlus
        split
        · next rest first =>
          have digit := number.ascii '+' (by rw [← List.nil_append digits, first]; simp)
          exact absurd digit (by decide)
        · rfl
      · rfl
    rw [unsigned]
    exact ⟨number, fits⟩

theorem cutAt_eq_some_iff (mark : Char) (text before after : List Char) :
    cutAt mark text = some (before, after) ↔ text = before ++ mark :: after ∧ mark ∉ before := by
  refine ⟨cutAt_eq_some, ?_⟩
  rintro ⟨rfl, free⟩
  induction before with
  | nil => simp [cutAt]
  | cons c rest ih =>
    obtain ⟨apart, free⟩ := not_or.1 (mt List.mem_cons.2 free)
    rw [List.cons_append, cutAt, if_neg (Ne.symm apart), ih free]
    rfl

end Text

namespace Job.Command

open Text KeyWatch.Command

/-! ## Keys -/

theorem list_eq_ok_iff (text inner : List Char) :
    list text = .ok inner ↔ ∃ body, text = '[' :: body ++ [']'] ∧ inner = trim body := by
  rw [← bracketed?_eq_some_iff, list]
  cases bracketed? text <;> simp

theorem key_eq_ok_iff (piece : List Char) (found : String) :
    key piece = .ok found ↔ trim piece ≠ [] ∧ found = String.ofList (trim piece) := by
  unfold key
  cases trim piece with
  | nil => simp
  | cons first rest => simp [eq_comm]

theorem mapM_key_eq_ok_iff (parts : List (List Char)) (found : List String) :
    parts.mapM key = .ok found
      ↔ [] ∉ parts.map trim ∧ found = (parts.map trim).map String.ofList := by
  induction parts generalizing found with
  | nil =>
    rw [List.mapM_nil]
    constructor
    · rintro ⟨⟩
      exact ⟨List.not_mem_nil, rfl⟩
    · rintro ⟨-, rfl⟩
      rfl
  | cons part rest ih =>
    rw [List.mapM_cons, bind_eq_ok_iff, List.map_cons, List.mem_cons, not_or]
    constructor
    · rintro ⟨first, here, onward⟩
      obtain ⟨others, later, result⟩ := (bind_eq_ok_iff _ _ _).1 onward
      cases result
      obtain ⟨nonempty, rfl⟩ := (key_eq_ok_iff part first).1 here
      obtain ⟨nonemptyRest, rfl⟩ := (ih others).1 later
      exact ⟨⟨Ne.symm nonempty, nonemptyRest⟩, rfl⟩
    · rintro ⟨⟨nonempty, nonemptyRest⟩, rfl⟩
      exact ⟨_, (key_eq_ok_iff part _).2 ⟨Ne.symm nonempty, rfl⟩,
        (bind_eq_ok_iff _ _ _).2 ⟨_, (ih _).2 ⟨nonemptyRest, rfl⟩, rfl⟩⟩

/-- Keys set apart by commas. Blanks around a key do not count, and no key is empty. -/
def Keys (body : List Char) (keys : List String) : Prop :=
  ∃ parts, Divides ',' parts body ∧ (∀ part ∈ parts, trim part ≠ [])
    ∧ keys = parts.map fun part => String.ofList (trim part)

theorem keys_iff (body : List Char) (found : List String) :
    Keys body found ↔ (pieces ',' body).mapM key = .ok found := by
  rw [mapM_key_eq_ok_iff, List.map_map]
  constructor
  · rintro ⟨parts, divided, nonempty, rfl⟩
    obtain rfl := (divides_iff _ _ _).1 divided
    refine ⟨fun member => ?_, rfl⟩
    obtain ⟨part, among, empty⟩ := List.mem_map.1 member
    exact nonempty part among empty
  · rintro ⟨nonempty, rfl⟩
    exact ⟨_, divides_pieces _ _, fun part among empty =>
      nonempty (List.mem_map.2 ⟨part, among, empty⟩), rfl⟩

theorem keys_trim_iff (body : List Char) (found : List String) :
    Keys (trim body) found ↔ Keys body found := by
  rw [keys_iff, keys_iff, mapM_key_eq_ok_iff, mapM_key_eq_ok_iff, map_trim_pieces_trim rfl]

theorem keys_eq_ok_iff (text : List Char) (found : List String) :
    keys text = .ok found ↔ ∃ body, text = '[' :: body ++ [']'] ∧ Keys body found := by
  have listed (body : List Char) : (do
        if trim body = [] then throw .emptyKeyList
        (pieces ',' (trim body)).mapM key : Except SyntaxFault (List String)) = .ok found
      ↔ Keys body found := by
    rw [← keys_trim_iff, keys_iff]
    by_cases empty : trim body = []
    · -- the only piece of no text is refused as well
      rw [if_pos empty, empty]
      constructor
      · rintro ⟨⟩
      · rintro ⟨⟩
    · rw [if_neg empty]
  rw [keys, bind_eq_ok_iff]
  constructor
  · rintro ⟨inner, bracketed, rest⟩
    obtain ⟨body, rfl, rfl⟩ := (list_eq_ok_iff text inner).1 bracketed
    exact ⟨body, rfl, (listed body).1 rest⟩
  · rintro ⟨body, rfl, written⟩
    exact ⟨_, (list_eq_ok_iff _ _).2 ⟨body, rfl, rfl⟩, (listed body).2 written⟩

/-! ## Pairs -/

/-- Blanks and commas, which set pairs apart. -/
def Gap (text : List Char) : Prop := ∀ c ∈ text, isBlank c = true ∨ c = ','

/-- Pairs that are written one after another, with gaps before, between and after them. -/
inductive Pairs : List Char → List (String × String) → Prop
  | nothing {gap : List Char} (apart : Gap gap) : Pairs gap []
  | pair {gap key value rest : List Char} {pairs : List (String × String)} (apart : Gap gap)
      (keyFree : ',' ∉ key ∧ ')' ∉ key) (valueFree : ')' ∉ value) (keySome : trim key ≠ [])
      (valueSome : trim value ≠ []) (more : Pairs rest pairs) :
      Pairs (gap ++ '(' :: (key ++ ',' :: (value ++ ')' :: rest)))
        ((String.ofList (trim key), String.ofList (trim value)) :: pairs)

theorem pair_eq_ok_iff (inside : List Char) (found : String × String) :
    pair inside = .ok found ↔ ∃ key value, inside = key ++ ',' :: value ∧ ',' ∉ key
      ∧ trim key ≠ [] ∧ trim value ≠ []
      ∧ found = (String.ofList (trim key), String.ofList (trim value)) := by
  have parts {key value : List Char} (cut : cutAt ',' inside = some (key, value)) :
      pair inside = .ok found ↔ trim key ≠ [] ∧ trim value ≠ []
        ∧ found = (String.ofList (trim key), String.ofList (trim value)) := by
    unfold pair
    rw [cut]
    dsimp only
    cases trim key with
    | nil => simp
    | cons c key =>
      cases trim value with
      | nil => simp
      | cons d value => simp [eq_comm]
  constructor
  · intro read
    cases cut : cutAt ',' inside with
    | none =>
      rw [pair, cut] at read
      cases read
    | some parted =>
      obtain ⟨whole, free⟩ := cutAt_eq_some cut
      exact ⟨parted.1, parted.2, whole, free, (parts cut).1 read⟩
  · rintro ⟨key, value, whole, free, made⟩
    exact (parts ((cutAt_eq_some_iff _ _ _ _).2 ⟨whole, free⟩)).2 made

variable {text gap : List Char} {found : List (String × String)}

theorem gap_of_blank (blank : Blank gap) : Gap gap := fun c member => .inl (blank c member)

/-- What is skipped before a pair is a gap. -/
theorem skipToPair_spec (text : List Char) :
    ∃ gap, Gap gap ∧ text = gap ++ skipToPair text := by
  refine ⟨text.takeWhile fun c => isBlank c || c == ',', fun c member => ?_,
    List.takeWhile_append_dropWhile.symm⟩
  have skipped := List.mem_takeWhile_imp member
  simpa using skipped

theorem skipToPair_append (apart : Gap gap) (text : List Char) :
    skipToPair (gap ++ text) = skipToPair text := by
  refine List.dropWhile_append_of_pos fun c member => ?_
  simpa using apart c member

/-- **Pairs are found as they are written.** -/
theorem pairs_of_pairsIn (read : pairsIn text = .ok found) : Pairs text found := by
  fun_induction pairsIn text generalizing found with
  | case1 text nothing =>
    cases read
    obtain ⟨gap, apart, whole⟩ := skipToPair_spec text
    rw [nothing, List.append_nil] at whole
    rw [whole]
    exact .nothing apart
  | case2 => cases read
  | case3 text body next inside rest cut ih =>
    obtain ⟨first, here, onward⟩ := (bind_eq_ok_iff _ _ _).1 read
    obtain ⟨others, later, result⟩ := (bind_eq_ok_iff _ _ _).1 onward
    cases result
    obtain ⟨gap, apart, whole⟩ := skipToPair_spec text
    obtain ⟨key, value, rfl, free, nonempty, nonempty', rfl⟩ := (pair_eq_ok_iff _ _).1 here
    obtain ⟨rfl, closed⟩ := cutAt_eq_some cut
    simp only [List.mem_append, List.mem_cons, not_or] at closed
    rw [whole, next, List.append_assoc]
    exact .pair apart ⟨free, closed.1⟩ closed.2.2 nonempty nonempty' (ih later)
  | case4 => cases read

theorem pairsIn_of_nil (nothing : skipToPair text = []) : pairsIn text = .ok [] := by
  rw [pairsIn]
  split
  · rfl
  · next next => cases nothing.symm.trans next
  · next other _ => exact absurd nothing other

theorem pairsIn_of_cut {body inside rest : List Char} (next : skipToPair text = '(' :: body)
    (cut : cutAt ')' body = some (inside, rest)) :
    pairsIn text
      = pair inside >>= fun first => pairsIn rest >>= fun more => .ok (first :: more) := by
  rw [pairsIn]
  split
  · next nothing => cases next.symm.trans nothing
  · next body' next' =>
    cases next.symm.trans next'
    split
    · next uncut => cases cut.symm.trans uncut
    · next inside' rest' cut' =>
      cases cut.symm.trans cut'
      rfl
  · next other => exact absurd next (other body)

theorem pairsIn_of_pairs (written : Pairs text found) : pairsIn text = .ok found := by
  induction written with
  | @nothing gap apart =>
    have skipped := skipToPair_append apart []
    rw [List.append_nil] at skipped
    exact pairsIn_of_nil skipped
  | @pair gap key value rest pairs apart keyFree valueFree keySome valueSome more ih =>
    have next := skipToPair_append apart ('(' :: (key ++ ',' :: (value ++ ')' :: rest)))
    have cut : cutAt ')' (key ++ ',' :: (value ++ ')' :: rest))
        = some (key ++ ',' :: value, rest) := by
      refine (cutAt_eq_some_iff _ _ _ _).2 ⟨by simp, ?_⟩
      simp [keyFree.2, valueFree]
    rw [pairsIn_of_cut next cut, ih,
      (pair_eq_ok_iff _ _).2 ⟨key, value, rfl, keyFree.1, keySome, valueSome, rfl⟩]
    rfl

theorem pairsIn_eq_ok_iff (text : List Char) (found : List (String × String)) :
    pairsIn text = .ok found ↔ Pairs text found := ⟨pairs_of_pairsIn, pairsIn_of_pairs⟩

theorem pairsIn_congr {other : List Char} (same : skipToPair text = skipToPair other) :
    pairsIn text = pairsIn other := by
  rw [pairsIn, pairsIn, same]

/-- A gap before pairs belongs to their own. -/
theorem pairs_append_left (apart : Gap gap) : Pairs (gap ++ text) found ↔ Pairs text found := by
  rw [← pairsIn_eq_ok_iff, ← pairsIn_eq_ok_iff, pairsIn_congr (skipToPair_append apart text)]

theorem Pairs.append_right (written : Pairs text found) (apart : Gap gap) :
    Pairs (text ++ gap) found := by
  induction written with
  | nothing before => exact .nothing (List.forall_mem_append.2 ⟨before, apart⟩)
  | pair before keyFree valueFree keySome valueSome _ ih =>
    have behind := Pairs.pair before keyFree valueFree keySome valueSome ih
    simpa only [List.append_assoc, List.cons_append] using behind

/-- What holds no mark lies behind every mark. -/
theorem exists_of_not_mem {mark : Char} {front rest : List Char} (free : mark ∉ gap)
    (same : front ++ mark :: rest = text ++ gap) :
    ∃ inner, text = front ++ mark :: inner ∧ rest = inner ++ gap := by
  rcases List.append_eq_append_iff.1 same with ⟨inner, front, behind⟩ | ⟨inner, -, behind⟩
  · cases inner with
    | nil =>
      rw [List.nil_append] at behind
      exact absurd (by rw [← behind]; simp) free
    | cons c inner =>
      cases behind
      exact ⟨inner, front, rfl⟩
  · exact absurd (by rw [behind]; simp) free

theorem Pairs.of_append_right {whole : List Char} (written : Pairs whole found) (apart : Gap gap)
    (same : whole = text ++ gap) : Pairs text found := by
  induction written generalizing text with
  | nothing before =>
    subst same
    exact .nothing fun c member => before c (List.mem_append_left _ member)
  | @pair before key value rest pairs front keyFree valueFree keySome valueSome _ ih =>
    have closed : ')' ∉ gap := fun member => by
      rcases apart ')' member with blank | comma
      · cases blank
      · cases comma
    have split : (before ++ '(' :: (key ++ ',' :: value)) ++ ')' :: rest = text ++ gap := by
      rw [← same]
      simp only [List.append_assoc, List.cons_append]
    obtain ⟨inner, rfl, behind⟩ := exists_of_not_mem closed split
    have onward := Pairs.pair front keyFree valueFree keySome valueSome (ih behind)
    simpa only [List.append_assoc, List.cons_append] using onward

/-- **Blanks around pairs belong to the gaps.** -/
theorem pairs_trim_iff (body : List Char) : Pairs (trim body) found ↔ Pairs body found := by
  obtain ⟨-, before, after, blank, blank', whole⟩ := trims_trim body
  have skipped : Pairs (before ++ (trim body ++ after)) found ↔ Pairs (trim body ++ after) found :=
    pairs_append_left (gap_of_blank blank)
  rw [← List.append_assoc, ← whole] at skipped
  rw [skipped]
  exact ⟨fun written => written.append_right (gap_of_blank blank'),
    fun written => written.of_append_right (gap_of_blank blank') rfl⟩

theorem pairs_eq_ok_iff (text : List Char) (found : List (String × String)) :
    pairs text = .ok found
      ↔ found ≠ [] ∧ ∃ body, text = '[' :: body ++ [']'] ∧ Pairs body found := by
  rw [pairs, bind_eq_ok_iff]
  constructor
  · rintro ⟨inner, bracketed, onward⟩
    obtain ⟨body, rfl, rfl⟩ := (list_eq_ok_iff text inner).1 bracketed
    obtain ⟨here, read, checked⟩ := (bind_eq_ok_iff _ _ _).1 onward
    by_cases empty : here = []
    · rw [if_pos empty] at checked
      cases checked
    · rw [if_neg empty] at checked
      cases checked
      exact ⟨empty, body, rfl, (pairs_trim_iff body).1 (pairs_of_pairsIn read)⟩
  · rintro ⟨nonempty, body, rfl, written⟩
    refine ⟨_, (list_eq_ok_iff _ _).2 ⟨body, rfl, rfl⟩, (bind_eq_ok_iff _ _ _).2
      ⟨found, pairsIn_of_pairs ((pairs_trim_iff body).2 written), ?_⟩⟩
    rw [if_neg nonempty]
    rfl

/-! ## Other arguments -/

theorem alone_eq_ok_iff (command found : Command) (text : List Char) :
    alone command text = .ok found ↔ text = [] ∧ found = command := by
  cases text with
  | nil => simp [alone, eq_comm]
  | cons c rest => simp [alone]

/-- A delay: digits, after a plus or not, whose number fits 64 bits. -/
def Delay (text : List Char) (milliseconds : Nat) : Prop :=
  ∃ sign digits, (sign = [] ∨ sign = ['+']) ∧ text = sign ++ digits
    ∧ Numeral digits milliseconds ∧ milliseconds < 2 ^ 64

theorem delay_eq_ok_iff (text : List Char) (found : Nat) :
    delay text = .ok found ↔ Delay text found := by
  have read : delay text = .ok found ↔ decimal? maxWord text = some found := by
    unfold delay
    cases decimal? maxWord text <;> simp
  have bound : found ≤ maxWord ↔ found < 2 ^ 64 := Nat.le_sub_one_iff_lt (by decide)
  rw [read, decimal?_eq_some_iff, Delay]
  simp only [bound]

/-! ## Commands -/

/-- The word of a command. -/
def name : Command → String
  | .write _ => "WRITE"
  | .read _ => "READ"
  | .delete _ => "DELETE"
  | .showAll => "SHOW"
  | .wait _ => "WAIT"
  | .backup => "BACKUP"
  | .help => "HELP"

/-- What stands behind the word of a command, without the blanks around it. -/
def Takes (arguments : List Char) : Command → Prop
  | .write pairs => pairs ≠ [] ∧ ∃ body, arguments = '[' :: body ++ [']'] ∧ Pairs body pairs
  | .read keys => ∃ body, arguments = '[' :: body ++ [']'] ∧ Keys body keys
  | .delete keys => ∃ body, arguments = '[' :: body ++ [']'] ∧ Keys body keys
  | .wait milliseconds => Delay arguments milliseconds
  | _ => arguments = []

theorem ofWord_eq_ok_iff (word : String) (arguments : List Char) (command : Command) :
    ofWord word arguments = .ok command ↔ word = command.name ∧ command.Takes arguments := by
  unfold ofWord
  split
  case h_8 =>
    -- the word is none of the seven
    cases command <;> simp_all [name]
  all_goals
    simp only [map_eq_ok_iff, pairs_eq_ok_iff, keys_eq_ok_iff, alone_eq_ok_iff, delay_eq_ok_iff]
    cases command <;> simp [name, Takes]

/-- How a line looks that holds a command, without the blanks around it. -/
def Written (line : List Char) : Command → Prop
  | .write pairs => pairs ≠ [] ∧ ∃ gap body, Blank gap
      ∧ line = "WRITE".toList ++ gap ++ ('[' :: body ++ [']']) ∧ Pairs body pairs
  | .read keys => ∃ gap body, Blank gap
      ∧ line = "READ".toList ++ gap ++ ('[' :: body ++ [']']) ∧ Keys body keys
  | .delete keys => ∃ gap body, Blank gap
      ∧ line = "DELETE".toList ++ gap ++ ('[' :: body ++ [']']) ∧ Keys body keys
  | .showAll => line = "SHOW".toList
  | .backup => line = "BACKUP".toList
  | .help => line = "HELP".toList
  | .wait milliseconds => ∃ gap sign digits, gap ≠ [] ∧ Blank gap ∧ (sign = [] ∨ sign = ['+'])
      ∧ line = "WAIT".toList ++ gap ++ (sign ++ digits)
      ∧ Numeral digits milliseconds ∧ milliseconds < 2 ^ 64

/-- Nothing in a delay is a blank or a bracket. -/
theorem solid_of_delay {sign digits : List Char} {milliseconds : Nat}
    (plus : sign = [] ∨ sign = ['+']) (number : Numeral digits milliseconds) :
    ∀ c ∈ sign ++ digits, isBlank c = false ∧ c ≠ '[' := by
  refine List.forall_mem_append.2 ⟨?_, fun c member => ?_⟩
  · rcases plus with rfl | rfl
    · exact List.forall_mem_nil _
    · exact List.forall_mem_singleton.2 ⟨rfl, by decide⟩
  · have digit := number.ascii c member
    refine ⟨isBlank_of_ascii digit, ?_⟩
    rintro rfl
    exact absurd digit (by decide)

theorem tight_brackets (body : List Char) : Tight ('[' :: body ++ [']']) := by
  refine ⟨fun c first => ?_, fun c last => ?_⟩
  · cases first
    rfl
  · rw [List.getLast?_append] at last
    cases last
    rfl

section Lines

variable {line : List Char} {name : List Char} (tight : Tight line)
  (plain : ∀ c ∈ name, endsWord c = false)

include tight plain

/-- A word and a list, with a gap between them or not. -/
theorem list_written_iff (P : List Char → Prop) :
    (word line = name ∧ ∃ body, arguments line = '[' :: body ++ [']'] ∧ P body)
      ↔ ∃ gap body, Blank gap ∧ line = name ++ gap ++ ('[' :: body ++ [']']) ∧ P body := by
  constructor
  · rintro ⟨named, body, bracketed, holds⟩
    obtain ⟨-, gap, blank, whole, -⟩ := (splits_iff tight plain).1 ⟨named, bracketed⟩
    exact ⟨gap, body, blank, whole, holds⟩
  · rintro ⟨gap, body, blank, whole, holds⟩
    obtain ⟨named, bracketed⟩ := (splits_iff tight plain).2
      ⟨tight_brackets body, gap, blank, whole, fun _ => .inr rfl⟩
    exact ⟨named, body, bracketed, holds⟩

/-- A word that stands alone. -/
theorem alone_written_iff : (word line = name ∧ arguments line = []) ↔ line = name := by
  rw [splits_iff tight plain]
  constructor
  · rintro ⟨-, gap, blank, whole, -⟩
    rw [List.append_nil] at whole
    obtain rfl : gap = [] := Tight.gap_eq_nil (whole ▸ tight) blank
    rw [whole, List.append_nil]
  · rintro rfl
    refine ⟨tight_nil, [], List.forall_mem_nil _, ?_, fun _ => .inl rfl⟩
    rw [List.append_nil, List.append_nil]

/-- A word and a delay, with a gap between them. -/
theorem delay_written_iff (milliseconds : Nat) :
    (word line = name ∧ Delay (arguments line) milliseconds)
      ↔ ∃ gap sign digits, gap ≠ [] ∧ Blank gap ∧ (sign = [] ∨ sign = ['+'])
        ∧ line = name ++ gap ++ (sign ++ digits)
        ∧ Numeral digits milliseconds ∧ milliseconds < 2 ^ 64 := by
  constructor
  · rintro ⟨named, sign, digits, plus, delayed, number, fits⟩
    obtain ⟨-, gap, blank, whole, bracket⟩ := (splits_iff tight plain).1 ⟨named, delayed⟩
    refine ⟨gap, sign, digits, fun nothing => ?_, blank, plus, whole, number, fits⟩
    rcases bracket nothing with empty | opening
    · exact number.nonempty (List.append_eq_nil_iff.1 empty).2
    · exact (solid_of_delay plus number '[' (List.mem_of_mem_head? opening)).2 rfl
  · rintro ⟨gap, sign, digits, some, blank, plus, whole, number, fits⟩
    have solid : Tight (sign ++ digits) :=
      ⟨fun c first => (solid_of_delay plus number c (List.mem_of_mem_head? first)).1,
        fun c last => (solid_of_delay plus number c (List.mem_of_getLast? last)).1⟩
    obtain ⟨named, delayed⟩ := (splits_iff tight plain).2
      ⟨solid, gap, blank, whole, fun nothing => absurd nothing some⟩
    exact ⟨named, sign, digits, plus, delayed, number, fits⟩

end Lines

/-- No word of a command has an end before its own. -/
theorem plain_name (command : Command) : ∀ c ∈ command.name.toList, endsWord c = false := by
  have plain : command.name.toList.all (!endsWord ·) = true := by
    cases command <;> (simp only [name]; decide)
  intro c member
  simpa using List.all_eq_true.1 plain c member

/-- **A line is written like a command if it has its word and takes its arguments.** -/
theorem written_iff {line : List Char} (tight : Tight line) (command : Command) :
    Written line command ↔ word line = command.name.toList ∧ command.Takes (arguments line) := by
  have plain := command.plain_name
  cases command with
  | write pairs =>
    have lists := list_written_iff tight plain (Pairs · pairs)
    exact (and_congr_right' lists.symm).trans and_left_comm
  | read keys => exact (list_written_iff tight plain (Keys · keys)).symm
  | delete keys => exact (list_written_iff tight plain (Keys · keys)).symm
  | showAll => exact (alone_written_iff tight plain).symm
  | wait milliseconds => exact (delay_written_iff tight plain milliseconds).symm
  | backup => exact (alone_written_iff tight plain).symm
  | help => exact (alone_written_iff tight plain).symm

/-! ## Lines -/

theorem isSilent_iff (line : List Char) :
    isSilent line = true ↔ line = [] ∨ line.head? = some '#' := by
  cases line <;> simp [isSilent]

/-- A line that is written like a command is neither empty nor a comment. -/
theorem not_silent_of_written {line : List Char} {command : Command}
    (named : word line = command.name.toList) : isSilent line = false := by
  refine not_silent_of_word ?_
  rw [named]
  cases command <;> simp [name]

/-- **A line is read as the command that is written there.** -/
theorem parse_eq_some_iff (text : String) (command : Command) :
    parse text = .ok (some command) ↔ Written (trim text.toList) command := by
  rw [written_iff (tight_trim _)]
  unfold parse
  dsimp only
  by_cases silent : isSilent (trim text.toList) = true
  · rw [if_pos silent]
    constructor
    · rintro ⟨⟩
    · rintro ⟨named, -⟩
      rw [not_silent_of_written named] at silent
      cases silent
  · have read (answer : Except SyntaxFault Command) :
        answer.map some = .ok (some command) ↔ answer = .ok command := by
      cases answer <;> simp [Except.map]
    rw [if_neg silent, read, ofWord_eq_ok_iff, ← String.toList_inj, String.toList_ofList]

theorem parse_eq_none_iff (text : String) :
    parse text = .ok none ↔ trim text.toList = [] ∨ (trim text.toList).head? = some '#' := by
  rw [← isSilent_iff]
  unfold parse
  dsimp only
  split
  · next silent => simp [silent]
  · next loud =>
    cases ofWord (String.ofList (word (trim text.toList))) (arguments (trim text.toList)) <;>
      simp [Except.map, loud]

/-- **A job line is read by its grammar,** for every text. The text without the blanks around it
decides: an empty line and a comment hold no command, a line that is written like a command holds
that command, and every other line is refused as no command. -/
theorem parse_eq_grammar (text : String) :
    let line := trim text.toList
    let answer := (parse text).mapError Error.parse
    (∀ other, Trims text.toList other ↔ other = line)
      ∧ (answer = .ok none ↔ line = [] ∨ line.head? = some '#')
      ∧ (∀ command, answer = .ok (some command) ↔ Written line command)
      ∧ ((∃ error, answer = .error error ∧ error.kind = "Parse")
        ↔ ¬ (line = [] ∨ line.head? = some '#') ∧ ∀ command, ¬ Written line command) := by
  intro line answer
  have silent := parse_eq_none_iff text
  have written := parse_eq_some_iff text
  have answered (found? : Option Command) : answer = .ok found? ↔ parse text = .ok found? := by
    show (parse text).mapError Error.parse = _ ↔ _
    cases parse text <;> simp [Except.mapError]
  have refused : (∃ error, answer = .error error ∧ error.kind = "Parse")
      ↔ ∀ found?, ¬ parse text = .ok found? := by
    show (∃ error, (parse text).mapError Error.parse = .error error ∧ _) ↔ _
    cases parse text with
    | error fault => exact ⟨fun _ _ => nofun, fun _ => ⟨.parse fault, rfl, rfl⟩⟩
    | ok found? => exact ⟨nofun, fun none => absurd rfl (none found?)⟩
  refine ⟨trims_iff text.toList, (answered none).trans silent,
    fun command => (answered (some command)).trans (written command), ?_⟩
  rw [refused, Option.forall, silent]
  simp only [written]
  rfl

/-- A word that a bracket ends, pairs with brackets inside them, and a plus; a comma too many, a
word that goes on, and a number that does not fit. -/
example :
    parse "\tDELETE[ a , b] " = .ok (some (.delete ["a", "b"]))
      ∧ parse "WRITE [ (a,(1,2]) , (b [], x y )]"
        = .ok (some (.write [("a", "(1,2]"), ("b []", "x y")]))
      ∧ parse "WAIT +007" = .ok (some (.wait 7))
      ∧ parse "READ [a,,b]" = .error .emptyKey
      ∧ parse "WAIT5" = .error (.unknownCommand "WAIT5")
      ∧ parse "WAIT 18446744073709551616" = .error (.waitExpected "18446744073709551616") := by
  decide +kernel

end Job.Command

end KeyWatch
