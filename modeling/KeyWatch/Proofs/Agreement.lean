/-
# Proofs.Agreement -- job scripts and clients name keys alike

Job scripts and clients are read by two parsers. One cuts a list at its commas, the other one takes
the brackets to hold one key and refuses a comma. Both find the word of a line and what stands
behind it in the same way (`Command.behind_iff`), so each parser is told by the arguments that its
commands take (`Job.Command.parse_append_iff`, `Client.Command.parse_append_iff`), and these are the
same where a key or a number is wanted (`keys_singleton_iff`).

A key that a script has written has no comma and no blanks around it, whatever else it holds. So it
can stand between brackets (`readers_agree`).
-/
import KeyWatch.Client.Command
import KeyWatch.Proofs.Restoring

namespace KeyWatch

set_option autoImplicit false

open Text

/-! ## What stands behind a word -/

namespace Text

theorem mem_trim_iff {c : Char} (solid : isBlank c = false) (text : List Char) :
    c ∈ trim text ↔ c ∈ text := by
  refine ⟨mem_of_mem_trim, fun member => ?_⟩
  obtain ⟨-, before, after, blank, blank', whole⟩ := trims_trim text
  have free {gap : List Char} (blank : Blank gap) : c ∉ gap := fun among => by
    rw [blank c among] at solid
    cases solid
  rw [whole] at member
  simpa [free blank, free blank'] using member

theorem trimEnd_append_solid {c : Char} (text : List Char) (solid : isBlank c = false) :
    trimEnd (text ++ [c]) = text ++ [c] := by
  simp [trimEnd, solid]

end Text

namespace Command

/-- Behind the word of a command stands what does not go on with the word, and has such
arguments. -/
def Behind (takes : List Char → Prop) (behind : List Char) : Prop :=
  word (trimEnd behind) = [] ∧ takes (arguments (trimEnd behind))

variable {name : List Char}

/-- Blanks around a line that starts with a word are those behind it. -/
theorem trim_append_of_solid (some : name ≠ []) (solid : ∀ c ∈ name, isBlank c = false)
    (behind : List Char) : trim (name ++ behind) = name ++ trimEnd behind := by
  obtain ⟨after, blank, whole, ends⟩ := trimEnd_spec behind
  have tight : Tight (name ++ trimEnd behind) := by
    refine ⟨fun c first => ?_, fun c last => ?_⟩
    · rw [List.head?_append_of_ne_nil _ some] at first
      exact solid c (List.mem_of_mem_head? first)
    · rw [List.getLast?_append] at last
      cases final : (trimEnd behind).getLast? with
      | none =>
        rw [final, Option.none_or] at last
        exact solid c (List.mem_of_getLast? last)
      | some d =>
        rw [final] at last
        cases last
        exact ends c final
  refine Trims.eq ⟨tight, [], after, List.forall_mem_nil _, blank, ?_⟩
  rw [List.nil_append, List.append_assoc, ← whole]

/-- **A line that starts with a word has this word when nothing behind goes on with it,** and its
arguments are those of what stands behind. -/
theorem behind_iff (some : name ≠ []) (plain : ∀ c ∈ name, endsWord c = false)
    (takes : List Char → Prop) (behind : List Char) :
    word (trim (name ++ behind)) = name ∧ takes (arguments (trim (name ++ behind)))
      ↔ Behind takes behind := by
  have solid : ∀ c ∈ name, isBlank c = false := fun c member =>
    (Bool.or_eq_false_iff.1 (plain c member)).1
  have named : ∀ c ∈ name, (!endsWord c) = true := fun c member => by rw [plain c member]; rfl
  rw [trim_append_of_solid some solid, word, arguments, List.takeWhile_append_of_pos named,
    List.dropWhile_append_of_pos named]
  exact and_congr_left' List.append_right_eq_self

end Command

/-! ## Jobs -/

namespace Job.Command

open KeyWatch.Command

/-- **One key between commas is a text without any.** -/
theorem keys_singleton_iff (body : List Char) (key : String) :
    Keys body [key] ↔ ',' ∉ body ∧ trim body ≠ [] ∧ key = String.ofList (trim body) := by
  constructor
  · rintro ⟨parts, ⟨-, free, whole⟩, nonempty, found⟩
    obtain ⟨part, rfl, rfl⟩ := List.map_eq_singleton_iff.1 found.symm
    rw [List.intercalate_singleton] at whole
    subst whole
    exact ⟨free _ (List.mem_singleton_self _), nonempty _ (List.mem_singleton_self _), rfl⟩
  · rintro ⟨free, nonempty, rfl⟩
    refine ⟨[body], ⟨List.cons_ne_nil _ _, List.forall_mem_singleton.2 free, ?_⟩,
      List.forall_mem_singleton.2 nonempty, rfl⟩
    rw [List.intercalate_singleton]

theorem parse_append_iff (command : Command) (behind : String) :
    parse (command.name ++ behind) = .ok (some command)
      ↔ Behind (command.Takes ·) behind.toList := by
  have some : command.name.toList ≠ [] := by
    cases command <;> (simp only [name]; decide)
  rw [parse_eq_some_iff, written_iff (tight_trim _), String.toList_append,
    behind_iff some command.plain_name (command.Takes ·)]

end Job.Command

/-! ## Clients -/

namespace Client.Command

open KeyWatch.Command
open Job.Command (Keys Delay)

/-- The word of a command. -/
def name : Command → String
  | .subscribe _ => "SUBSCRIBE"
  | .unsubscribe _ => "UNSUBSCRIBE"
  | .delay _ => "DELAY"
  | .disconnect => "DISCONNECT"

/-- What stands behind the word of a command, without the blanks around it: the arguments of a job
that names one key, or that waits. -/
def Takes (arguments : List Char) : Command → Prop
  | .subscribe key => ∃ body, arguments = '[' :: body ++ [']'] ∧ Keys body [key]
  | .unsubscribe key => ∃ body, arguments = '[' :: body ++ [']'] ∧ Keys body [key]
  | .delay milliseconds => Delay arguments milliseconds
  | .disconnect => arguments = []

theorem key_eq_ok_iff (text : List Char) (found : String) :
    key text = .ok found ↔ ∃ body, text = '[' :: body ++ [']'] ∧ Keys body [found] := by
  have read {inner : List Char} (bracketed : bracketed? text = some inner) :
      key text = .ok found ↔ ',' ∉ inner ∧ inner ≠ [] ∧ found = String.ofList inner := by
    unfold key
    rw [bracketed]
    dsimp only
    split
    · next fault =>
      constructor
      · rintro ⟨⟩
      · rintro ⟨free, some, -⟩
        exact absurd fault (not_or.2 ⟨some, free⟩)
    · next sound =>
      obtain ⟨some, free⟩ := not_or.1 sound
      simp [free, some, eq_comm]
  simp only [Job.Command.keys_singleton_iff]
  constructor
  · intro answer
    cases bracketed : bracketed? text with
    | none =>
      rw [key, bracketed] at answer
      cases answer
    | some inner =>
      obtain ⟨free, some, named⟩ := (read bracketed).1 answer
      obtain ⟨body, whole, rfl⟩ := (bracketed?_eq_some_iff text inner).1 bracketed
      exact ⟨body, whole, mt (mem_trim_iff rfl body).2 free, some, named⟩
  · rintro ⟨body, whole, free, some, named⟩
    refine (read ((bracketed?_eq_some_iff text _).2 ⟨body, whole, rfl⟩)).2 ⟨?_, some, named⟩
    exact mt mem_of_mem_trim free

theorem milliseconds_eq_ok_iff (text : List Char) (found : Nat) :
    milliseconds text = .ok found ↔ Delay text found := by
  rw [← Job.Command.delay_eq_ok_iff, milliseconds, Job.Command.delay]
  cases decimal? maxWord text <;> simp

/-- No word of a command has an end before its own. -/
theorem plain_name (command : Command) : ∀ c ∈ command.name.toList, endsWord c = false := by
  have plain : command.name.toList.all (!endsWord ·) = true := by
    cases command <;> (simp only [name]; decide)
  intro c member
  simpa using List.all_eq_true.1 plain c member

/-- **A line of a client is read as the command whose word it has and whose arguments it gives.** -/
theorem parse_eq_some_iff (text : String) (command : Command) :
    parse text = .ok (some command) ↔ word (trim text.toList) = command.name.toList
      ∧ command.Takes (arguments (trim text.toList)) := by
  unfold parse
  generalize trim text.toList = line
  dsimp only
  by_cases silent : isSilent line = true
  · rw [if_pos silent]
    constructor
    · rintro ⟨⟩
    · rintro ⟨named, -⟩
      have loud : isSilent line = false := by
        refine not_silent_of_word ?_
        rw [named]
        cases command <;> simp [name]
      rw [silent] at loud
      cases loud
  · have same : word line = command.name.toList ↔ String.ofList (word line) = command.name := by
      rw [← String.toList_inj, String.toList_ofList]
    rw [if_neg silent, same]
    generalize String.ofList (word line) = found
    split
    case h_4 =>
      split
      · next nothing => cases command <;> simp [name, Takes, nothing]
      · next some => cases command <;> simp [name, Takes, some]
    case h_5 =>
      -- the word is none of the four
      cases command <;> simp_all [name]
    all_goals
      simp only [map_eq_ok_iff, key_eq_ok_iff, milliseconds_eq_ok_iff]
      cases command <;> simp [name, Takes]

theorem parse_append_iff (command : Command) (behind : String) :
    parse (command.name ++ behind) = .ok (some command)
      ↔ Behind (command.Takes ·) behind.toList := by
  have some : command.name.toList ≠ [] := by
    cases command <;> (simp only [name]; decide)
  rw [parse_eq_some_iff, String.toList_append, behind_iff some command.plain_name (command.Takes ·)]

end Client.Command

/-! ## Agreement -/

/-- A key without a comma and without blanks around it is named between brackets. -/
theorem Job.Command.Plain.behind {pair : String × String} (plain : Plain pair) :
    Command.Behind (fun arguments => ∃ body, arguments = '[' :: body ++ [']']
      ∧ Job.Command.Keys body [pair.1]) (" [" ++ pair.1 ++ "]").toList := by
  have shown : (" [" ++ pair.1 ++ "]").toList = ' ' :: ('[' :: pair.1.toList ++ [']']) := by
    rw [String.toList_append, String.toList_append]
    rfl
  have ended : trimEnd (' ' :: ('[' :: pair.1.toList ++ [']']))
      = ' ' :: ('[' :: pair.1.toList ++ [']']) := trimEnd_append_solid (' ' :: '[' :: _) rfl
  rw [shown]
  refine ⟨by rw [ended]; rfl, pair.1.toList, ?_, ?_⟩
  · rw [ended, Command.arguments, List.dropWhile_cons_of_neg (by decide), trim_cons_blank _ _ rfl]
    exact (Job.Command.tight_brackets pair.1.toList).trim_eq
  · rw [Job.Command.keys_singleton_iff, plain.key.trim_eq, String.ofList_toList]
    exact ⟨plain.keyFree.1, plain.keySome, rfl⟩

/-- **Job scripts and clients agree on keys and on numbers.** Whatever stands behind the word, a
client subscribes to a key if and only if it would unsubscribe from it and a job would read that key
alone, and a client takes a delay if and only if a job would wait as long. Every key that a line
writes can be read, deleted and subscribed to by its name. -/
theorem readers_agree :
    (∀ behind key,
      (Client.Command.parse ("SUBSCRIBE" ++ behind) = .ok (some (.subscribe key))
        ↔ Client.Command.parse ("UNSUBSCRIBE" ++ behind) = .ok (some (.unsubscribe key)))
      ∧ (Client.Command.parse ("UNSUBSCRIBE" ++ behind) = .ok (some (.unsubscribe key))
        ↔ Job.Command.parse ("READ" ++ behind) = .ok (some (.read [key]))))
    ∧ (∀ behind milliseconds,
      Client.Command.parse ("DELAY" ++ behind) = .ok (some (.delay milliseconds))
        ↔ Job.Command.parse ("WAIT" ++ behind) = .ok (some (.wait milliseconds)))
    ∧ ∀ line pairs, Job.Command.parse line = .ok (some (.write pairs)) → ∀ pair ∈ pairs,
      Job.Command.parse ("READ [" ++ pair.1 ++ "]") = .ok (some (.read [pair.1]))
      ∧ Job.Command.parse ("DELETE [" ++ pair.1 ++ "]") = .ok (some (.delete [pair.1]))
      ∧ Client.Command.parse ("SUBSCRIBE [" ++ pair.1 ++ "]") = .ok (some (.subscribe pair.1)) := by
  refine ⟨fun behind key => ⟨?_, ?_⟩, fun behind milliseconds => ?_, ?_⟩
  · exact (Client.Command.parse_append_iff (.subscribe key) behind).trans
      (Client.Command.parse_append_iff (.unsubscribe key) behind).symm
  · exact (Client.Command.parse_append_iff (.unsubscribe key) behind).trans
      (Job.Command.parse_append_iff (.read [key]) behind).symm
  · exact (Client.Command.parse_append_iff (.delay milliseconds) behind).trans
      (Job.Command.parse_append_iff (.wait milliseconds) behind).symm
  · intro line pairs parsed pair member
    have named := (Job.Command.plain_of_parse parsed pair member).behind
    have gap (word : String) :
        word ++ " [" ++ pair.1 ++ "]" = word ++ (" [" ++ pair.1 ++ "]") := by
      simp only [String.append_assoc]
    refine ⟨?_, ?_, ?_⟩
    · exact (gap "READ").symm ▸ (Job.Command.parse_append_iff (.read [pair.1]) _).2 named
    · exact (gap "DELETE").symm ▸ (Job.Command.parse_append_iff (.delete [pair.1]) _).2 named
    · exact (gap "SUBSCRIBE").symm ▸ (Client.Command.parse_append_iff (.subscribe pair.1) _).2 named

/-- A key with a bracket, a parenthesis and a blank in it, behind a key that ends like a list. -/
theorem readers_agree_bracketed_keys :
    Job.Command.parse "WRITE [(b],2), ( [a (1 ,x)]"
        = .ok (some (.write [("b]", "2"), ("[a (1", "x")]))
      ∧ Job.Command.parse "READ [[a (1]" = .ok (some (.read ["[a (1"]))
      ∧ Job.Command.parse "DELETE [b]]" = .ok (some (.delete ["b]"]))
      ∧ Client.Command.parse "SUBSCRIBE [[a (1]" = .ok (some (.subscribe "[a (1"))
      ∧ Client.Command.parse "UNSUBSCRIBE [[a (1]" = .ok (some (.unsubscribe "[a (1")) := by
  have written : Job.Command.parse "WRITE [(b],2), ( [a (1 ,x)]"
      = .ok (some (.write [("b]", "2"), ("[a (1", "x")])) := by decide +kernel
  obtain ⟨keys, -, named⟩ := readers_agree
  have first := named _ _ written ("b]", "2") (by simp)
  have second := named _ _ written ("[a (1", "x") (by simp)
  exact ⟨written, second.1, first.2.1, second.2.2, (keys " [[a (1]" "[a (1").1.1 second.2.2⟩

end KeyWatch
