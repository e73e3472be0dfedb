/-
# Proofs.ClientInput -- what a client sends for its input

What a client sends is told by the lines of its input alone (`Client.inquiries`): the inquiries
whose keys fit the protocol, up to the first line at which it leaves, and then one disconnect. A
line that makes no inquiry is as good as no line. Of the server nothing else is needed than that it
keeps the session open and answers each request with a response of its kind (`Client.Serves`), so
that no answer is left for a later call; the workers of this server do that (`Host.serves_talk`).

How the last line ends does not count: a carriage return is a blank to whoever reads commands, and
bytes are text with it or without it (`held_append_return`).
-/
import KeyWatch.Client.Console
import KeyWatch.Proofs.Asking
import KeyWatch.Proofs.Decoding
import KeyWatch.Proofs.Trimmed

namespace KeyWatch

set_option autoImplicit false

/-! ## Lines -/

namespace Text

/-- Lines behind a line feed are read for themselves. -/
theorem linesAfter_append_feed (read first second : Bytes) :
    linesAfter read (first ++ 10 :: second) = linesAfter read (first ++ [10]) ++ lines second := by
  induction first generalizing read with
  | nil => rfl
  | cons byte rest ih =>
    rw [List.cons_append, List.cons_append, linesAfter, linesAfter]
    split
    · exact congrArg (_ :: ·) (ih [])
    · exact ih (byte :: read)

theorem linesAfter_append_of_free {line : Bytes} (free : 10 ∉ line) (read behind : Bytes) :
    linesAfter read (line ++ behind) = linesAfter (line.reverse ++ read) behind := by
  induction line generalizing read with
  | nil => rfl
  | cons byte rest ih =>
    obtain ⟨apart, free⟩ := not_or.1 (mt List.mem_cons.2 free)
    rw [List.cons_append, linesAfter, if_neg (Ne.symm apart), ih free]
    simp

theorem lines_of_free {line : Bytes} (free : 10 ∉ line) :
    lines line = if line = [] then [] else [line] := by
  have read := linesAfter_append_of_free free [] []
  rw [List.append_nil, List.append_nil, linesAfter, List.isEmpty_reverse, List.reverse_reverse]
    at read
  rw [lines, read]
  cases line <;> rfl

theorem lines_feed_of_free {line : Bytes} (free : 10 ∉ line) :
    lines (line ++ [10]) = [(dropReturn line.reverse).reverse] := by
  have read := linesAfter_append_of_free free [] [10]
  rw [List.append_nil] at read
  exact read

/-- The input with its last line ended. -/
def ended (input : Bytes) : Bytes :=
  if input = [] ∨ input.getLast? = some 10 then input else input ++ [10]

theorem lines_ended_append (input second : Bytes) :
    lines (ended input ++ second) = lines (ended input) ++ lines second := by
  have feed (front : Bytes) :
      lines (front ++ [10] ++ second) = lines (front ++ [10]) ++ lines second := by
    rw [List.append_assoc]
    exact linesAfter_append_feed [] front second
  unfold ended
  split
  · next ends =>
    rcases ends with rfl | ends
    · rfl
    · obtain ⟨front, rfl⟩ := List.getLast?_eq_some_iff.1 ends
      exact feed front
  · exact feed input

/-- Closing the last line may lose it a carriage return, and does nothing else. -/
theorem map_linesAfter_feed {α : Type} {look : Bytes → α}
    (same : ∀ read, look (dropReturn read).reverse = look read.reverse) {read input : Bytes}
    (some : read ≠ [] ∨ input ≠ []) (isOpen : input.getLast? ≠ .some 10) :
    (linesAfter read (input ++ [10])).map look = (linesAfter read input).map look := by
  induction input generalizing read with
  | nil =>
    have nonempty : read.isEmpty = false := by simpa using some
    show [look (dropReturn read).reverse] = _
    rw [linesAfter, nonempty, same]
    rfl
  | cons byte rest ih =>
    rw [List.cons_append, linesAfter, linesAfter]
    split
    · next feed =>
      subst feed
      have more : rest ≠ [] := by
        rintro rfl
        exact isOpen rfl
      rw [List.getLast?_cons_of_ne_nil more] at isOpen
      rw [List.map_cons, List.map_cons, ih (.inr more) isOpen]
    · refine ih (.inl (List.cons_ne_nil _ _)) ?_
      cases rest with
      | nil => nofun
      | cons next rest => rwa [List.getLast?_cons_cons] at isOpen

theorem map_lines_ended {α : Type} {look : Bytes → α}
    (same : ∀ read, look (dropReturn read).reverse = look read.reverse) (input : Bytes) :
    (lines (ended input)).map look = (lines input).map look := by
  unfold ended
  split
  · rfl
  · next isOpen =>
    obtain ⟨some, isOpen⟩ := not_or.1 isOpen
    exact map_linesAfter_feed same (.inr some) isOpen

/-- **With a carriage return behind them bytes are text if and only if they are without it.** -/
theorem decode_append_return (line : Bytes) :
    (decode (line ++ [13])).toOption = (decode line).toOption.map (· ++ "\r") := by
  have return_utf8 : utf8 "\r" = [13] := by decide
  cases read : decode line with
  | ok text =>
    obtain rfl := (decode_eq_ok_iff line text).1 read
    rw [← return_utf8, ← utf8_append, decode_utf8]
    rfl
  | error fault =>
    cases longer : decode (line ++ [13]) with
    | error other => rfl
    | ok text =>
      have whole := (decode_eq_ok_iff _ text).1 longer
      rw [utf8_eq_flatMap] at whole
      rcases List.eq_nil_or_concat text.toList with nothing | ⟨front, c, ends⟩
      · rw [nothing] at whole
        cases line <;> cases whole
      · obtain ⟨bytes, byte, encoded⟩ :=
          (List.eq_nil_or_concat (String.utf8EncodeChar c)).resolve_left
            String.utf8EncodeChar_ne_nil
        rw [List.concat_eq_append] at ends encoded
        rw [ends, List.flatMap_append, List.flatMap_singleton, encoded, ← List.append_assoc]
          at whole
        -- the last byte is ASCII, so it is all of the last character
        obtain ⟨before, last⟩ := List.append_inj' whole rfl
        cases last
        have member : (13 : UInt8) ∈ String.utf8EncodeChar c := by rw [encoded]; simp
        have alone := (encoded_of_ascii member (by decide)).1
        obtain rfl : bytes = [] := by simpa [encoded] using alone
        rw [List.append_nil] at before
        have text : decode line = .ok (String.ofList front) := by
          rw [decode_eq_ok_iff, utf8_eq_flatMap, String.toList_ofList, before]
        rw [read] at text
        cases text

end Text

namespace Client

/-! ## What input asks for -/

/-- What a line of input holds: its command, if it has one; `none` for a line that is not text. -/
def held (line : Bytes) : Option (Option Command) :=
  (Text.decode line).toOption.map fun text => (Command.parse text).toOption.join

/-- Whether a client leaves at a line that holds this. -/
def leaves : Option (Option Command) → Bool
  | none => true
  | some (some .disconnect) => true
  | _ => false

/-- The inquiry that a command is. -/
def Command.inquiry? : Command → Option Inquiry
  | subscribe key => some (.subscribe key)
  | unsubscribe key => some (.unsubscribe key)
  | _ => none

/-- The inquiry that is sent for a line which holds this: none for a key that does not fit. -/
def sent? (held : Option (Option Command)) : Option Inquiry :=
  (held.join.bind Command.inquiry?).filter (·.key.utf8ByteSize ≤ 41)

/-- The inquiries of an input, up to the first line at which the client leaves. -/
def inquiries (lines : List Bytes) : List Inquiry :=
  ((lines.map held).takeWhile (!leaves ·)).filterMap sent?

theorem inquiries_cons (line : Bytes) (rest : List Bytes) : inquiries (line :: rest)
    = if leaves (held line) = true then [] else (sent? (held line)).toList ++ inquiries rest := by
  unfold inquiries
  rw [List.map_cons, List.takeWhile_cons]
  cases leaves (held line) with
  | true => rfl
  | false => cases sent : sent? (held line) <;> simp [sent]

theorem inquiries_congr {lines other : List Bytes} (same : lines.map held = other.map held) :
    inquiries lines = inquiries other := by
  rw [inquiries, same, inquiries]

/-- Lines behind one at which the client leaves are not looked at. -/
theorem inquiries_append {more : List Bytes}
    (ends : ∀ line, more.head? = some line → leaves (held line) = true) (lines : List Bytes) :
    inquiries (lines ++ more) = inquiries lines := by
  induction lines with
  | nil =>
    cases more with
    | nil => rfl
    | cons line rest => rw [List.nil_append, inquiries_cons, if_pos (ends line rfl)]; rfl
  | cons line rest ih => rw [List.cons_append, inquiries_cons, inquiries_cons, ih]

/-- A line that makes a client send nothing and go on: a blank line or a comment, one that is no
command, a delay, an inquiry about a key that does not fit. -/
def Idle (line : Bytes) : Prop :=
  ∃ text, Text.decode line = .ok text ∧
    match Command.parse text with
    | .error _ => True
    | .ok none => True
    | .ok (some (.delay _)) => True
    | .ok (some (.subscribe key)) => 41 < key.utf8ByteSize
    | .ok (some (.unsubscribe key)) => 41 < key.utf8ByteSize
    | .ok (some .disconnect) => False

theorem Idle.goes_on {line : Bytes} (idle : Idle line) :
    leaves (held line) = false ∧ sent? (held line) = none := by
  obtain ⟨text, read, holds⟩ := idle
  unfold held
  rw [read]
  dsimp only [Except.toOption, Option.map_some]
  split at holds
  · next parsed => rw [parsed]; exact ⟨rfl, rfl⟩
  · next parsed => rw [parsed]; exact ⟨rfl, rfl⟩
  · next parsed => rw [parsed]; exact ⟨rfl, rfl⟩
  · next key parsed =>
    rw [parsed]
    exact ⟨rfl, Option.filter_some_eq_none.2 (mt of_decide_eq_true (Nat.not_le.2 holds))⟩
  · next key parsed =>
    rw [parsed]
    exact ⟨rfl, Option.filter_some_eq_none.2 (mt of_decide_eq_true (Nat.not_le.2 holds))⟩
  · cases holds

theorem inquiries_insert_idle {idle : Bytes} (passes : Idle idle) (before after : List Bytes) :
    inquiries (before ++ idle :: after) = inquiries (before ++ after) := by
  obtain ⟨stays, nothing⟩ := passes.goes_on
  induction before with
  | nil =>
    rw [List.nil_append, List.nil_append, inquiries_cons, stays, nothing]
    rfl
  | cons line rest ih => rw [List.cons_append, List.cons_append, inquiries_cons, inquiries_cons, ih]

/-- Every inquiry of an input fits. -/
theorem fits_of_mem_inquiries {lines : List Bytes} {inquiry : Inquiry}
    (member : inquiry ∈ inquiries lines) : Kind.request.Fits inquiry.request := by
  obtain ⟨held', -, sent⟩ := List.mem_filterMap.1 member
  exact inquiry.fits_request_iff.2 (by simpa using (Option.filter_eq_some_iff.1 sent).2)

theorem parse_append_return (text : String) :
    Command.parse (text ++ "\r") = Command.parse text := by
  have same : Text.trim (text ++ "\r").toList = Text.trim text.toList := by
    rw [String.toList_append]
    exact Text.trim_append_right _ (List.forall_mem_singleton.2 rfl)
  unfold Command.parse
  rw [same]

/-- **A carriage return at its end does not change what a line holds.** -/
theorem held_append_return (line : Bytes) : held (line ++ [13]) = held line := by
  rw [held, held, Text.decode_append_return, Option.map_map]
  exact congrArg (Option.map · _) (funext fun text =>
    congrArg (·.toOption.join) (parse_append_return text))

theorem held_dropReturn (read : Bytes) :
    held (Text.dropReturn read).reverse = held read.reverse := by
  unfold Text.dropReturn
  split
  · next line => rw [List.reverse_cons, held_append_return]
  · rfl

/-- What a line holds tells the move that it asks for, but for the words of a complaint. -/
theorem ofLine_cases (line : Bytes) :
    (held line = none ∧ Move.ofLine line = .leave)
      ∨ (held line = some none
        ∧ (Move.ofLine line = .pass ∨ ∃ fault, Move.ofLine line = .complain fault))
      ∨ ∃ command, held line = some (some command) ∧ Move.ofLine line = command.move := by
  unfold held Move.ofLine
  cases Text.decode line with
  | error fault => exact .inl ⟨rfl, rfl⟩
  | ok text =>
    dsimp only [Except.toOption, Option.map_some]
    cases Command.parse text with
    | error fault => exact .inr (.inl ⟨rfl, .inr ⟨fault, rfl⟩⟩)
    | ok command? =>
      cases command? with
      | none => exact .inr (.inl ⟨rfl, .inl rfl⟩)
      | some command => exact .inr (.inr ⟨command, rfl, rfl⟩)

/-! ## Servers -/

/-- A server that keeps the session open: it says nothing unasked, and answers each request with
one response of its kind. -/
structure Serves {σ : Type} (talk : σ → Bytes → Bytes × σ) (isOpen : σ → Prop) : Prop where
  quiet : ∀ server, isOpen server → (talk server []).1 = [] ∧ isOpen (talk server []).2
  answers : ∀ server (request : Request) (bytes : Bytes), isOpen server →
    request.encode = .ok bytes → ∃ response : Response, response.opcode = request.opcode
      ∧ (talk server bytes).1 = response.encode
      ∧ (request ≠ .disconnect → isOpen (talk server bytes).2)

namespace Console

variable {σ : Type} {talk : σ → Bytes → Bytes × σ} {isOpen : σ → Prop} {console : Console σ}

/-- A client between two lines: its session is open, whatever it writes is taken, and every response
was read. -/
structure Ready (isOpen : σ → Prop) (console : Console σ) : Prop where
  server : isOpen console.server
  lossless : console.line.requests.Healthy
  nothing : console.line.responses = []

/-- **A request that fits is sent and answered.** -/
theorem ask_of_encode (serves : Serves talk isOpen) (ready : console.Ready isOpen)
    {request : Request} {bytes : Bytes} (encoded : request.encode = .ok bytes) :
    let asked := console.ask talk request
    (∃ response, asked.1 = .ok (granted request response))
      ∧ asked.2.line.requests.taken = console.line.requests.taken ++ bytes
      ∧ (request ≠ .disconnect → asked.2.Ready isOpen) := by
  obtain ⟨fits, rfl⟩ := (Kind.request.encode_eq_ok_iff request bytes).1 encoded
  obtain ⟨response, meets, answer, goesOn⟩ := serves.answers _ _ _ ready.server encoded
  have asked := console.line.request_of_answer talk console.server fits ready.lossless ready.nothing
    meets (Prod.ext answer rfl)
  unfold ask
  rw [asked]
  exact ⟨⟨response, rfl⟩, rfl, fun stays => ⟨goesOn stays, ready.lossless, rfl⟩⟩

/-- **A request that does not fit is not sent,** and nothing else changes between client and
server. -/
theorem ask_of_error (serves : Serves talk isOpen) (ready : console.Ready isOpen)
    {request : Request} {fault : WireFault} (refused : request.encode = .error fault) :
    let asked := console.ask talk request
    asked.2.line.requests.taken = console.line.requests.taken ∧ asked.2.Ready isOpen := by
  obtain ⟨silent, still⟩ := serves.quiet _ ready.server
  have asked := console.line.request_of_error talk console.server refused
  rw [silent, List.append_nil] at asked
  unfold ask
  rw [asked]
  exact ⟨rfl, still, ready.lossless, ready.nothing⟩

/-- A client asks what a line makes it ask, and is ready for the next line. -/
theorem ask_inquiry (serves : Serves talk isOpen) (ready : console.Ready isOpen)
    (inquiry : Inquiry) :
    let asked := console.ask talk inquiry.request
    asked.2.Ready isOpen
      ∧ asked.2.line.requests.taken = console.line.requests.taken
        ++ if inquiry.key.utf8ByteSize ≤ 41 then Kind.request.frame inquiry.request else [] := by
  intro asked
  split
  · next short =>
    have encoded := (Kind.request.encode_eq_ok_iff inquiry.request _).2
      ⟨inquiry.fits_request_iff.2 short, rfl⟩
    obtain ⟨-, sent, goesOn⟩ := ask_of_encode serves ready encoded
    exact ⟨goesOn (by cases inquiry <;> nofun), sent⟩
  · next long =>
    obtain ⟨sent, still⟩ := ask_of_error serves ready (inquiry.encode_of_long (Nat.not_le.1 long))
    exact ⟨still, by rw [List.append_nil]; exact sent⟩

/-- The bytes that are sent for a line which holds this. -/
def bytesOf (held : Option (Option Command)) : Bytes :=
  (sent? held).elim [] fun inquiry => Kind.request.frame inquiry.request

theorem bytesOf_of_inquiry (command : Command) (inquiry : Inquiry)
    (asks : command.inquiry? = some inquiry) : bytesOf (some (some command))
      = if inquiry.key.utf8ByteSize ≤ 41 then Kind.request.frame inquiry.request else [] := by
  have wished : sent? (some (some command))
      = if inquiry.key.utf8ByteSize ≤ 41 then some inquiry else none := by
    rw [sent?, Option.join_some, Option.bind_some, asks, Option.filter_some]
    simp only [decide_eq_true_eq]
  rw [bytesOf, wished]
  split <;> rfl

/-- **What a line at which the client stays makes it do:** it sends the inquiry of the line, if
there is one, and is ready for the next line. -/
theorem obey_spec (serves : Serves talk isOpen) (ready : console.Ready isOpen) {line : Bytes}
    (stays : leaves (held line) = false) :
    let after := console.obey talk (Move.ofLine line)
    after.Ready isOpen
      ∧ after.line.requests.taken = console.line.requests.taken ++ bytesOf (held line) := by
  have obeyed {move : Move} (moves : Move.ofLine line = move) :
      console.obey talk (Move.ofLine line) = console.obey talk move := congrArg _ moves
  -- a move that leaves the client's ends of its channels and the server alone
  have idle {same : Console σ} (server : same.server = console.server)
      (ends : same.line = console.line) : same.Ready isOpen
        ∧ same.line.requests.taken = console.line.requests.taken ++ [] := by
    rw [List.append_nil, ends]
    exact ⟨⟨server ▸ ready.server, ends ▸ ready.lossless, ends ▸ ready.nothing⟩, rfl⟩
  have asks (inquiry : Inquiry) := ask_inquiry serves ready inquiry
  rcases ofLine_cases line with
    ⟨holds, -⟩ | ⟨holds, moves | ⟨fault, moves⟩⟩ | ⟨command, holds, moves⟩
  · rw [holds] at stays
    cases stays
  · rw [obeyed moves, holds]
    exact idle rfl rfl
  · rw [obeyed moves, holds]
    exact idle rfl rfl
  · rw [obeyed moves, holds]
    cases command with
    | subscribe key =>
      rw [bytesOf_of_inquiry _ (.subscribe key) rfl]
      exact asks (.subscribe key)
    | unsubscribe key =>
      rw [bytesOf_of_inquiry _ (.unsubscribe key) rfl]
      exact asks (.unsubscribe key)
    | delay milliseconds => cases milliseconds <;> exact idle rfl rfl
    | disconnect =>
      rw [holds] at stays
      cases stays

/-- **Leaving is one disconnect.** -/
theorem leave_spec (serves : Serves talk isOpen) (ready : console.Ready isOpen) :
    (console.leave talk).1 = .ok true
      ∧ (console.leave talk).2.line.requests.taken
        = console.line.requests.taken ++ Kind.request.frame .disconnect := by
  have encoded : Request.disconnect.encode = .ok (Kind.request.frame .disconnect) := rfl
  obtain ⟨⟨response, done⟩, sent, -⟩ := ask_of_encode serves ready encoded
  exact ⟨done, sent⟩

theorem run_cons (line : Bytes) (rest : List Bytes) : console.run talk (line :: rest)
    = if leaves (held line) = true then console.leave talk
      else (console.obey talk (Move.ofLine line)).run talk rest := by
  rcases ofLine_cases line with
    ⟨holds, moves⟩ | ⟨holds, moves | ⟨fault, moves⟩⟩ | ⟨command, holds, moves⟩
  · rw [run, moves, holds]
    rfl
  · rw [run, moves, holds]
    rfl
  · rw [run, moves, holds]
    rfl
  · rw [run, moves, holds]
    cases command <;> rfl

/-- **A run sends what its lines ask for, and a disconnect.** -/
theorem run_spec (serves : Serves talk isOpen) (ready : console.Ready isOpen)
    (lines : List Bytes) :
    (console.run talk lines).1 = .ok true
      ∧ (console.run talk lines).2.line.requests.taken = console.line.requests.taken
        ++ ((inquiries lines).flatMap fun inquiry => Kind.request.frame inquiry.request)
        ++ Kind.request.frame .disconnect := by
  induction lines generalizing console with
  | nil =>
    rw [show inquiries [] = [] from rfl, List.flatMap_nil, List.append_nil]
    exact leave_spec serves ready
  | cons line rest ih =>
    rw [run_cons, inquiries_cons]
    split
    · rw [List.flatMap_nil, List.append_nil]
      exact leave_spec serves ready
    · next stays =>
      obtain ⟨still, sent⟩ := obey_spec serves ready (eq_false_of_ne_true stays)
      obtain ⟨done, onward⟩ := ih still
      refine ⟨done, ?_⟩
      rw [onward, sent, bytesOf, List.flatMap_append]
      cases sent? (held line) <;> simp

theorem mapM_encode {requests : List Request}
    (fit : ∀ request ∈ requests, Kind.request.Fits request) :
    requests.mapM Request.encode = .ok (requests.map Kind.request.frame) := by
  induction requests with
  | nil => rfl
  | cons request rest ih =>
    obtain ⟨fits, others⟩ := List.forall_mem_cons.1 fit
    rw [List.mapM_cons]
    exact (bind_eq_ok_iff _ _ _).2 ⟨_, (Kind.request.encode_eq_ok_iff request _).2 ⟨fits, rfl⟩,
      (bind_eq_ok_iff _ _ _).2 ⟨_, ih others, rfl⟩⟩

/-- **A client sends what its input asks for, and one disconnect,** against a server that keeps the
session open and answers every request, and for any input. What it asks for are the subscribes and
unsubscribes whose keys fit, of the lines before the first one that says to disconnect or is not
text; each is sent as it is encoded, in order, and nothing else is. A line that makes no inquiry and
does not say to leave is as good as no line, and an input that says to disconnect in the end sends
the same bytes as without it. -/
theorem run_sends (serves : Serves talk isOpen) (ready : console.Ready isOpen) (input : Bytes) :
    let sent (lines : List Bytes) : Bytes := (console.run talk lines).2.line.requests.taken
    (console.run talk (Text.lines input)).1 = .ok true
    ∧ (∃ frames,
        ((inquiries (Text.lines input)).map Inquiry.request ++ [Request.disconnect]).mapM
            Request.encode
          = .ok frames
        ∧ sent (Text.lines input) = console.line.requests.taken ++ frames.flatten)
    ∧ (∀ before idle after, Idle idle → sent (before ++ idle :: after) = sent (before ++ after))
    ∧ ∀ farewell, Command.parse farewell = .ok (some .disconnect) → 10 ∉ Text.utf8 farewell →
        sent (Text.lines (Text.ended input ++ Text.utf8 farewell)) = sent (Text.lines input)
        ∧ sent (Text.lines (Text.ended input ++ (Text.utf8 farewell ++ [10])))
          = sent (Text.lines input) := by
  intro sent
  have spec (lines : List Bytes) : sent lines = console.line.requests.taken
      ++ ((inquiries lines).flatMap fun inquiry => Kind.request.frame inquiry.request)
      ++ Kind.request.frame .disconnect := (run_spec serves ready lines).2
  have same {lines other : List Bytes} (alike : inquiries lines = inquiries other) :
      sent lines = sent other := by
    rw [spec, spec, alike]
  have whole : inquiries (Text.lines (Text.ended input)) = inquiries (Text.lines input) :=
    inquiries_congr (Text.map_lines_ended held_dropReturn input)
  refine ⟨(run_spec serves ready _).1, ⟨_, mapM_encode ?_, ?_⟩, fun before idle after passes =>
    same (inquiries_insert_idle passes before after), fun farewell parsed flat => ?_⟩
  · refine List.forall_mem_append.2 ⟨fun request member => ?_,
      List.forall_mem_singleton.2 Inquiry.fits_disconnect⟩
    obtain ⟨inquiry, among, rfl⟩ := List.mem_map.1 member
    exact fits_of_mem_inquiries among
  · rw [spec, List.map_append, List.flatten_append, ← List.flatMap_def, List.flatMap_map,
      ← List.append_assoc]
    simp
  · have holds : leaves (held (Text.utf8 farewell)) = true := by
      rw [held, Text.decode_utf8]
      dsimp only [Except.toOption, Option.map_some]
      rw [parsed]
      rfl
    have unread {more : Bytes} (ends : ∀ line, (Text.lines more).head? = some line →
        leaves (held line) = true) :
        sent (Text.lines (Text.ended input ++ more)) = sent (Text.lines input) := by
      rw [Text.lines_ended_append]
      exact same ((inquiries_append ends _).trans whole)
    refine ⟨unread fun line first => ?_, unread fun line first => ?_⟩
    · rw [Text.lines_of_free flat] at first
      split at first
      · cases first
      · cases first
        exact holds
    · rw [Text.lines_feed_of_free flat] at first
      cases first
      rw [held_dropReturn, List.reverse_reverse]
      exact holds

end Console

end Client

/-! ## The server of a client -/

/-- **A worker serves its client,** as long as it waits for it. -/
theorem Host.serves_talk (routes : Routes) (slot : Nat) (id : ClientId) :
    Client.Serves (talk routes slot id)
      fun host => ∃ visit, host.Waits slot visit ∧ visit.session.id = id where
  quiet := by
    rintro host ⟨visit, waits, rfl⟩
    obtain ⟨after, next, talked, waits', session, -⟩ := talk_nothing routes waits
    rw [talked]
    exact ⟨rfl, next, waits', congrArg Session.id session⟩
  answers := by
    rintro host request bytes ⟨visit, waits, rfl⟩ encoded
    obtain ⟨fits, rfl⟩ := (Kind.request.encode_eq_ok_iff request bytes).1 encoded
    have inquired (inquiry : Inquiry) (fits : Kind.request.Fits inquiry.request) :
        ∃ response : Response, response.opcode = inquiry.request.opcode
          ∧ (talk routes slot visit.session.id host (Kind.request.frame inquiry.request)).1
            = response.encode
          ∧ (inquiry.request ≠ .disconnect → ∃ next,
            (talk routes slot visit.session.id host (Kind.request.frame inquiry.request)).2.Waits
              slot next ∧ next.session.id = visit.session.id) := by
      obtain ⟨after, next, talked, waits', number, -⟩ :=
        talk_inquiry routes waits rfl inquiry (inquiry.fits_request_iff.1 fits)
      rw [talked]
      exact ⟨_, inquiry.opcode_response _, rfl, fun _ => ⟨next, waits', number⟩⟩
    cases request with
    | disconnect => exact ⟨.farewell, rfl, talk_goodbye routes waits, fun stays => absurd rfl stays⟩
    | subscribe key => exact inquired (.subscribe key) fits
    | unsubscribe key => exact inquired (.unsubscribe key) fits

namespace Client.Console

/-- Lines of every kind, one of them about a key that does not fit, and no end of the last one. -/
theorem run_sends_every_kind :
    let table : Table := ({} : Table).edit (.put "a" "1")
    let host := Host.ofService { store := { settings := {}, table := some table } }
    let routes : Routes := ⟨fun _ _ => .ok {}, fun _ _ => .ok {}, fun _ _ => .ok {}⟩
    let request : ConnectRequest := ⟨"requests", "responses", "notifications"⟩
    let isOpen (host : Host) := ∃ visit, host.Waits 0 visit ∧ visit.session.id = 1
    let console : Console Host := { server := (host.admitting 0 request).step routes 0 }
    let input := Text.utf8 ("SUBSCRIBE [a]\r\n\n# a note\nDELAY 5\nSUBSCRIBE a\n"
      ++ "SUBSCRIBE [a key of more than forty-one bytes does not fit]\n\tUNSUBSCRIBE[b]")
    Serves (Host.talk routes 0 1) isOpen ∧ console.Ready isOpen
      ∧ (console.run (Host.talk routes 0 1) (Text.lines input)).1 = .ok true
      ∧ (console.run (Host.talk routes 0 1) (Text.lines input)).2.line.requests.taken
        = 3 :: 97 :: List.replicate 40 0 ++ 4 :: 98 :: List.replicate 40 0 ++ [2] := by
  intro table host routes request isOpen console input
  have healthy : Sink.Healthy {} := ⟨⟨rfl, nofun⟩, rfl⟩
  have idle : host.workers[0]? = some .idle := rfl
  have opened : routes.openAll request = .ok ⟨{}, {}, {}⟩ := rfl
  have waits := Host.waits_of_welcomed routes idle opened healthy rfl rfl
    (fun _ among => nomatch among)
  have serves := Host.serves_talk routes 0 1
  have ready : console.Ready isOpen := ⟨⟨_, waits, rfl⟩, healthy, rfl⟩
  obtain ⟨done, ⟨frames, encoded, sent⟩, -⟩ := run_sends serves ready input
  have asked : inquiries (Text.lines input) = [.subscribe "a", .unsubscribe "b"] := by
    decide +kernel
  rw [asked] at encoded
  cases encoded
  exact ⟨serves, ready, done, sent⟩

end Client.Console

end KeyWatch
