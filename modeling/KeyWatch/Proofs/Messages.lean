/-
# Proofs.Messages -- what is written is read, message after message

A message of any kind is its header and its fields, and is written unless a text is too long for its
field (`encode_eq`). Its bytes are read back as the message with each text up to the first NUL,
whatever follows them (`read_frame`). Only a connect message can be written and then not be
accepted, if one of its paths says nothing; it is still read whole. So a reader never loses its
place: it finds the messages of a series one after another, and the bytes behind them are left
(`series_frames`).
-/
import KeyWatch.Error
import KeyWatch.Proofs.Field

namespace KeyWatch

set_option autoImplicit false

/-! ## Kinds of message -/

/-- What a message is for. -/
inductive Kind where
  | connect
  | request
  | response
  | notification
  deriving Repr, DecidableEq

/-- The texts of a request. -/
def Request.texts : Request → List String
  | .disconnect => []
  | .subscribe key => [key]
  | .unsubscribe key => [key]

/-- A request with its texts changed. -/
def Request.mapTexts (change : String → String) : Request → Request
  | .disconnect => .disconnect
  | .subscribe key => .subscribe (change key)
  | .unsubscribe key => .unsubscribe (change key)

namespace Kind

/-- The messages of a kind. -/
abbrev Message : Kind → Type
  | connect => ConnectRequest
  | request => Request
  | response => Response
  | notification => Notification

/-- The bytes for each text of a message: 40 for the path of a channel, 41 for a key or a value. -/
def width : Kind → Nat
  | connect => 40
  | _ => 41

/-- The texts of a message, in order. -/
def texts : (kind : Kind) → kind.Message → List String
  | connect, message => message.paths
  | request, message => message.texts
  | response, _ => []
  | notification, message => [message.key, message.value]

/-- A message with its texts changed. -/
def mapTexts (change : String → String) : (kind : Kind) → kind.Message → kind.Message
  | connect, ⟨requests, responses, notifications⟩ =>
    ⟨change requests, change responses, change notifications⟩
  | request, message => message.mapTexts change
  | response, message => message
  | notification, ⟨key, value⟩ => ⟨change key, change value⟩

/-- The bytes of a message. -/
def encode : (kind : Kind) → kind.Message → Except WireFault Bytes
  | connect, message => message.encode
  | request, message => message.encode
  | response, message => .ok message.encode
  | notification, message => message.encode

/-- Read a message from the front of a stream. -/
def read : (kind : Kind) → Bytes → Reading kind.Message
  | connect => ConnectRequest.read
  | request => Request.read
  | response => Response.read
  | notification => Notification.read

variable (kind : Kind)

/-- Every text fits its field. -/
def Fits (message : kind.Message) : Prop :=
  ∀ text ∈ kind.texts message, text.utf8ByteSize ≤ kind.width

/-- **What arrives of a message:** each text up to its first NUL. A connect message is refused if
one of its paths is empty or begins with NUL. -/
def arrival (message : kind.Message) : Except WireFault kind.Message :=
  if kind = connect ∧ ∃ path ∈ kind.texts message, Text.isMute path = true then .error .emptyPath
  else .ok (kind.mapTexts Text.cut message)

theorem mapTexts_eq_self {message : kind.Message} {change : String → String}
    (same : ∀ text ∈ kind.texts message, change text = text) :
    kind.mapTexts change message = message := by
  cases kind with
  | connect =>
    obtain ⟨requests, responses, notifications⟩ := message
    simp only [texts, ConnectRequest.paths, List.forall_mem_cons] at same
    simp only [mapTexts, same.1, same.2.1, same.2.2.1]
  | request =>
    cases message with
    | disconnect => rfl
    | subscribe key => exact congrArg Request.subscribe (same key (List.mem_singleton.2 rfl))
    | unsubscribe key => exact congrArg Request.unsubscribe (same key (List.mem_singleton.2 rfl))
  | response => rfl
  | notification =>
    obtain ⟨key, value⟩ := message
    simp only [texts, List.forall_mem_cons] at same
    simp only [mapTexts, same.1, same.2.1]

end Kind

/-! ## Writing -/

/-- Fields are written one after another, unless a text is too long. -/
theorem mapM_fieldBytes (width : Nat) (texts : List String) :
    texts.mapM (fieldBytes width)
      = match texts.find? fun text => width < text.utf8ByteSize with
        | some text => .error (.fieldTooLong text.utf8ByteSize width)
        | none => .ok (texts.map (padded width)) := by
  induction texts with
  | nil => rfl
  | cons text rest ih =>
    rw [List.mapM_cons, ih]
    by_cases long : width < text.utf8ByteSize
    · have refused : fieldBytes width text = .error (.fieldTooLong text.utf8ByteSize width) :=
        (fieldBytes_eq_error_iff _ _ _).2 ⟨long, rfl⟩
      rw [refused, List.find?_cons_of_pos (by simpa using long)]
      rfl
    · rw [fieldBytes_eq_ok (Nat.le_of_not_lt long), List.find?_cons_of_neg (by simpa using long)]
      cases rest.find? fun text => width < text.utf8ByteSize <;> rfl

namespace Kind

/-- What stands before the texts of a message. -/
def header : (kind : Kind) → kind.Message → Bytes
  | connect, _ => [Opcode.connect.toByte]
  | request, message => [message.opcode.toByte]
  | response, message => message.encode
  | notification, _ => []

/-- The bytes of a message whose texts fit. -/
def frame (kind : Kind) (message : kind.Message) : Bytes :=
  kind.header message ++ (kind.texts message).flatMap (padded kind.width)

variable (kind : Kind)

/-- **A message is its header and its fields.** -/
theorem encode_eq_map (message : kind.Message) :
    kind.encode message
      = ((kind.texts message).mapM (fieldBytes kind.width)).map fun fields =>
          kind.header message ++ fields.flatten := by
  -- both sides write the same fields one after another; the rest is the laws of the monad
  cases kind with
  | connect =>
    obtain ⟨requests, responses, notifications⟩ := message
    show ConnectRequest.encode _ = (fun fields => connect.header _ ++ fields.flatten)
      <$> [requests, responses, notifications].mapM (fieldBytes pathWidth)
    simp [ConnectRequest.encode, header]
  | request =>
    have keyed : ∀ (key : String) (opcode : UInt8),
        (opcode :: ·) <$> fieldBytes keyWidth key
          = (fun fields => [opcode] ++ fields.flatten) <$> [key].mapM (fieldBytes keyWidth) := by
      intro key opcode
      simp
    cases message with
    | disconnect => rfl
    | subscribe key => exact keyed key _
    | unsubscribe key => exact keyed key _
  | response => rfl
  | notification =>
    obtain ⟨key, value⟩ := message
    show Notification.encode _ = (fun fields => notification.header _ ++ fields.flatten)
      <$> [key, value].mapM (fieldBytes keyWidth)
    simp [Notification.encode, header]

/-- **A message is written unless a text is too long,** and the first such text is blamed. -/
theorem encode_eq (message : kind.Message) :
    kind.encode message
      = match (kind.texts message).find? fun text => kind.width < text.utf8ByteSize with
        | some text => .error (.fieldTooLong text.utf8ByteSize kind.width)
        | none => .ok (kind.frame message) := by
  rw [encode_eq_map, mapM_fieldBytes]
  cases (kind.texts message).find? fun text => kind.width < text.utf8ByteSize with
  | some text => rfl
  | none => simp [Except.map, frame, List.flatMap_def]

theorem find?_eq_none_iff (message : kind.Message) :
    ((kind.texts message).find? fun text => kind.width < text.utf8ByteSize) = none
      ↔ kind.Fits message := by
  simp [List.find?_eq_none, Fits]

theorem encode_eq_ok_iff (message : kind.Message) (bytes : Bytes) :
    kind.encode message = .ok bytes ↔ kind.Fits message ∧ bytes = kind.frame message := by
  rw [encode_eq, ← find?_eq_none_iff]
  cases (kind.texts message).find? fun text => kind.width < text.utf8ByteSize with
  | some text => simp
  | none => simp [eq_comm]

/-- A message that does not fit is blamed for one of its texts. -/
theorem exists_of_not_fits (message : kind.Message) (long : ¬ kind.Fits message) :
    ∃ text ∈ kind.texts message, kind.width < text.utf8ByteSize
      ∧ kind.encode message = .error (.fieldTooLong text.utf8ByteSize kind.width) := by
  rw [← find?_eq_none_iff] at long
  obtain ⟨text, found⟩ := Option.ne_none_iff_exists'.1 long
  refine ⟨text, List.mem_of_find?_eq_some found, by simpa using List.find?_some found, ?_⟩
  rw [encode_eq, found]

/-- Messages that were written one after another all fit, and are their bytes. -/
theorem fits_of_mapM_encode {messages : List kind.Message} {frames : List Bytes}
    (written : messages.mapM kind.encode = .ok frames) :
    (∀ message ∈ messages, kind.Fits message) ∧ frames.flatten = messages.flatMap kind.frame := by
  induction messages generalizing frames with
  | nil =>
    cases written
    exact ⟨by simp, rfl⟩
  | cons message rest ih =>
    rw [List.mapM_cons] at written
    cases now : kind.encode message with
    | error fault => rw [now] at written; cases written
    | ok bytes =>
      rw [now] at written
      cases later : rest.mapM kind.encode with
      | error fault => simp only [bind, Except.bind, later] at written; cases written
      | ok others =>
        simp only [bind, Except.bind, later] at written
        cases written
        obtain ⟨fits, rfl⟩ := (kind.encode_eq_ok_iff message bytes).1 now
        obtain ⟨fitRest, same⟩ := ih later
        refine ⟨List.forall_mem_cons.2 ⟨fits, fitRest⟩, ?_⟩
        rw [List.flatten_cons, List.flatMap_cons, same]

end Kind

/-! ## Reading -/

namespace Reading

variable {α : Type}

/-- The reading that finds a message, or why there is none, and leaves bytes. -/
def of : Except WireFault α → Bytes → Reading α
  | .ok value, rest => .message value rest
  | .error fault, rest => .refused fault rest

theorem map_of {β : Type} (change : α → β) (found : Except WireFault α) (rest : Bytes) :
    (of found rest).map change = of (found.map change) rest := by
  cases found <;> rfl

theorem frame_append {size : Nat} {front : Bytes} (whole : front.length = size)
    (check : Bytes → Except WireFault α) (tail : Bytes) :
    Reading.frame size check (front ++ tail) = of (check front) tail := by
  have long : ¬ (front ++ tail).length < size := by
    rw [List.length_append]
    omega
  rw [Reading.frame, if_neg long, List.take_left' whole, List.drop_left' whole]
  cases check front <;> rfl

end Reading

/-- A connect message says its three paths, unless one of them is mute. -/
theorem ConnectRequest.decode_fields {first second third : String}
    (firstFits : first.utf8ByteSize ≤ pathWidth) (secondFits : second.utf8ByteSize ≤ pathWidth) :
    ConnectRequest.decode (Opcode.connect.toByte
        :: (padded pathWidth first ++ (padded pathWidth second ++ padded pathWidth third)))
      = Kind.connect.arrival ⟨first, second, third⟩ := by
  have one := length_padded firstFits
  have two := length_padded secondFits
  have last : (padded pathWidth first ++ (padded pathWidth second ++ padded pathWidth third)).drop
      (2 * pathWidth) = padded pathWidth third := by
    rw [Nat.two_mul, ← List.drop_drop, List.drop_left' one, List.drop_left' two]
  have mute : (∃ path ∈ Kind.connect.texts ⟨first, second, third⟩, Text.isMute path = true)
      ↔ Text.cut first = "" ∨ Text.cut second = "" ∨ Text.cut third = "" := by
    simp only [Text.cut_eq_empty_iff, Kind.texts, paths, List.exists_mem_cons_iff, List.not_mem_nil,
      false_and, exists_false, or_false]
  simp only [decode, List.headD_cons, List.drop_succ_cons, List.drop_zero, List.take_left' one,
    List.drop_left' one, List.take_left' two, last, fieldText_padded, Kind.arrival, mute, ne_eq,
    not_true_eq_false, if_false, bind, Except.bind, pure, Except.pure, true_and]
  split <;> rfl

theorem ConnectRequest.read_frame (request : ConnectRequest) (fits : Kind.connect.Fits request)
    (tail : Bytes) :
    ConnectRequest.read (Kind.connect.frame request ++ tail)
      = .of (Kind.connect.arrival request) tail := by
  obtain ⟨first, second, third⟩ := request
  simp only [Kind.Fits, Kind.texts, paths, List.forall_mem_cons] at fits
  obtain ⟨firstFits, secondFits, thirdFits, -⟩ := fits
  have shape : Kind.connect.frame ⟨first, second, third⟩ = Opcode.connect.toByte
      :: (padded pathWidth first ++ (padded pathWidth second ++ padded pathWidth third)) := by
    show [_] ++ (_ ++ (_ ++ (_ ++ []))) = _
    rw [List.append_nil]
    rfl
  have whole : (Kind.connect.frame ⟨first, second, third⟩).length = connectSize := by
    have fields : (padded pathWidth first).length + ((padded pathWidth second).length
        + (padded pathWidth third).length) + 1 = connectSize := by
      have one : (padded pathWidth first).length = pathWidth := length_padded firstFits
      have two : (padded pathWidth second).length = pathWidth := length_padded secondFits
      have three : (padded pathWidth third).length = pathWidth := length_padded thirdFits
      rw [one, two, three]
      rfl
    rw [shape, List.length_cons, List.length_append, List.length_append, fields]
  rw [read, Reading.frame_append whole, shape, decode_fields firstFits secondFits]

theorem Request.read_frame (request : Request) (fits : Kind.request.Fits request) (tail : Bytes) :
    Request.read (Kind.request.frame request ++ tail)
      = .of (.ok (request.mapTexts Text.cut)) tail := by
  have keyed : ∀ key : String, key.utf8ByteSize ≤ keyWidth →
      Reading.frame keyWidth fieldText ([key].flatMap (padded keyWidth) ++ tail)
        = .of (.ok (Text.cut key)) tail := by
    intro key short
    rw [List.flatMap_singleton, Reading.frame_append (length_padded short), fieldText_padded]
  cases request with
  | disconnect => rfl
  | subscribe key =>
    show (Reading.frame keyWidth fieldText ([key].flatMap (padded keyWidth) ++ tail)).map _ = _
    rw [keyed key (fits key (List.mem_singleton.2 rfl)), Reading.map_of]
    rfl
  | unsubscribe key =>
    show (Reading.frame keyWidth fieldText ([key].flatMap (padded keyWidth) ++ tail)).map _ = _
    rw [keyed key (fits key (List.mem_singleton.2 rfl)), Reading.map_of]
    rfl

theorem Notification.length_fields {key value : String} (keyFits : key.utf8ByteSize ≤ keyWidth)
    (valueFits : value.utf8ByteSize ≤ keyWidth) :
    (padded keyWidth key ++ padded keyWidth value).length = notificationSize := by
  rw [List.length_append, length_padded keyFits, length_padded valueFits]
  rfl

theorem Notification.read_frame {key value : String} (keyFits : key.utf8ByteSize ≤ keyWidth)
    (valueFits : value.utf8ByteSize ≤ keyWidth) (tail : Bytes) :
    Notification.read (padded keyWidth key ++ padded keyWidth value ++ tail)
      = .message ⟨Text.cut key, Text.cut value⟩ tail := by
  have front := length_padded keyFits
  rw [read, Reading.frame_append (length_fields keyFits valueFits), decode, List.take_left' front,
    List.drop_left' front, fieldText_padded, fieldText_padded]
  rfl

namespace Kind

variable (kind : Kind)

/-- **What was written is read,** whatever follows it. -/
theorem read_frame (message : kind.Message) (fits : kind.Fits message) (tail : Bytes) :
    kind.read (kind.frame message ++ tail) = .of (kind.arrival message) tail := by
  cases kind with
  | connect => exact ConnectRequest.read_frame message fits tail
  | request => exact Request.read_frame message fits tail
  | response =>
    obtain ⟨opcode, result⟩ := message
    cases opcode <;> rfl
  | notification =>
    have shape : notification.frame message
        = padded keyWidth message.key ++ padded keyWidth message.value := by
      show _ ++ (_ ++ []) = _
      rw [List.append_nil]
      rfl
    rw [shape]
    exact Notification.read_frame (fits message.key (by simp [texts]))
      (fits message.value (by simp [texts])) tail

theorem frame_ne_nil (message : kind.Message) (fits : kind.Fits message) :
    kind.frame message ≠ [] := by
  cases kind with
  | connect => exact List.cons_ne_nil _ _
  | request => exact List.cons_ne_nil _ _
  | response => exact List.cons_ne_nil _ _
  | notification =>
    intro nothing
    have field : padded notification.width message.key = [] :=
      List.flatMap_eq_nil_iff.1 nothing message.key (by simp [texts])
    have whole := length_padded (fits message.key (by simp [texts]))
    rw [field] at whole
    cases whole

end Kind

/-! ## One after another -/

namespace Reading

variable {α : Type}

/-- What was found, unless the bytes ended too early. -/
def outcome? : Reading α → Option (Except WireFault α)
  | .message value _ => some (.ok value)
  | .refused fault _ => some (.error fault)
  | .cutShort => none

/-- The bytes that are left after readings, the first of which begins with `bytes`. -/
def unread (bytes : Bytes) (readings : List (Reading α)) : Bytes :=
  readings.foldl (fun _ reading => reading.rest) bytes

theorem rest_of (found : Except WireFault α) (rest : Bytes) : (of found rest).rest = rest := by
  cases found <;> rfl

theorem outcome?_of (found : Except WireFault α) (rest : Bytes) :
    (of found rest).outcome? = some found := by
  cases found <;> rfl

/-- Reading goes on as long as there are bytes. -/
theorem seriesWithin_succ {read : Bytes → Reading α} {bytes rest : Bytes}
    {found : Except WireFault α} (first : read bytes = of found rest) (count : Nat) :
    seriesWithin read true (count + 1) bytes
      = of found rest :: if rest = [] then [] else seriesWithin read true count rest := by
  rw [seriesWithin, first]
  cases found with
  | ok value => cases rest <;> rfl
  | error fault => cases rest <;> rfl

end Reading

namespace Kind

variable (kind : Kind)

/-- **A reader never loses its place.** -/
theorem series_frames (messages : List kind.Message) (tail : Bytes)
    (fit : ∀ message ∈ messages, kind.Fits message) :
    let bytes := messages.flatMap kind.frame ++ tail
    let readings := Reading.seriesWithin kind.read true messages.length bytes
    readings.map Reading.outcome? = messages.map (fun message => some (kind.arrival message))
      ∧ Reading.unread bytes readings = tail := by
  induction messages with
  | nil => exact ⟨rfl, rfl⟩
  | cons message rest ih =>
    have fitRest : ∀ other ∈ rest, kind.Fits other := fun other member =>
      fit other (List.mem_cons_of_mem _ member)
    obtain ⟨found, left⟩ := ih fitRest
    have now := kind.read_frame message (fit message (by simp)) (rest.flatMap kind.frame ++ tail)
    have onward : Reading.seriesWithin kind.read true (rest.length + 1)
          (kind.frame message ++ (rest.flatMap kind.frame ++ tail))
        = .of (kind.arrival message) (rest.flatMap kind.frame ++ tail)
          :: Reading.seriesWithin kind.read true rest.length (rest.flatMap kind.frame ++ tail) := by
      rw [Reading.seriesWithin_succ now]
      congr 1
      split
      · next nothing =>
        -- no message is without bytes, so none is to come
        cases rest with
        | nil => rfl
        | cons next rest =>
          have none := List.flatMap_eq_nil_iff.1 (List.append_eq_nil_iff.1 nothing).1 next (by simp)
          exact absurd none (kind.frame_ne_nil next (fitRest next (by simp)))
      · rfl
    dsimp only
    rw [List.flatMap_cons, List.append_assoc, List.length_cons, onward, List.map_cons,
      List.map_cons, found, Reading.outcome?_of]
    refine ⟨rfl, ?_⟩
    show Reading.unread (Reading.of _ _).rest _ = tail
    rw [Reading.rest_of]
    exact left

/-- **Messages are written or refused, and what was written is read.** A message of any kind is
refused exactly if one of its texts is too long for its field, and then as a breach of the protocol.
Messages that were written one after another are found one after another, each with its texts up to
their first NUL, and the bytes behind them are left. A message whose texts have no NUL arrives as it
is, unless it is a connect message that lacks a path. -/
theorem written_then_read :
    (∀ message, (∃ fault, kind.encode message = .error fault)
        ↔ ∃ text ∈ kind.texts message, kind.width < text.utf8ByteSize)
      ∧ (∀ message error, (kind.encode message).mapError Error.protocol = .error error →
        error.kind = "Protocol" ∧ ∃ text ∈ kind.texts message, kind.width < text.utf8ByteSize
          ∧ error = .protocol (.fieldTooLong text.utf8ByteSize kind.width))
      ∧ (∀ (messages : List kind.Message) frames tail, messages.mapM kind.encode = .ok frames →
        let bytes := frames.flatten ++ tail
        let readings := Reading.seriesWithin kind.read true messages.length bytes
        readings.map Reading.outcome? = messages.map (fun message => some (kind.arrival message))
          ∧ Reading.unread bytes readings = tail)
      ∧ ∀ message, (∀ text ∈ kind.texts message, '\x00' ∉ text.toList) →
        kind.arrival message
          = if kind = connect ∧ "" ∈ kind.texts message then .error .emptyPath
            else .ok message := by
  refine ⟨fun message => ?_, fun message error failed => ?_, fun messages frames tail written => ?_,
    fun message clean => ?_⟩
  · constructor
    · rintro ⟨fault, refused⟩
      by_contra short
      have fits : kind.Fits message := fun text member =>
        Nat.le_of_not_lt fun long => short ⟨text, member, long⟩
      rw [(kind.encode_eq_ok_iff message _).2 ⟨fits, rfl⟩] at refused
      cases refused
    · rintro ⟨text, member, long⟩
      obtain ⟨other, -, -, refused⟩ := kind.exists_of_not_fits message fun fits =>
        Nat.not_le_of_lt long (fits text member)
      exact ⟨_, refused⟩
  · by_cases fits : kind.Fits message
    · rw [(kind.encode_eq_ok_iff message _).2 ⟨fits, rfl⟩] at failed
      cases failed
    · obtain ⟨text, member, long, refused⟩ := kind.exists_of_not_fits message fits
      rw [refused] at failed
      cases failed
      exact ⟨rfl, text, member, long, rfl⟩
  · obtain ⟨fit, same⟩ := kind.fits_of_mapM_encode written
    rw [same]
    exact kind.series_frames messages tail fit
  · have mute : (∃ path ∈ kind.texts message, Text.isMute path = true)
        ↔ "" ∈ kind.texts message := by
      constructor
      · rintro ⟨path, member, mute⟩
        have empty : path = "" := by
          rw [← (Text.cut_eq_self_iff path).2 (clean path member)]
          exact (Text.cut_eq_empty_iff path).2 mute
        exact empty ▸ member
      · intro member
        exact ⟨"", member, rfl⟩
    rw [arrival, mapTexts_eq_self _ fun text member =>
      (Text.cut_eq_self_iff text).2 (clean text member)]
    simp only [mute]

/-- Two connect messages, one with a path that is cut and one with a path that says nothing. -/
theorem written_then_read_mute_path :
    let messages : List ConnectRequest := [⟨"/a\x00b", "/c", "/d"⟩, ⟨"/a", "\x00", "/d"⟩]
    let whole : ConnectRequest := ⟨"/é", "/c", "/d"⟩
    ∃ frames, messages.mapM connect.encode = .ok frames
      ∧ (let readings := Reading.seriesWithin connect.read true 2 (frames.flatten ++ [1, 2])
        readings.map Reading.outcome? = [some (.ok ⟨"/a", "/c", "/d"⟩), some (.error .emptyPath)]
          ∧ Reading.unread (frames.flatten ++ [1, 2]) readings = [1, 2])
      ∧ connect.arrival whole = .ok whole := by
  intro messages whole
  have written : messages.mapM connect.encode = .ok (messages.map connect.frame) := by
    decide +kernel
  have arrivals : messages.map (fun message => some (connect.arrival message))
      = [some (.ok ⟨"/a", "/c", "/d"⟩), some (.error .emptyPath)] := by decide +kernel
  have clean : ∀ text ∈ connect.texts whole, '\x00' ∉ text.toList := by decide
  obtain ⟨-, -, found, same⟩ := written_then_read connect
  obtain ⟨inOrder, left⟩ := found messages _ [1, 2] written
  exact ⟨_, written, ⟨inOrder.trans arrivals, left⟩, same whole clean⟩

end Kind

end KeyWatch
