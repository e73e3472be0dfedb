/-
# Proofs.Decoding -- what a frame says

Of a frame only some bytes count (`Kind.gist`): those before its fields, and in each field those
before its first zero. A frame of the right size is read as a message exactly if what counts of it
is the message's (`Kind.Means`, `Kind.read_eq_message_iff`), so it is one or not by its opcode and
by the bytes of its fields being text (`Kind.Sound`, `Kind.exists_means_iff`). Writing the message
again gives the frame with zeros for all that does not count (`Kind.normal`), which is read as the
same message.
-/
import KeyWatch.Proofs.Messages

namespace KeyWatch

set_option autoImplicit false

/-! ## Fields -/

namespace Text

/-- **Bytes are read as the text whose bytes they are.** -/
theorem decode_eq_ok_iff (bytes : Bytes) (text : String) :
    decode bytes = .ok text ↔ utf8 text = bytes := by
  constructor
  · intro read
    unfold decode at read
    split at read
    · next found same =>
      cases read
      rw [String.fromUTF8?] at same
      split at same
      · cases same
        simp [utf8, String.fromUTF8]
      · cases same
    · cases read
  · rintro rfl
    exact decode_utf8 text

theorem utf8_inj {first second : String} : utf8 first = utf8 second ↔ first = second := by
  refine ⟨fun same => ?_, congrArg utf8⟩
  have read := (decode_eq_ok_iff (utf8 first) second).2 same.symm
  rw [decode_utf8] at read
  exact Except.ok.inj read

theorem exists_utf8_iff (bytes : Bytes) :
    (∃ text, utf8 text = bytes) ↔ bytes.toByteArray.IsValidUTF8 := by
  constructor
  · rintro ⟨text, rfl⟩
    have same : (utf8 text).toByteArray = text.toByteArray := by
      ext1
      simp [utf8]
    rw [same]
    exact text.isValidUTF8
  · intro valid
    exact ⟨String.fromUTF8 _ valid, by simp [utf8, String.fromUTF8]⟩

end Text

/-- The bytes of a field that count: those before its first zero. -/
def spoken (field : Bytes) : Bytes := field.takeWhile (· != 0)

/-- A field with zeros for all that does not count. -/
def cleared (field : Bytes) : Bytes :=
  spoken field ++ List.replicate (field.length - (spoken field).length) 0

theorem fieldText_eq_ok_iff (field : Bytes) (text : String) :
    fieldText field = .ok text ↔ Text.utf8 text = spoken field := by
  rw [← Text.decode_eq_ok_iff, fieldText, spoken]
  cases Text.decode (field.takeWhile (· != 0)) <;> simp [Except.mapError]

theorem length_spoken_le (field : Bytes) : (spoken field).length ≤ field.length :=
  (List.takeWhile_sublist _).length_le

theorem zero_not_mem_spoken (field : Bytes) : 0 ∉ spoken field := fun member => by
  simpa using List.mem_takeWhile_imp member

/-- A text without a zero byte has no NUL. -/
theorem cut_eq_self_of_utf8 {text : String} {field : Bytes} (said : Text.utf8 text = spoken field) :
    Text.cut text = text := by
  rw [Text.cut_eq_self_iff]
  intro member
  have zero : (0 : UInt8) ∈ Text.utf8 text := by
    rw [Text.utf8_eq_flatMap]
    exact List.mem_flatMap.2 ⟨_, member, by decide⟩
  exact zero_not_mem_spoken field (said ▸ zero)

namespace Kind

/-! ## Layout -/

/-- How many bytes stand before the fields. -/
def headerSize : Kind → Nat
  | connect => 1
  | request => 1
  | response => 2
  | notification => 0

/-- How many fields a frame has. A request has one, unless it is a disconnect. -/
def fieldCount : Kind → Bytes → Nat
  | connect, _ => 3
  | request, frame => if frame.head? = some 3 ∨ frame.head? = some 4 then 1 else 0
  | response, _ => 0
  | notification, _ => 2

variable (kind : Kind)

/-- The size that a frame should have. -/
def size (frame : Bytes) : Nat := kind.headerSize + kind.fieldCount frame * kind.width

/-- The fields of a frame. -/
def fields (frame : Bytes) : List Bytes :=
  (List.range (kind.fieldCount frame)).map fun place =>
    (frame.drop (kind.headerSize + place * kind.width)).take kind.width

/-- What counts of a frame: the bytes before its fields, and those of each field that count. -/
def gist (frame : Bytes) : Bytes × List Bytes :=
  (frame.take kind.headerSize, (kind.fields frame).map spoken)

/-- A frame with zeros for all that does not count. -/
def normal (frame : Bytes) : Bytes :=
  frame.take kind.headerSize ++ (kind.fields frame).flatMap cleared

/-- Whether a frame begins like a message. -/
def Opens : Kind → Bytes → Prop
  | connect, frame => frame.head? = some 1
  | request, frame => frame.head? = some 2 ∨ frame.head? = some 3 ∨ frame.head? = some 4
  | response, frame => ∃ opcode : Opcode, frame.head? = some opcode.toByte
  | notification, _ => True

/-- A frame that is a message: its opcode is one, and what counts of its fields is text, which is
not empty in a connect message. -/
structure Sound (frame : Bytes) : Prop where
  opens : kind.Opens frame
  text : ∀ field ∈ kind.fields frame, (spoken field).toByteArray.IsValidUTF8
  path : kind = connect → ∀ field ∈ kind.fields frame, spoken field ≠ []

/-- A frame says a message: what counts of it is the message's, and a connect message has no empty
path. -/
def Means (frame : Bytes) (message : kind.Message) : Prop :=
  kind.header message = frame.take kind.headerSize
    ∧ (kind.texts message).map Text.utf8 = (kind.fields frame).map spoken
    ∧ (kind = connect → "" ∉ kind.texts message)

end Kind

/-! ## Reading a frame -/

theorem Kind.fields_connect (frame : Bytes) (whole : frame.length = connectSize) :
    Kind.connect.fields frame = [(frame.drop 1).take pathWidth,
      ((frame.drop 1).drop pathWidth).take pathWidth, (frame.drop 1).drop (2 * pathWidth)] := by
  have last : ((frame.drop 1).drop (2 * pathWidth)).take pathWidth
      = (frame.drop 1).drop (2 * pathWidth) := by
    refine List.take_of_length_le ?_
    rw [List.length_drop, List.length_drop, whole]
    decide
  rw [← last]
  simp only [List.drop_drop]
  rfl

theorem Kind.fields_notification (frame : Bytes) (whole : frame.length = notificationSize) :
    Kind.notification.fields frame = [frame.take keyWidth, frame.drop keyWidth] := by
  have last : (frame.drop keyWidth).take keyWidth = frame.drop keyWidth := by
    refine List.take_of_length_le ?_
    rw [List.length_drop, whole]
    decide
  rw [← last]
  rfl

theorem ConnectRequest.decode_eq_ok_iff {frame : Bytes} (whole : frame.length = connectSize)
    (request : ConnectRequest) :
    decode frame = .ok request ↔ Kind.connect.Means frame request := by
  obtain ⟨requests, responses, notifications⟩ := request
  cases frame with
  | nil => cases whole
  | cons byte rest =>
    have read : decode (byte :: rest) = .ok ⟨requests, responses, notifications⟩
        ↔ byte = Opcode.connect.toByte
          ∧ Text.utf8 requests = spoken (rest.take pathWidth)
          ∧ Text.utf8 responses = spoken ((rest.drop pathWidth).take pathWidth)
          ∧ Text.utf8 notifications = spoken (rest.drop (2 * pathWidth))
          ∧ ¬ (requests = "" ∨ responses = "" ∨ notifications = "") := by
      unfold decode
      dsimp only [List.headD_cons, List.drop_succ_cons, List.drop_zero]
      by_cases opcode : byte = Opcode.connect.toByte
      · rw [if_neg (not_not_intro opcode)]
        simp only [bind_eq_ok_iff, fieldText_eq_ok_iff]
        constructor
        · rintro ⟨_, first, _, second, _, third, made⟩
          split at made
          · cases made
          · next named =>
            cases made
            exact ⟨opcode, first, second, third, named⟩
        · rintro ⟨-, first, second, third, named⟩
          refine ⟨_, first, _, second, _, third, ?_⟩
          rw [if_neg named]
          rfl
      · rw [if_pos opcode]
        exact ⟨nofun, fun ⟨same, _⟩ => absurd same opcode⟩
    simp only [read, Kind.Means, Kind.fields_connect _ whole]
    simp [Kind.headerSize, Kind.header, Kind.texts, ConnectRequest.paths, eq_comm, and_assoc]

theorem Notification.decode_eq_ok_iff {frame : Bytes} (whole : frame.length = notificationSize)
    (notification : Notification) :
    decode frame = .ok notification ↔ Kind.notification.Means frame notification := by
  obtain ⟨key, value⟩ := notification
  have read : decode frame = .ok ⟨key, value⟩
      ↔ Text.utf8 key = spoken (frame.take keyWidth)
        ∧ Text.utf8 value = spoken (frame.drop keyWidth) := by
    simp only [decode, bind_eq_ok_iff, fieldText_eq_ok_iff]
    constructor
    · rintro ⟨_, first, _, second, made⟩
      cases made
      exact ⟨first, second⟩
    · rintro ⟨first, second⟩
      exact ⟨key, first, value, second, rfl⟩
  simp only [read, Kind.Means, Kind.fields_notification _ whole]
  simp [Kind.headerSize, Kind.header, Kind.texts]

theorem Reading.of_eq_message_iff {α : Type} (found : Except WireFault α) (tail : Bytes) (value : α)
    (rest : Bytes) : of found tail = .message value rest ↔ found = .ok value ∧ rest = tail := by
  cases found <;> simp [of, eq_comm]

theorem Opcode.toByte_inj {first second : Opcode} :
    first.toByte = second.toByte ↔ first = second := by
  refine ⟨fun same => ?_, fun same => same ▸ rfl⟩
  have read := (ofByte?_eq_some_iff first.toByte second).2 same
  rw [(ofByte?_eq_some_iff first.toByte first).2 rfl] at read
  exact Option.some.inj read

theorem Request.means_iff (byte : UInt8) (field : Bytes) (request : Request) :
    Kind.request.Means (byte :: field) request ↔ request.opcode.toByte = byte
      ∧ request.texts.map Text.utf8 = (Kind.request.fields (byte :: field)).map spoken := by
  simp [Kind.Means, Kind.headerSize, Kind.header, Kind.texts]

/-- The only field of a request with a key. -/
theorem Kind.fields_request {byte : UInt8} {field : Bytes}
    (keyed : byte = Opcode.subscribe.toByte ∨ byte = Opcode.unsubscribe.toByte)
    (whole : (byte :: field).length = Kind.request.size (byte :: field)) :
    Kind.request.fields (byte :: field) = [field] ∧ field.length = keyWidth := by
  have one : Kind.request.fieldCount (byte :: field) = 1 := by
    rcases keyed with rfl | rfl <;> rfl
  rw [Kind.size, one, List.length_cons] at whole
  have width : field.length = keyWidth := by
    simp only [Kind.headerSize, Kind.width] at whole
    simp only [keyWidth]
    omega
  refine ⟨?_, width⟩
  have all : field.take keyWidth = field := List.take_of_length_le width.le
  rw [Kind.fields, one]
  exact congrArg (· :: []) all

/-- A request with a key says the text of its only field. -/
theorem Request.keyed_eq_message_iff {field : Bytes} (width : field.length = keyWidth)
    (wrap : String → Request) (tail : Bytes) (request : Request) (rest : Bytes) :
    (Reading.frame keyWidth fieldText (field ++ tail)).map wrap = .message request rest
      ↔ (∃ key, Text.utf8 key = spoken field ∧ wrap key = request) ∧ rest = tail := by
  rw [Reading.frame_append width, Reading.map_of, Reading.of_eq_message_iff, map_eq_ok_iff]
  simp only [fieldText_eq_ok_iff]

theorem Request.read_eq_message_iff {frame : Bytes} (whole : frame.length = Kind.request.size frame)
    (tail : Bytes) (request : Request) (rest : Bytes) :
    Request.read (frame ++ tail) = .message request rest
      ↔ Kind.request.Means frame request ∧ rest = tail := by
  cases frame with
  | nil => cases whole
  | cons byte field =>
    rw [means_iff, List.cons_append, Request.read]
    cases known : Opcode.ofByte? byte with
    | none =>
      have strange : request.opcode.toByte ≠ byte := fun same => by
        rw [(Opcode.ofByte?_eq_some_iff byte _).2 same.symm] at known
        cases known
      constructor
      · rintro ⟨⟩
      · rintro ⟨⟨same, -⟩, -⟩
        exact absurd same strange
    | some opcode =>
      obtain rfl := (Opcode.ofByte?_eq_some_iff byte opcode).1 known
      rw [Opcode.toByte_inj]
      cases opcode with
      | connect => cases request <;> simp [Request.opcode]
      | disconnect =>
        obtain rfl : field = [] := List.length_eq_zero_iff.1 (Nat.succ_injective whole)
        have none : Kind.request.fields [Opcode.disconnect.toByte] = [] := rfl
        cases request <;> simp [Request.opcode, Request.texts, none, eq_comm]
      | subscribe =>
        obtain ⟨only, width⟩ := Kind.fields_request (.inl rfl) whole
        refine (keyed_eq_message_iff width .subscribe tail request rest).trans (and_congr_left' ?_)
        cases request <;> simp [Request.opcode, Request.texts, only]
      | unsubscribe =>
        obtain ⟨only, width⟩ := Kind.fields_request (.inr rfl) whole
        refine (keyed_eq_message_iff width .unsubscribe tail request rest).trans
          (and_congr_left' ?_)
        cases request <;> simp [Request.opcode, Request.texts, only]

theorem Response.read_eq_message_iff {frame : Bytes}
    (whole : frame.length = Kind.response.size frame) (tail : Bytes) (response : Response)
    (rest : Bytes) :
    Response.read (frame ++ tail) = .message response rest
      ↔ Kind.response.Means frame response ∧ rest = tail := by
  obtain ⟨opcode, result⟩ := response
  obtain ⟨byte, byte', rfl⟩ := List.length_eq_two.1 whole
  have said : Kind.response.Means [byte, byte'] ⟨opcode, result⟩
      ↔ byte = opcode.toByte ∧ result = byte' := by
    simp [Kind.Means, Kind.headerSize, Kind.header, Kind.texts, Kind.fields, Kind.fieldCount,
      Response.encode, eq_comm]
  rw [said, ← Opcode.ofByte?_eq_some_iff]
  cases known : Opcode.ofByte? byte with
  | none => simp [Response.read, known]
  | some found => simp [Response.read, known, eq_comm, and_assoc]

/-- **A frame is read as what it says,** and nothing behind it is looked at. -/
theorem Kind.read_eq_message_iff (kind : Kind) {frame : Bytes}
    (whole : frame.length = kind.size frame) (tail : Bytes) (message : kind.Message)
    (rest : Bytes) :
    kind.read (frame ++ tail) = .message message rest ↔ kind.Means frame message ∧ rest = tail := by
  cases kind with
  | connect =>
    have whole : frame.length = connectSize := whole
    show ConnectRequest.read _ = _ ↔ _
    rw [ConnectRequest.read, Reading.frame_append whole, Reading.of_eq_message_iff,
      ConnectRequest.decode_eq_ok_iff whole]
  | request => exact Request.read_eq_message_iff whole tail message rest
  | response => exact Response.read_eq_message_iff whole tail message rest
  | notification =>
    have whole : frame.length = notificationSize := whole
    show Notification.read _ = _ ↔ _
    rw [Notification.read, Reading.frame_append whole, Reading.of_eq_message_iff,
      Notification.decode_eq_ok_iff whole]

namespace Kind

variable (kind : Kind) {frame : Bytes}

/-! ## Frames and messages -/

theorem length_of_mem_fields (whole : frame.length = kind.size frame) :
    ∀ field ∈ kind.fields frame, field.length = kind.width := by
  intro field member
  obtain ⟨place, among, rfl⟩ := List.mem_map.1 member
  have room : (place + 1) * kind.width ≤ kind.fieldCount frame * kind.width :=
    Nat.mul_le_mul_right _ (List.mem_range.1 among)
  rw [Nat.succ_mul] at room
  rw [List.length_take, List.length_drop, whole, size]
  omega

variable {kind} {message : kind.Message}

/-- What a text of a message says in the frame. -/
theorem Means.exists_field (means : kind.Means frame message) {text : String}
    (member : text ∈ kind.texts message) :
    ∃ field ∈ kind.fields frame, spoken field = Text.utf8 text := by
  have told : Text.utf8 text ∈ (kind.fields frame).map spoken :=
    means.2.1 ▸ List.mem_map_of_mem member
  exact List.mem_map.1 told

theorem Means.exists_text (means : kind.Means frame message) {field : Bytes}
    (member : field ∈ kind.fields frame) :
    ∃ text ∈ kind.texts message, Text.utf8 text = spoken field := by
  have told : spoken field ∈ (kind.texts message).map Text.utf8 :=
    means.2.1 ▸ List.mem_map_of_mem member
  exact List.mem_map.1 told

theorem Means.fits (means : kind.Means frame message) (whole : frame.length = kind.size frame) :
    kind.Fits message := by
  intro text member
  obtain ⟨field, among, said⟩ := means.exists_field member
  rw [← Text.length_utf8, ← said, ← kind.length_of_mem_fields whole field among]
  exact length_spoken_le field

/-- **A frame with zeros for all that does not count is what its message is written as.** -/
theorem Means.normal_eq (means : kind.Means frame message)
    (whole : frame.length = kind.size frame) : kind.normal frame = kind.frame message := by
  let filled (bytes : Bytes) : Bytes := bytes ++ List.replicate (kind.width - bytes.length) 0
  have texts : (kind.texts message).flatMap (padded kind.width)
      = ((kind.texts message).map Text.utf8).flatMap filled := by
    rw [List.flatMap_map]
    rfl
  have fields : (kind.fields frame).flatMap cleared
      = ((kind.fields frame).map spoken).flatMap filled := by
    rw [List.flatMap_map]
    refine List.flatMap_congr fun field member => ?_
    rw [cleared, kind.length_of_mem_fields whole field member]
  rw [normal, Kind.frame, fields, ← means.2.1, ← texts, means.1]

/-- A message that a frame says arrives as it is. -/
theorem Means.arrival_eq (means : kind.Means frame message) :
    kind.arrival message = .ok message := by
  have clean : ∀ text ∈ kind.texts message, Text.cut text = text := by
    intro text member
    obtain ⟨field, -, said⟩ := means.exists_field member
    exact cut_eq_self_of_utf8 said.symm
  rw [arrival, if_neg, mapTexts_eq_self kind clean]
  rintro ⟨connecting, path, member, mute⟩
  have empty : path = "" := (clean path member).symm.trans ((Text.cut_eq_empty_iff path).2 mute)
  exact means.2.2 connecting (empty ▸ member)

theorem head?_eq_of_take {byte : UInt8} (first : [byte] = frame.take 1) :
    frame.head? = some byte := by
  cases frame with
  | nil => cases first
  | cons other rest => exact congrArg List.head? first.symm

theorem take_of_head?_eq {byte : UInt8} (first : frame.head? = some byte) :
    [byte] = frame.take 1 := by
  cases frame with
  | nil => cases first
  | cons other rest =>
    cases first
    rfl

theorem opens_of_means (means : kind.Means frame message) : kind.Opens frame := by
  have header := means.1
  cases kind with
  | connect => exact head?_eq_of_take header
  | request =>
    have first := head?_eq_of_take header
    cases message with
    | disconnect => exact .inl first
    | subscribe key => exact .inr (.inl first)
    | unsubscribe key => exact .inr (.inr first)
  | response =>
    cases frame with
    | nil => cases header
    | cons byte rest => exact ⟨message.opcode, congrArg List.head? header.symm⟩
  | notification => trivial

/-- A frame that opens like a message opens like one with any texts for its fields. -/
theorem exists_message (whole : frame.length = kind.size frame) (opens : kind.Opens frame)
    (texts : List String) (counted : texts.length = kind.fieldCount frame) :
    ∃ message : kind.Message, kind.header message = frame.take kind.headerSize
      ∧ kind.texts message = texts := by
  cases kind with
  | connect =>
    obtain ⟨first, second, third, rfl⟩ := List.length_eq_three.1 counted
    exact ⟨⟨first, second, third⟩, take_of_head?_eq opens, rfl⟩
  | request =>
    rcases opens with first | first | first
    · obtain rfl : texts = [] := by simpa [fieldCount, first] using counted
      exact ⟨.disconnect, take_of_head?_eq first, rfl⟩
    · obtain ⟨key, rfl⟩ : ∃ key, texts = [key] := by
        simpa [fieldCount, first, List.length_eq_one_iff] using counted
      exact ⟨.subscribe key, take_of_head?_eq first, rfl⟩
    · obtain ⟨key, rfl⟩ : ∃ key, texts = [key] := by
        simpa [fieldCount, first, List.length_eq_one_iff] using counted
      exact ⟨.unsubscribe key, take_of_head?_eq first, rfl⟩
  | response =>
    obtain ⟨opcode, first⟩ := opens
    obtain ⟨byte, result, rfl⟩ := List.length_eq_two.1 whole
    cases first
    exact ⟨⟨opcode, result⟩, rfl, (List.length_eq_zero_iff.1 counted).symm⟩
  | notification =>
    obtain ⟨key, value, rfl⟩ := List.length_eq_two.1 counted
    exact ⟨⟨key, value⟩, rfl, rfl⟩

theorem exists_texts (fields : List Bytes)
    (text : ∀ field ∈ fields, (spoken field).toByteArray.IsValidUTF8) :
    ∃ texts : List String, texts.map Text.utf8 = fields.map spoken := by
  induction fields with
  | nil => exact ⟨[], rfl⟩
  | cons field rest ih =>
    obtain ⟨valid, others⟩ := List.forall_mem_cons.1 text
    obtain ⟨first, said⟩ := (Text.exists_utf8_iff _).2 valid
    obtain ⟨texts, same⟩ := ih others
    exact ⟨first :: texts, by rw [List.map_cons, List.map_cons, said, same]⟩

/-- **A frame is a message exactly if it is sound.** -/
theorem exists_means_iff (whole : frame.length = kind.size frame) :
    (∃ message, kind.Means frame message) ↔ kind.Sound frame := by
  constructor
  · rintro ⟨message, means⟩
    refine ⟨opens_of_means means, fun field member => ?_, fun connecting field member silent => ?_⟩
    · obtain ⟨text, -, said⟩ := means.exists_text member
      exact (Text.exists_utf8_iff _).1 ⟨text, said⟩
    · obtain ⟨text, among, said⟩ := means.exists_text member
      have empty : text = "" := Text.utf8_inj.1 (said.trans silent)
      exact means.2.2 connecting (empty ▸ among)
  · intro sound
    obtain ⟨texts, same⟩ := exists_texts (kind.fields frame) sound.text
    have counted : texts.length = kind.fieldCount frame := by
      have lengths := congrArg List.length same
      rwa [List.length_map, List.length_map, fields, List.length_map, List.length_range] at lengths
    obtain ⟨message, header, rfl⟩ := exists_message whole sound.opens texts counted
    refine ⟨message, header, same, fun connecting member => ?_⟩
    have told : Text.utf8 "" ∈ (kind.fields frame).map spoken := same ▸ List.mem_map_of_mem member
    obtain ⟨field, among, silent⟩ := List.mem_map.1 told
    exact sound.path connecting field among silent

/-- **Reading is exact, and writing makes normal.** A frame of the right size is read as a message
exactly if it is sound, whatever follows it, and just the frame is taken. The message can be
written, and is written as the frame with zeros for all that does not count; this is read as the
same message. Another frame is read as the message exactly if the same counts of both. -/
theorem read_then_written (kind : Kind) (frame tail : Bytes)
    (whole : frame.length = kind.size frame) :
    ((∃ message rest, kind.read (frame ++ tail) = .message message rest) ↔ kind.Sound frame)
      ∧ ∀ message rest, kind.read (frame ++ tail) = .message message rest →
        rest = tail ∧ kind.encode message = .ok (kind.normal frame)
          ∧ kind.read (kind.normal frame ++ tail) = .message message tail
          ∧ ∀ other, other.length = kind.size other →
            (kind.read (other ++ tail) = .message message tail
              ↔ kind.gist other = kind.gist frame) := by
  constructor
  · rw [← exists_means_iff whole]
    simp only [read_eq_message_iff kind whole, exists_and_left, exists_eq, and_true]
  · intro message rest read
    obtain ⟨means, rfl⟩ := (read_eq_message_iff kind whole tail message rest).1 read
    have fits := means.fits whole
    have normal := means.normal_eq whole
    refine ⟨rfl, (kind.encode_eq_ok_iff message _).2 ⟨fits, normal⟩, ?_, fun other whole' => ?_⟩
    · rw [normal, kind.read_frame message fits, means.arrival_eq]
      rfl
    · rw [read_eq_message_iff kind whole']
      constructor
      · rintro ⟨means', -⟩
        rw [gist, gist, ← means.1, ← means'.1, ← means.2.1, ← means'.2.1]
      · intro same
        have header : other.take kind.headerSize = frame.take kind.headerSize :=
          congrArg Prod.fst same
        have fields : (kind.fields other).map spoken = (kind.fields frame).map spoken :=
          congrArg Prod.snd same
        exact ⟨⟨means.1.trans header.symm, means.2.1.trans fields.symm, means.2.2⟩, rfl⟩

/-- A request whose key has bytes behind its zero that are no text. -/
theorem read_then_written_rubbish :
    let frame : Bytes := 3 :: 97 :: 0 :: List.replicate 39 255
    frame.length = request.size frame
      ∧ request.encode (.subscribe "a") = .ok (request.normal frame)
      ∧ request.read (request.normal frame ++ [9]) = .message (.subscribe "a") [9]
      ∧ request.normal frame = 3 :: 97 :: List.replicate 40 0 := by
  intro frame
  have whole : frame.length = request.size frame := by decide
  have read : request.read (frame ++ [9]) = .message (.subscribe "a") [9] :=
    (read_eq_message_iff request whole [9] _ _).2 ⟨⟨by decide, by decide, nofun⟩, rfl⟩
  obtain ⟨-, written, again, -⟩ := (read_then_written request frame [9] whole).2 _ _ read
  exact ⟨whole, written, again, by decide⟩

end Kind

end KeyWatch
