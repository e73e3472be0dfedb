/-
# Proofs.Telling -- what a watcher is told of one write

A watcher is registered with the channel of its own client, and no client is registered twice on one
entry. So the channel of a watcher belongs to one record of an entry only, and a write of a key is
told on it once (`Watchers.filter_own`).

What is told is a frame of two fields, and a field has 41 bytes and ends at a NUL. A key and a value
that fit are told in one frame, which says each of them up to its first NUL (`told_of_fits`). If one
of them is longer, nothing is told and a warning is left (`lost_of_unfit`). Settings may admit both.
-/
import KeyWatch.Proofs.Entries
import KeyWatch.Proofs.Messages
import Mathlib

namespace KeyWatch

set_option autoImplicit false

/-! ## Clients of channels -/

namespace Exchange

/-- The client of a channel. -/
def client? (exchange : Exchange) (id : ChannelId) : Option ClientId :=
  (exchange.channel? id).map (·.client)

variable (exchange : Exchange)

theorem client?_modify (id : ChannelId) (change : Channel → Channel)
    (keeps : ∀ channel, (change channel).client = channel.client) (other : ChannelId) :
    (exchange.modify id change).client? other = exchange.client? other := by
  unfold client?
  rw [channel?_modify]
  split
  · rw [Option.map_map]
    exact congrArg (fun read => (exchange.channel? other).map read) (funext keeps)
  · rfl

theorem client?_send (id : ChannelId) (notification : Notification) (other : ChannelId) :
    (exchange.send id notification).2.client? other = exchange.client? other := by
  unfold send
  cases notification.encode with
  | error fault => rfl
  | ok frame =>
    dsimp only
    cases exchange.channel? id with
    | none => rfl
    | some channel =>
      dsimp only
      split
      · exact client?_modify exchange id
          (fun old => { old with sink := (channel.sink.send frame).2 }) (fun _ => rfl) other
      · rfl

theorem client?_post (notice : Notice) (other : ChannelId) :
    (exchange.post notice).2.client? other = exchange.client? other := by
  have sent := exchange.client?_send notice.watcher.channel ⟨notice.key, notice.change.text⟩ other
  unfold post
  split
  · rcases done : exchange.send notice.watcher.channel ⟨notice.key, notice.change.text⟩
      with ⟨result, after⟩
    rw [done] at sent
    cases result with
    | ok _ => exact sent
    | error error => exact sent
  · rfl

/-- **Notices leave every channel to its client.** -/
theorem client?_postAll (notices : List Notice) (other : ChannelId) :
    (exchange.postAll notices).2.client? other = exchange.client? other := by
  induction notices generalizing exchange with
  | nil => rfl
  | cons notice rest ih => rw [postAll_cons, ih, client?_post]

end Exchange

/-! ## Watchers with their own channels -/

/-- A watcher is registered with the channel of its client. -/
def Watcher.Owns (exchange : Exchange) (watcher : Watcher) : Prop :=
  exchange.client? watcher.channel = some watcher.client

/-- Every watcher of an entry is registered with the channel of its client. -/
def Entry.Wired (exchange : Exchange) (entry : Entry) : Prop :=
  ∀ watcher ∈ entry.watchers, watcher.Owns exchange

/-- Who asks to be told has a channel: a watcher is made from the channel of its client. -/
def Event.Genuine (exchange : Exchange) : Event → Prop
  | .action (.watch _ watcher) => watcher.Owns exchange
  | _ => True

theorem Watchers.mem_add {watchers : Watchers} {watcher other : Watcher}
    (listed : other ∈ watchers.add watcher) : other ∈ watchers ∨ other = watcher := by
  unfold add at listed
  split at listed
  · exact .inl listed
  · rcases List.mem_append.1 listed with old | new
    · exact .inl old
    · exact .inr (List.mem_singleton.1 new)

/-- **A channel belongs to one record** of an entry. -/
theorem Watchers.filter_own {exchange : Exchange} {watchers : Watchers}
    (distinct : watchers.clients.Nodup)
    (wired : ∀ other ∈ watchers, other.Owns exchange) {watcher : Watcher}
    (member : watcher ∈ watchers) :
    watchers.filter (fun other => other.channel = watcher.channel) = [watcher] := by
  have alone : ∀ other ∈ watchers, other.channel = watcher.channel → other = watcher := by
    intro other listed same
    have clients := wired other listed
    unfold Watcher.Owns at clients
    rw [same, wired watcher member] at clients
    exact List.inj_on_of_nodup_map distinct listed member (Option.some.inj clients).symm
  have nodup : watchers.Nodup := List.Nodup.of_map _ distinct
  have kept : watchers.filter (fun other => other.channel = watcher.channel)
      = watchers.filter (· == watcher) := by
    apply List.filter_congr
    intro other listed
    by_cases same : other = watcher
    · simp [same]
    · have apart : ¬ other.channel = watcher.channel := fun channel =>
        same (alone other listed channel)
      simp [same, apart]
  rw [kept, List.filter_beq, List.count_eq_one_of_mem nodup member]
  rfl

/-- Records that an action leaves are genuine, if the action is. -/
theorem Action.wired_effect {exchange : Exchange} (settings : Settings) (action : Action)
    (genuine : Event.Genuine exchange (.action action)) :
    (action.effect settings).Keeps (Entry.Wired exchange) := by
  refine action.keeps_effect settings (fun key value _ _ => ?_) (fun key watcher asked => ?_)
    fun key client => ?_
  · intro found wired entry made
    cases made
    cases found with
    | none =>
      intro watcher none
      cases none
    | some old => exact wired old rfl
  · refine Edit.keeps_of_map _ (fun _ => rfl) fun entry wired other listed => ?_
    rcases Watchers.mem_add listed with old | rfl
    · exact wired other old
    · subst asked
      exact genuine
  · exact Edit.keeps_of_map _ (fun _ => rfl) fun entry wired other listed =>
      wired other (List.mem_filter.1 listed).1

/-! ## Reachable services -/

/-- What services with settings come to: they begin without entries, and whoever asks to be told has
a channel. -/
inductive Service.Reachable (settings : Settings) : Service → Prop
  | start (service : Service) (configured : service.store.settings = settings)
      (begins : service.store.table = none ∨ service.store.table = some {}) :
      Reachable settings service
  | step {service : Service} (reachable : Reachable settings service) (event : Event)
      (genuine : event.Genuine service.exchange) : Reachable settings (service.undergo event)

/-- The store is proper, and every record is one with the channel of its client. -/
structure Service.Wired (settings : Settings) (service : Service) : Prop where
  configured : service.store.settings = settings
  proper : service.store.Proper
  own : service.store.Each (Entry.Wired service.exchange)

namespace Service

variable {settings : Settings} {service : Service}

/-- **A channel keeps its client,** whatever happens. -/
theorem client?_undergo (event : Event) {id : ChannelId} {client : ClientId}
    (before : service.exchange.client? id = some client) :
    (service.undergo event).exchange.client? id = some client := by
  cases event with
  | action action =>
    show (service.act action).exchange.client? id = _
    rw [(service.act_effect action).2, Exchange.client?_postAll, before]
  | openChannel other sink =>
    obtain ⟨channel, here, named⟩ := Option.map_eq_some_iff.1 before
    have known : id ≠ service.exchange.channels.size :=
      Nat.ne_of_lt (Array.getElem?_eq_some_iff.1 here).1
    show ((service.exchange.openChannel other sink).2.channel? id).map (·.client) = _
    rw [Exchange.channel?_openChannel, if_neg known]
    exact before
  | close other =>
    exact (service.exchange.client?_modify other (fun channel => { channel with isOpen := false })
      (fun _ => rfl) id).trans before
  | disown other =>
    exact (service.exchange.client?_modify other (fun channel => { channel with isOwned := false })
      (fun _ => rfl) id).trans before
  | desert other =>
    exact (service.exchange.client?_modify other
      (fun channel => { channel with sink := channel.sink.desert }) (fun _ => rfl) id).trans before

/-- **Every genuine event keeps the records with their channels.** -/
theorem wired_undergo (wired : service.Wired settings) (event : Event)
    (genuine : event.Genuine service.exchange) : (service.undergo event).Wired settings := by
  have each : (service.undergo event).store.Each (Entry.Wired service.exchange) := by
    rcases service.store_undergo event with same | ⟨action, rfl, acted⟩
    · rw [same]
      exact wired.own
    · rw [acted]
      exact Store.each_onStore wired.own (action.admitted_effect _) (action.wired_effect _ genuine)
  refine ⟨(service.settings_undergo event).trans wired.configured,
    proper_undergo wired.proper event, fun table there key entry found watcher listed => ?_⟩
  exact client?_undergo event (each table there key entry found watcher listed)

theorem Reachable.wired (reachable : service.Reachable settings) : service.Wired settings := by
  induction reachable with
  | start service configured begins =>
    refine ⟨configured, Store.proper_of_begins begins, fun table there key entry found => ?_⟩
    rcases begins with fresh | empty
    · rw [fresh] at there
      cases there
    · rw [empty] at there
      cases there
      rw [Table.find?_empty] at found
      cases found
  | step reachable event genuine ih => exact wired_undergo ih event genuine

end Service

/-! ## One write -/

namespace Exchange

/-- A notice that makes no frame is refused, or passed over if nobody owns its channel. -/
theorem post_unfit (exchange : Exchange) (notice : Notice) (fault : WireFault)
    (unfit : Notification.encode ⟨notice.key, notice.change.text⟩ = .error fault) :
    exchange.post notice
      = (if ((exchange.channel? notice.watcher.channel).map (·.isOwned)).getD false then
          .failed (.protocol fault) else .passedOver, exchange) := by
  unfold post send
  rw [unfit]
  split <;> rfl

/-- **Notices that make no frame reach nobody.** -/
theorem postAll_unfit (exchange : Exchange) (notices : List Notice) (fault : WireFault)
    (unfit : ∀ notice ∈ notices,
      Notification.encode ⟨notice.key, notice.change.text⟩ = .error fault) :
    exchange.postAll notices
      = (notices.map fun notice =>
          (notice, if ((exchange.channel? notice.watcher.channel).map (·.isOwned)).getD false then
            .failed (.protocol fault) else .passedOver), exchange) := by
  induction notices with
  | nil => rfl
  | cons notice rest ih =>
    rw [postAll_cons, exchange.post_unfit notice fault (unfit notice (by simp)),
      ih fun other member => unfit other (List.mem_cons_of_mem _ member)]
    rfl

end Exchange

/-- A pair that is accepted is within the limit, and its watchers are owed its news. -/
theorem Service.write_of_accepted {service : Service} {key value : String}
    (accepted : (service.write [(key, value)]).1 = .ok ()) :
    key.utf8ByteSize ≤ service.store.settings.maxKeyLength
      ∧ value.utf8ByteSize ≤ service.store.settings.maxKeyLength
      ∧ (service.write [(key, value)]).2.exchange
        = (service.exchange.postAll ((service.store.watchersOf key).notices key (.updated value))).2
      ∧ (service.write [(key, value)]).2.warnings = service.warnings ++ Exchange.warnings
          (service.exchange.postAll
            ((service.store.watchersOf key).notices key (.updated value))).1 := by
  unfold write at accepted ⊢
  rw [apply_write] at accepted ⊢
  obtain ⟨admitted, table, there, -⟩ := (Store.given_eq_ok_iff _ _ _).1 accepted
  obtain ⟨keyFits, valueFits⟩ :=
    Settings.pairFault?_of_pairsFault? admitted (key, value) (List.mem_singleton.2 rfl)
  have owed : service.store.owed (service.store.settings.pairsFault? [(key, value)])
      (puts [(key, value)]) = (service.store.watchersOf key).notices key (.updated value) := by
    rw [admitted, puts_singleton, Store.watchersOf_of_table there]
    unfold Store.owed
    rw [there]
    exact List.append_nil _
  refine ⟨((Settings.keyFault?_eq_none_iff _ _).1 keyFits).1,
    (Settings.valueFault?_eq_none_iff _ _ _).1 valueFits, ?_, ?_⟩
  · rw [after_exchange, owed]
  · show service.warnings
      ++ Exchange.warnings (service.exchange.postAll (service.store.owed _ _)).1 = _
    rw [owed]

namespace Service

variable {settings : Settings} {service : Service} {key value : String} {watcher : Watcher}
  {channel : Channel}

/-- A watcher of a key is there to hear of it: its channel is open and owned, and the sink of the
channel takes everything. -/
structure Listens (service : Service) (key : String) (watcher : Watcher) (channel : Channel) :
    Prop where
  watches : watcher ∈ service.store.watchersOf key
  here : service.exchange.channel? watcher.channel = some channel
  live : channel.isLive = true
  takesAll : channel.sink.TakesAll

/-- A watcher of an entry is owed a change of it once. -/
theorem Wired.filter_notices (wired : service.Wired settings)
    (watches : watcher ∈ service.store.watchersOf key) (change : Change) :
    ((service.store.watchersOf key).notices key change).filter
        (fun notice => notice.watcher.channel = watcher.channel) = [⟨watcher, key, change⟩] := by
  obtain ⟨table, entry, there, found, watchers⟩ :=
    Store.exists_of_watchersOf (List.ne_nil_of_mem watches)
  have proper := wired.proper.each table there key entry found
  have own := wired.own table there key entry found
  rw [← watchers] at watches ⊢
  unfold Watchers.notices
  rw [List.filter_map]
  exact congrArg (List.map fun watcher => (⟨watcher, key, change⟩ : Notice))
    (Watchers.filter_own proper.clients own watches)

/-- **What fits is told, in one frame.** -/
theorem Wired.told_of_fits (wired : service.Wired settings)
    (listens : service.Listens key watcher channel)
    (accepted : (service.write [(key, value)]).1 = .ok ())
    (keyFits : key.utf8ByteSize ≤ keyWidth) (valueFits : value.utf8ByteSize ≤ keyWidth) :
    (service.write [(key, value)]).2.exchange.channel? watcher.channel
      = some { channel with sink :=
          { channel.sink with taken := channel.sink.taken ++ Notification.frame key value } } := by
  obtain ⟨-, -, exchange, -⟩ := write_of_accepted accepted
  have fits : ∀ notice ∈ (service.store.watchersOf key).notices key (.updated value),
      notice.Fits := by
    intro notice member
    obtain ⟨other, _, rfl⟩ := List.mem_map.1 member
    exact ⟨keyFits, valueFits⟩
  have frames : Exchange.framesOn watcher.channel
      ((service.store.watchersOf key).notices key (.updated value))
        = Notification.frame key value := by
    unfold Exchange.framesOn
    rw [wired.filter_notices listens.watches]
    exact List.append_nil _
  have offered : channel.sink.offered (Notification.frame key value)
      = { channel.sink with taken := channel.sink.taken ++ Notification.frame key value } := by
    rw [← Sink.writeAll_eq _ listens.takesAll.2, Sink.writeAll_of_takesAll listens.takesAll]
  rw [exchange, Exchange.channel?_postAll listens.here listens.takesAll.2 _ fits, frames,
    Channel.hear, if_pos listens.live, offered]

/-- **What does not fit is not told,** and a warning says so. -/
theorem lost_of_unfit (listens : service.Listens key watcher channel)
    (accepted : (service.write [(key, value)]).1 = .ok ()) {fault : WireFault}
    (unfit : Notification.encode ⟨key, value⟩ = .error fault) :
    (service.write [(key, value)]).2.exchange = service.exchange
      ∧ ∃ fresh, (service.write [(key, value)]).2.warnings = service.warnings ++ fresh
        ∧ .notNotified watcher.client key (.protocol fault) ∈ fresh := by
  obtain ⟨-, -, exchange, warnings⟩ := write_of_accepted accepted
  have refused := service.exchange.postAll_unfit
    ((service.store.watchersOf key).notices key (.updated value)) fault fun notice member => by
      obtain ⟨other, _, rfl⟩ := List.mem_map.1 member
      exact unfit
  have owned : channel.isOwned = true := (Bool.and_eq_true_iff.1 listens.live).2
  rw [refused] at exchange warnings
  refine ⟨exchange, _, warnings, List.mem_filterMap.2 ⟨(⟨watcher, key, .updated value⟩,
    .failed (.protocol fault)), List.mem_map.2 ⟨_, List.mem_map_of_mem listens.watches, ?_⟩, rfl⟩⟩
  show (_, if ((service.exchange.channel? watcher.channel).map (·.isOwned)).getD false then _
    else _) = _
  rw [listens.here, Option.map_some, Option.getD_some, if_pos owned]

/-- **What is told of a write that is accepted,** to a watcher that listens, in any service that was
reached: one frame, if neither the key nor the value has more than 41 bytes, and the frame is read
as both up to their first NUL, so as they are exactly if they have none. Otherwise, and only if the
settings admit more than 41 bytes, nothing is told, and a warning says which size did not fit. -/
theorem Reachable.told_of_write (reachable : Reachable settings service)
    (listens : service.Listens key watcher channel)
    (accepted : (service.write [(key, value)]).1 = .ok ()) :
    let after := (service.write [(key, value)]).2
    (key.utf8ByteSize ≤ 41 → value.utf8ByteSize ≤ 41 →
      (∃ frame, frame.length = 82
        ∧ after.exchange.channel? watcher.channel
          = some { channel with sink := { channel.sink with taken := channel.sink.taken ++ frame } }
        ∧ Notification.read frame = .message ⟨Text.cut key, Text.cut value⟩ [])
      ∧ ((⟨Text.cut key, Text.cut value⟩ : Notification) = ⟨key, value⟩
        ↔ '\x00' ∉ key.toList ∧ '\x00' ∉ value.toList))
    ∧ (¬ (key.utf8ByteSize ≤ 41 ∧ value.utf8ByteSize ≤ 41) →
      41 < settings.maxKeyLength
      ∧ after.exchange.channel? watcher.channel = some channel
      ∧ ∃ text ∈ [key, value], 41 < text.utf8ByteSize ∧ ∃ fresh,
        after.warnings = service.warnings ++ fresh
        ∧ .notNotified watcher.client key (.protocol (.fieldTooLong text.utf8ByteSize 41))
          ∈ fresh) := by
  refine ⟨fun keyFits valueFits => ⟨⟨Notification.frame key value, ?_, ?_, ?_⟩, ?_⟩,
    fun unfit => ?_⟩
  · exact Notification.length_fields keyFits valueFits
  · exact reachable.wired.told_of_fits listens accepted keyFits valueFits
  · have read := Notification.read_frame keyFits valueFits []
    rwa [List.append_nil] at read
  · rw [Notification.mk.injEq, Text.cut_eq_self_iff, Text.cut_eq_self_iff]
  · obtain ⟨keyBound, valueBound, -, -⟩ := write_of_accepted accepted
    obtain ⟨text, among, long, refused⟩ := Kind.notification.exists_of_not_fits ⟨key, value⟩ (by
      intro fits
      exact unfit ⟨fits key (by simp [Kind.texts]), fits value (by simp [Kind.texts])⟩)
    obtain ⟨same, fresh, warnings, warned⟩ := lost_of_unfit listens accepted refused
    rw [reachable.wired.configured] at keyBound valueBound
    refine ⟨by omega, by rw [same]; exact listens.here, text, among, long, fresh, warnings, warned⟩

/-- A service in which client 7 watches the key `a`, on the only channel. -/
def watchingA (settings : Settings) : Service :=
  ({ store := { settings } } : Service).undergoAll
    [.openChannel 7 {}, .action (.perform .init), .action (.perform (.put "a" "1")),
      .action (.watch "a" ⟨7, 0⟩)]

theorem reachable_watchingA (settings : Settings) : Reachable settings (watchingA settings) := by
  have begin : Reachable settings { store := { settings } } := .start _ rfl (.inl rfl)
  have opened := begin.step (.openChannel 7 {}) trivial
  have made := opened.step (.action (.perform .init)) trivial
  have stored := made.step (.action (.perform (.put "a" "1"))) trivial
  exact stored.step (.action (.watch "a" ⟨7, 0⟩)) (client?_undergo _ (client?_undergo _ rfl))

theorem listens_watchingA : ∀ limit ∈ [40, 50],
    (watchingA { maxKeyLength := limit }).Listens "a" ⟨7, 0⟩ { client := 7, sink := {} } := by
  intro limit among
  have watchers : (watchingA { maxKeyLength := limit }).store.watchersOf "a" = [⟨7, 0⟩]
      ∧ (watchingA { maxKeyLength := limit }).exchange.channel? 0
        = some { client := 7, sink := {} } := by
    simp only [List.mem_cons, List.not_mem_nil, or_false] at among
    rcases among with rfl | rfl
    · constructor <;> cbv
    · constructor <;> cbv
  exact ⟨watchers.1 ▸ List.mem_singleton.2 rfl, watchers.2, rfl, rfl, by simp [Sink.Flows]⟩

/-- A value with a NUL is told in part. -/
theorem told_of_write_nul :
    let service := watchingA {}
    service.Listens "a" ⟨7, 0⟩ { client := 7, sink := {} }
      ∧ (service.write [("a", "x\x00y")]).1 = .ok ()
      ∧ ∃ after, (service.write [("a", "x\x00y")]).2.exchange.channel? 0 = some after
        ∧ after.sink.taken.length = 82
        ∧ Notification.read after.sink.taken = .message ⟨"a", "x"⟩ [] := by
  intro service
  have listens : service.Listens "a" ⟨7, 0⟩ { client := 7, sink := {} } :=
    listens_watchingA 40 (by simp)
  have accepted : (service.write [("a", "x\x00y")]).1 = .ok () := by
    simp only [service]
    cbv
  obtain ⟨told, -⟩ := (reachable_watchingA {}).told_of_write listens accepted
  obtain ⟨⟨frame, whole, there, read⟩, -⟩ := told (by decide) (by decide)
  have key : Text.cut "a" = "a" := by decide
  have value : Text.cut "x\x00y" = "x" := by decide
  rw [key, value] at read
  exact ⟨listens, accepted, _, there, whole, read⟩

/-- **What is accepted can be told in part, or not at all:** a value with a NUL, and one of 45 bytes
under settings that admit 50. -/
theorem altered_or_lost :
    let wide : Settings := { maxKeyLength := 50 }
    let long := "aaaaaaaaaaaaaaaaaaaaaaaaaaaaaaaaaaaaaaaaaaaaa"
    let told := fun (settings : Settings) (value : String) =>
      (((watchingA settings).write [("a", value)]).2.exchange.channel? 0).map (·.sink.taken)
    (Settings.check {} = .ok () ∧ Reachable {} (watchingA {})
        ∧ (watchingA {}).Listens "a" ⟨7, 0⟩ { client := 7, sink := {} }
        ∧ ((watchingA {}).write [("a", "x\x00y")]).1 = .ok ()
        ∧ (told {} "x\x00y").map Notification.read = some (.message ⟨"a", "x"⟩ []))
      ∧ wide.check = .ok () ∧ Reachable wide (watchingA wide)
        ∧ (watchingA wide).Listens "a" ⟨7, 0⟩ { client := 7, sink := {} }
        ∧ ((watchingA wide).write [("a", long)]).1 = .ok ()
        ∧ told wide long = some [] := by
  intro wide long told
  have half : (told {} "x\x00y").map Notification.read = some (.message ⟨"a", "x"⟩ []) := by
    simp only [told]
    cbv
  have nothing : told wide long = some [] := by
    simp only [told, wide, long]
    cbv
  have narrowAccepts : ((watchingA {}).write [("a", "x\x00y")]).1 = .ok () := by cbv
  have wideAccepts : ((watchingA wide).write [("a", long)]).1 = .ok () := by
    simp only [wide, long]
    cbv
  exact ⟨⟨rfl, reachable_watchingA {}, listens_watchingA 40 (by simp), narrowAccepts, half⟩,
    rfl, reachable_watchingA wide, listens_watchingA 50 (by simp), wideAccepts, nothing⟩

end Service

end KeyWatch
