import ButtonGateway.Broker.Client
import ButtonGateway.Proofs.Notice.Translation
import ButtonGateway.Proofs.Session.Delivery
import ButtonGateway.Proofs.Settings.Topics
import ButtonGateway.Supervision

namespace ButtonGateway

open Daemon

namespace Settings

/-- The channels that are opened: one for each button with an address, under the button's slot. -/
theorem connectCommands_eq {settings : Settings} (valid : settings.validate = .ok ())
    (now epochLength : Nat) :
    (Session.create now settings.slotTable.addresses epochLength).connectCommands =
      (SlotTable.buttons settings.slotTable).filterMap fun button =>
        button.address.map fun address =>
          .createChannel button.slot.toUInt32 address .normal Command.neverDisconnect := by
  unfold Session.connectCommands SlotTable.buttons
  rw [List.filterMap_filterMap]
  apply List.filterMap_congr
  intro slot _
  have address : (Session.create now settings.slotTable.addresses epochLength).addresses.get slot =
      (settings.slotTable.get slot).bind Button.address := Vector.getElem_map _ slot.isLt
  rw [address]
  cases found : settings.slotTable.get slot with
  | none => rfl
  | some button =>
    have place := ((slotTable_get_eq_some_iff valid).mp found).2
    have byte : slot.byte = button.slot := by
      rw [← UInt8.toNat_inj, Slot.toNat_byte, place]
    rw [byte]
    rfl

end Settings

namespace Notice

theorem toNat_of_slotOfChannel? {channel : UInt32} {slot : UInt8}
    (found : slotOfChannel? channel = some slot) : slot.toNat = channel.toNat := by
  unfold slotOfChannel? at found
  split at found
  · rename_i inside
    cases found
    rw [UInt32.toNat_toUInt8]
    exact Nat.mod_eq_of_lt (Nat.lt_trans inside (by decide))
  · cases found

/-- Only a click on a channel that belongs to a slot becomes a notice about a click, and that is the
slot of the notice. -/
theorem of_ofEvent?_upDown {filter : ClickFilter} {event : Event} {notice : Notice}
    (told : ofEvent? filter event = some notice) (about : notice.kind = .upDown) :
    ∃ kind press, event = .button kind press ∧ notice.slot.toNat = press.channel.toNat := by
  cases event with
  | button kind press =>
    simp only [ofEvent?] at told
    split at told
    · obtain ⟨slot, found, rfl⟩ := Option.map_eq_some_iff.mp told
      exact ⟨kind, press, rfl, toNat_of_slotOfChannel? found⟩
    · cases told
  | info | pong | channelCreated | statusChanged | channelRemoved =>
    cases told
    cases about
  | _ => cases told

end Notice

/-- What a client takes comes last in its queue. -/
theorem Broker.Client.queued_publish_of_takes {client : Client} {publication : Publication}
    (takes : client.takes publication = true) :
    (client.publish publication).queued = client.queued ++ [publication] := by
  rw [publish, if_pos takes]
  rfl

namespace GestureTracker

private theorem of_publish_mem_observe {tracker : GestureTracker} {notice : Notice} {slot : UInt8}
    {gesture : Gesture} (published : .publish slot gesture ∈ (tracker.observe notice).2) :
    notice.kind = .upDown ∧ notice.slot = slot := by
  unfold observe at published
  split at published
  · rename_i about
    refine ⟨about, ?_⟩
    split at published
    · obtain ⟨made, _, same⟩ := List.mem_map.mp published
      exact (Effect.publish.inj same).1
    · cases published
  · split at published <;> cases published
  · simp at published
  all_goals cases published

/-- What an event makes a tracker do, if it tells anything. -/
def react (filter : ClickFilter) (tracker : GestureTracker) (event : Event) :
    GestureTracker × List Effect :=
  match Notice.ofEvent? filter event with
  | some notice => tracker.observe notice
  | none => (tracker, [])

def reactAll (filter : ClickFilter) (tracker : GestureTracker) :
    List Event → List (Event × List Effect)
  | [] => []
  | event :: rest =>
    let outcome := tracker.react filter event
    (event, outcome.2) :: outcome.1.reactAll filter rest

private theorem observeAll_filterMap (filter : ClickFilter) (tracker : GestureTracker)
    (events : List Event) :
    (tracker.observeAll (events.filterMap (Notice.ofEvent? filter))).2 =
      (tracker.reactAll filter events).flatMap Prod.snd := by
  induction events generalizing tracker with
  | nil => rfl
  | cons event rest ih =>
    unfold reactAll react
    cases told : Notice.ofEvent? filter event with
    | none => simpa [told] using ih tracker
    | some notice => simp [told, observeAll_cons, ih]

/-- What an event causes is published under the slot of its channel, if it is a click. -/
theorem channel_of_publish {filter : ClickFilter} {tracker : GestureTracker} {events : List Event}
    {entry : Event × List Effect} (member : entry ∈ tracker.reactAll filter events) {slot : UInt8}
    {gesture : Gesture} (published : .publish slot gesture ∈ entry.2) :
    ∃ kind press, entry.1 = .button kind press ∧ slot.toNat = press.channel.toNat := by
  induction events generalizing tracker with
  | nil => cases member
  | cons event rest ih =>
    rcases List.mem_cons.mp member with rfl | later
    · dsimp only [react] at published
      split at published
      · rename_i notice told
        obtain ⟨about, rfl⟩ := of_publish_mem_observe published
        exact Notice.of_ofEvent?_upDown told about
      · cases published
    · exact ih later

/-- Signs of life mean nothing. -/
theorem observeAll_filter (tracker : GestureTracker) (notices : List Notice) :
    tracker.observeAll (notices.filter (· != Reception.silence)) = tracker.observeAll notices := by
  induction notices generalizing tracker with
  | nil => rfl
  | cons notice rest ih =>
    rw [observeAll_cons tracker notice]
    by_cases silent : notice = Reception.silence
    · rw [List.filter_cons_of_neg (by simp [silent]), ih, silent]
      rfl
    · rw [List.filter_cons_of_pos (by simp [silent]), observeAll_cons, ih]

end GestureTracker

/-- Whether a notice stems from an event: it is neither a sign of life nor the end. -/
def Notice.isTold (notice : Notice) : Bool := !notice.isFatal && notice != Reception.silence

namespace Gateway

section Opened

variable {settings : Settings} {publisher : Publisher}

private theorem commands_start (valid : settings.validate = .ok ()) :
    ((Plan.ofSettings settings).start publisher).2.filterMap Effect.command? =
      .getInfo :: (SlotTable.buttons settings.slotTable).filterMap fun button =>
        button.address.map fun address =>
          .createChannel button.slot.toUInt32 address .normal Command.neverDisconnect := by
  unfold Plan.start Plan.ofSettings
  dsimp only
  rw [start_eq, Settings.connectCommands_eq valid]
  have repairs :
      (if publisher.up then [] else [Effect.reconnect]).filterMap Effect.command? = [] := by
    split <;> rfl
  have commands (requests : List Command) :
      (requests.map Effect.command).filterMap Effect.command? = requests := by
    rw [List.filterMap_map]
    exact List.filterMap_some
  rw [List.filterMap_cons, List.filterMap_append, repairs, commands, List.append_nil]
  rfl

/-- Behind the start of a connection, the answers of its session are what some of the events cause
that were told to it, the first of them, one after another. -/
theorem answers_of_events {log : Log} {station : Station}
    (course : Station.Course ((Plan.ofSettings settings).start publisher).1.station log station)
    {events : List Event} (told : log.accepted.filter Notice.isTold =
      events.filterMap (Notice.ofEvent? settings.filter)) :
    ∃ dispatched, dispatched <+: events ∧ log.answers =
      (GestureTracker.start.reactAll settings.filter dispatched).flatMap Prod.snd := by
  have opened :=
    course_start settings.filter settings.slotTable settings.epochLength.toNat publisher
  have whole := opened.trans course
  have delivered := Station.delivered_of_course whole
  have handled : log.handled <+: log.accepted := by
    have queued := delivered.queued
    simp only [Log.handled_append, Log.handled_done, Log.accepted_append, Log.accepted_done,
      List.nil_append] at queued
    exact ⟨_, queued⟩
  have first := handled.filter Notice.isTold
  rw [told] at first
  obtain ⟨dispatched, within, same⟩ := List.prefix_filterMap_iff.mp first
  refine ⟨dispatched, within, ?_⟩
  have unanswered := Station.answers_of_course opened
  have answers := Station.answers_of_course whole
  rw [Log.answers_append, Log.heard_append, unanswered, Log.heard_done] at answers
  rw [← GestureTracker.observeAll_filterMap, ← same]
  have parts : log.handled.filter Notice.isTold =
      log.heard.filter fun notice => notice != Reception.silence := by
    rw [Log.heard, List.filter_filter]
    congr 1
    funext notice
    exact Bool.and_comm _ _
  rw [parts, GestureTracker.observeAll_filter]
  exact answers

end Opened

end Gateway

/-- One numbering for all: with settings that pass the check, no two buttons share a slot; a
connection asks the daemon for its state and opens a channel for each button that has an address,
in the order of the slots and under their numbers; and what the events behind that cause is
published under the name of the button whose slot is the channel of the event, and queued so if the
client takes it, or it is not published at all where there is no such button. -/
theorem presses_go_to_their_button {settings : Settings} (valid : settings.validate = .ok ())
    (publisher : Publisher) :
    (∀ first ∈ settings.buttons, ∀ second ∈ settings.buttons, first.slot = second.slot →
      first = second) ∧
    (∃ ordered : List Button, ordered.Perm settings.buttons ∧
      ordered.Pairwise (fun first second => first.slot.toNat < second.slot.toNat) ∧
      ((Plan.ofSettings settings).start publisher).2.filterMap Effect.command? =
        .getInfo :: ordered.filterMap fun button =>
          button.address.map fun address =>
            .createChannel button.slot.toUInt32 address .normal Command.neverDisconnect) ∧
    ∀ events log station,
      Station.Course ((Plan.ofSettings settings).start publisher).1.station log station →
      log.accepted.filter Notice.isTold = events.filterMap (Notice.ofEvent? settings.filter) →
      ∃ dispatched, dispatched <+: events ∧
        log.answers =
          (GestureTracker.start.reactAll settings.filter dispatched).flatMap Prod.snd ∧
        ∀ entry ∈ GestureTracker.start.reactAll settings.filter dispatched, ∀ slot gesture,
          .publish slot gesture ∈ entry.2 →
          ∃ kind press, entry.1 = .button kind press ∧
            ((∃ button ∈ settings.buttons, button.slot.toNat = press.channel.toNat ∧
                ∀ client : Broker.Client, client.topics = settings.topics → ∀ payload,
                  let publication : Broker.Publication :=
                    ⟨settings.broker.topicBase ++ "/" ++ button.name ++ "/" ++
                      gesture.topic.suffix, false, payload⟩
                  client.write slot gesture.topic payload = client.publish publication ∧
                    (client.takes publication = true →
                      (client.publish publication).queued = client.queued ++ [publication])) ∨
              ((∀ button ∈ settings.buttons, button.slot.toNat ≠ press.channel.toNat) ∧
                ∀ client : Broker.Client, client.topics = settings.topics → ∀ payload,
                  client.write slot gesture.topic payload = client)) := by
  have distinguished := Settings.distinguished_of_validate valid
  refine ⟨?_, ?_, ?_⟩
  · intro first member second memberToo same
    exact Settings.eq_of_slot_eq valid member memberToo same
  · obtain ⟨sorts, ascending⟩ :=
      SlotTable.buttons_ofButtons distinguished.slots distinguished.inside
    exact ⟨_, sorts, ascending, Gateway.commands_start valid⟩
  · intro events log station course told
    obtain ⟨dispatched, within, answers⟩ := Gateway.answers_of_events course told
    refine ⟨dispatched, within, answers, ?_⟩
    intro entry member slot gesture published
    obtain ⟨kind, press, same, channel⟩ := GestureTracker.channel_of_publish member published
    refine ⟨kind, press, same, ?_⟩
    by_cases configured : ∃ button ∈ settings.buttons, button.slot = slot
    · obtain ⟨button, present, rfl⟩ := configured
      refine .inl ⟨button, present, channel, ?_⟩
      intro client topics payload publication
      refine ⟨?_, Broker.Client.queued_publish_of_takes⟩
      unfold Broker.Client.write
      rw [topics, Settings.topic?_of_button valid present]
    · have free : ∀ button ∈ settings.buttons, button.slot ≠ slot := by
        intro button present here
        exact configured ⟨button, present, here⟩
      refine .inr ⟨?_, ?_⟩
      · intro button present here
        exact free button present (UInt8.toNat_inj.mp (here.trans channel.symm))
      · intro client topics payload
        unfold Broker.Client.write
        rw [topics, Settings.topic?_of_no_button valid free]

/-- Of two configured buttons one is pressed, and the events account for what is published. -/
theorem press_goes_to_one_of_two_buttons :
    ∃ (settings : Settings) (event : Event) (log : Log) (station : Station),
      settings.validate = .ok () ∧ settings.buttons.length = 2 ∧
        Station.Course ((Plan.ofSettings settings).start ⟨true, true, 0⟩).1.station log station ∧
        log.answers = [.publish 2 .stateOn] ∧
        ∃ dispatched, dispatched <+: [event] ∧ log.answers =
          (GestureTracker.start.reactAll settings.filter dispatched).flatMap Prod.snd := by
  let settings : Settings :=
    { broker := ⟨"tcp://localhost", "home", "gateway"⟩
      buttons := [⟨5, "door", none⟩, ⟨2, "desk", none⟩] }
  let event : Event := .button .upOrDown ⟨2, .down, false, 0⟩
  let notice := Notice.ofText .upDown 0 2 (Enumeration.name Click.down)
  let running := { Station.create settings.slotTable.addresses 3600 ⟨true, true, 0⟩ with
    session := (Session.create 0 settings.slotTable.addresses 3600).enterEpoch 0
    noticesFirst := true }
  let asked := { running with inbox := running.inbox.put [notice] }
  have valid : settings.validate = .ok () := by decide
  have started : ((Plan.ofSettings settings).start ⟨true, true, 0⟩).1.station = running := by
    rw [Plan.start, Gateway.start_eq]
    rfl
  have arrived : Station.Course running (.ofArrivals [notice]) asked :=
    Station.Meanwhile.course ⟨rfl, rfl, Nat.le_refl _⟩
  have handled : Station.Course running _ (asked.handle notice []).1 :=
    .move arrived (.handle rfl rfl)
  have told : Notice.ofEvent? settings.filter event = some notice := by decide
  rw [← started] at handled
  have account := (presses_go_to_their_button valid ⟨true, true, 0⟩).2.2 [event] _ _ handled
    (by simp [told]; decide)
  obtain ⟨dispatched, within, answers, _⟩ := account
  exact ⟨settings, event, _, _, valid, rfl, handled, by decide, dispatched, within, answers⟩

end ButtonGateway
