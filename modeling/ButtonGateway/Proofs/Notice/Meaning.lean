import ButtonGateway.Proofs.Routing
/-!
The meaning of events, told without notices: a click on a slot, the loss of the button on a slot, or
that the daemon is there. Notices carry this meaning from the reading side to the session, in a byte
for the status and a byte for the slot that both serve several purposes, and nothing is lost or
added on the way.
-/
namespace ButtonGateway

open Daemon

inductive Meaning where
  | clicked (slot : Slot) (made : Click)
  | lost (slot : Slot)
  | present
  deriving DecidableEq, Repr

/-- A click is meant on the slot of its channel, if it is one of those that count. -/
def Daemon.Press.meaning? (press : Press) (counted : List Click) : Option Meaning :=
  if press.click ∈ counted then
    (Slot.ofNat? press.channel.toNat).map fun slot => .clicked slot press.click
  else none

/-- What an event means, if anything. Channels are numbered like slots, and each class of packets
has its own list of clicks that count. -/
def Daemon.Event.meaning? (filter : ClickFilter) : Event → Option Meaning
  | .button .upOrDown press => press.meaning? filter.upOrDown
  | .button .clickOrHold press => press.meaning? filter.clickOrHold
  | .button .singleOrDoubleClick press => press.meaning? filter.singleOrDoubleClick
  | .button .singleOrDoubleClickOrHold press => press.meaning? filter.singleOrDoubleClickOrHold
  | .statusChanged channel .disconnected _ => (Slot.ofNat? channel.toNat).map .lost
  | .channelRemoved channel _ => (Slot.ofNat? channel.toNat).map .lost
  | .info _ => some .present
  | _ => none

def Daemon.Event.channel? : Event → Option UInt32
  | .channelCreated channel _ _ => some channel
  | .statusChanged channel _ _ => some channel
  | .channelRemoved channel _ => some channel
  | .button _ press => some press.channel
  | _ => none

private theorem Daemon.Event.meaning?_button (filter : ClickFilter) (kind : ButtonClass)
    (press : Press) :
    (Event.button kind press).meaning? filter = press.meaning? (filter.kept kind) := by
  cases kind <;> rfl

/-- On a channel that belongs to no slot nothing is meant, whatever its lowest byte is. -/
theorem Daemon.Event.meaning?_of_beyond {event : Event} {channel : UInt32}
    (about : event.channel? = some channel) (beyond : slotCount ≤ channel.toNat)
    (filter : ClickFilter) : event.meaning? filter = none := by
  have missing : Slot.ofNat? channel.toNat = none := dif_neg (Nat.not_lt.mpr beyond)
  cases event with
  | channelCreated => rfl
  | statusChanged _ status _ =>
    cases about
    cases status with
    | disconnected => exact congrArg (Option.map Meaning.lost) missing
    | connected | ready => rfl
  | channelRemoved =>
    cases about
    exact congrArg (Option.map Meaning.lost) missing
  | button kind press =>
    cases about
    rw [meaning?_button, Press.meaning?, missing]
    exact ite_self none
  | _ => cases about

namespace Notice

/-- A channel has a slot byte if it has a slot, and then it is the byte of that slot. -/
theorem slotOfChannel?_eq (channel : UInt32) :
    slotOfChannel? channel = (Slot.ofNat? channel.toNat).map Slot.byte := by
  cases found : Slot.ofNat? channel.toNat with
  | none =>
    unfold slotOfChannel?
    unfold Slot.ofNat? at found
    split at found
    · cases found
    · rename_i beyond
      exact if_neg beyond
  | some slot =>
    have number := Slot.ofNat?_eq_some_iff.mp found
    have inside : channel.toNat < slotCount := number ▸ slot.isLt
    have taken : slotOfChannel? channel = some channel.toUInt8 := if_pos inside
    have same := toNat_of_slotOfChannel? taken
    rw [taken, Slot.eq_byte_iff.mpr (same.trans number)]
    rfl

/-- The byte of a channel without a slot is the number of no slot. -/
theorem slotOfChannel_cases (channel : UInt32) :
    (∃ slot, Slot.ofNat? channel.toNat = some slot ∧ slotOfChannel channel = slot.byte) ∨
      Slot.ofNat? channel.toNat = none ∧ Slot.ofNat? (slotOfChannel channel).toNat = none := by
  unfold slotOfChannel
  rw [slotOfChannel?_eq]
  cases found : Slot.ofNat? channel.toNat with
  | some slot => exact .inl ⟨slot, rfl, rfl⟩
  | none => exact .inr ⟨rfl, rfl⟩

end Notice

namespace GestureTracker

def heed (tracker : GestureTracker) : Meaning → GestureTracker × List Effect
  | .clicked slot made =>
    let outcome := tracker.apply slot.byte made
    (outcome.1, outcome.2.toList.map (.publish slot.byte))
  | .lost slot => ((tracker.cancelHold slot.byte).1, [])
  | .present => (tracker, [.announce true])

def heedAll (tracker : GestureTracker) : List Meaning → GestureTracker × List Effect
  | [] => (tracker, [])
  | meaning :: rest =>
    let outcome := tracker.heed meaning
    let others := outcome.1.heedAll rest
    (others.1, outcome.2 ++ others.2)

/-- A button that goes away on a channel is lost on the slot of the channel, or nowhere. -/
theorem observe_lost (tracker : GestureTracker) (channel : UInt32) (text : String) :
    tracker.observe (.ofText .status (Enumeration.code ConnectionStatus.disconnected)
        (Notice.slotOfChannel channel) text) =
      ((Slot.ofNat? channel.toNat).map Meaning.lost).elim (tracker, []) tracker.heed := by
  rw [Notice.code_disconnected]
  change ((tracker.cancelHold (Notice.slotOfChannel channel)).1, []) = _
  rcases Notice.slotOfChannel_cases channel with ⟨slot, found, byte⟩ | ⟨missing, beyond⟩
  · rw [found, byte]
    rfl
  · rw [missing, cancelHold, beyond]
    rfl

/-- A click is taken as the click that was made. -/
theorem observe_click (tracker : GestureTracker) (slot : Slot) (made : Click) :
    tracker.observe (.ofText .upDown (Enumeration.code made) slot.byte (Enumeration.name made)) =
      tracker.heed (.clicked slot made) := by
  cases made <;> rfl

/-- The notice of a click on a channel means the click on the slot of the channel. -/
theorem react_button (filter : ClickFilter) (tracker : GestureTracker) (kind : ButtonClass)
    (press : Press) :
    tracker.react filter (.button kind press) =
      ((Event.button kind press).meaning? filter).elim (tracker, []) tracker.heed := by
  rw [Event.meaning?_button, Press.meaning?]
  dsimp only [react, Notice.ofEvent?]
  rw [Notice.slotOfChannel?_eq]
  by_cases kept : press.click ∈ filter.kept kind
  · have forwards : filter.forwards kind press.click = true := decide_eq_true kept
    rw [if_pos forwards, if_pos kept]
    cases Slot.ofNat? press.channel.toNat with
    | none => rfl
    | some slot => exact tracker.observe_click slot press.click
  · have drops : ¬ filter.forwards kind press.click = true :=
      fun forwards => kept (of_decide_eq_true forwards)
    rw [if_neg drops, if_neg kept]
    rfl

/-- The notice of an event means what the event means, and an event without a notice means
nothing. -/
theorem react_eq_heed (filter : ClickFilter) (tracker : GestureTracker) (event : Event) :
    tracker.react filter event = (event.meaning? filter).elim (tracker, []) tracker.heed := by
  cases event with
  | button kind press => exact tracker.react_button filter kind press
  | statusChanged channel status reason =>
    cases status with
    | disconnected => exact tracker.observe_lost channel _
    | connected | ready => rfl
  | channelRemoved channel reason => exact tracker.observe_lost channel _
  | _ => rfl

private theorem observeAll_filterMap_cons (filter : ClickFilter) (tracker : GestureTracker)
    (event : Event) (rest : List Event) :
    tracker.observeAll ((event :: rest).filterMap (Notice.ofEvent? filter)) =
      (((tracker.react filter event).1.observeAll (rest.filterMap (Notice.ofEvent? filter))).1,
        (tracker.react filter event).2 ++
          ((tracker.react filter event).1.observeAll
            (rest.filterMap (Notice.ofEvent? filter))).2) := by
  unfold react
  cases told : Notice.ofEvent? filter event with
  | none => rw [List.filterMap_cons_none told, List.nil_append]
  | some notice => rw [List.filterMap_cons_some told, observeAll_cons]

private theorem heedAll_filterMap_cons (filter : ClickFilter) (tracker : GestureTracker)
    (event : Event)
    (rest : List Event) :
    tracker.heedAll ((event :: rest).filterMap (Event.meaning? filter)) =
      (((tracker.react filter event).1.heedAll (rest.filterMap (Event.meaning? filter))).1,
        (tracker.react filter event).2 ++
          ((tracker.react filter event).1.heedAll
            (rest.filterMap (Event.meaning? filter))).2) := by
  rw [react_eq_heed]
  cases meant : event.meaning? filter with
  | none => rw [List.filterMap_cons_none meant, Option.elim_none, List.nil_append]
  | some meaning =>
    rw [List.filterMap_cons_some meant]
    rfl

/-- The notices of events mean one after another what the events mean one after another. -/
theorem observeAll_eq_heedAll (filter : ClickFilter) (tracker : GestureTracker)
    (events : List Event) :
    tracker.observeAll (events.filterMap (Notice.ofEvent? filter)) =
      tracker.heedAll (events.filterMap (Event.meaning? filter)) := by
  induction events generalizing tracker with
  | nil => rfl
  | cons event rest ih => rw [observeAll_filterMap_cons, heedAll_filterMap_cons, ih]

end GestureTracker

namespace Session

def track (session : Session) (outcome : GestureTracker × List Effect) : Session × List Effect :=
  ({ session with tracker := outcome.1 }, outcome.2)

/-- What a session does about the notice of an event, or about none. -/
theorem dispatch_eq_react (filter : ClickFilter) (session : Session) (event : Event) :
    (Notice.ofEvent? filter event).elim (session, []) session.dispatch =
      session.track (session.tracker.react filter event) := by
  unfold GestureTracker.react
  cases Notice.ofEvent? filter event with
  | none => rfl
  | some notice => exact session.dispatch_eq_observe notice

end Session

/-- The way over notices keeps the meaning of events. No event becomes a notice that ends the
connection. What a session does about the notice of an event, or about none, is what the event
means, at whatever stage and with whatever clicks before; so nothing happens on channels that belong
to no slot. And if a session has heard the notices of some events, besides signs of life, it stands
where their meanings lead, one after another, and has answered what they answer. -/
theorem notices_mean_what_events_mean (filter : ClickFilter) :
    (∀ event,
      (∀ notice, Notice.ofEvent? filter event = some notice →
        notice.isFatal = false ∧ ∀ session : Session,
          session.consume notice = { session with packets := session.packets + 1 }.track
            ((event.meaning? filter).elim (session.tracker, []) session.tracker.heed)) ∧
      (∀ session : Session,
        (Notice.ofEvent? filter event).elim (session, []) session.dispatch =
          session.track ((event.meaning? filter).elim (session.tracker, []) session.tracker.heed)) ∧
      ∀ channel, event.channel? = some channel → slotCount ≤ channel.toNat →
        ∀ session : Session,
          (Notice.ofEvent? filter event).elim (session, []) session.dispatch = (session, [])) ∧
    ∀ addresses epochLength publisher log station, ∀ events : List Event,
      Station.Course (.create addresses epochLength publisher) log station →
      log.heard.filter (· != Reception.silence) = events.filterMap (Notice.ofEvent? filter) →
      GestureTracker.start.heedAll (events.filterMap (Event.meaning? filter)) =
        (station.session.tracker, log.answers) := by
  have square (event : Event) (session : Session) :
      (Notice.ofEvent? filter event).elim (session, []) session.dispatch =
        session.track
          ((event.meaning? filter).elim (session.tracker, []) session.tracker.heed) := by
    rw [Session.dispatch_eq_react, GestureTracker.react_eq_heed]
  refine ⟨?_, ?_⟩
  · intro event
    refine ⟨?_, square event, ?_⟩
    · intro notice told
      have alive := Notice.alive_of_ofEvent? told
      refine ⟨alive, ?_⟩
      intro session
      have counted := square event { session with packets := session.packets + 1 }
      rw [told] at counted
      rw [Session.consume, if_neg (Bool.eq_false_iff.mp alive)]
      exact counted
    · intro channel about beyond session
      rw [square, Event.meaning?_of_beyond about beyond]
      rfl
  · intro addresses epochLength publisher log station events course heard
    rw [← GestureTracker.observeAll_eq_heedAll, ← heard, GestureTracker.observeAll_filter]
    exact (Station.delivered_of_course course).answered

end ButtonGateway
