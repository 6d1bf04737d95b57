import ButtonGateway.Proofs.Connection.Standing
import ButtonGateway.Proofs.Routing

namespace ButtonGateway

open Wire

private theorem Incident.stream_prefix {incidents others : List Incident}
    (within : incidents <+: others) :
    stream incidents <+: stream others := by
  induction incidents generalizing others with
  | nil => exact List.nil_prefix
  | cons incident rest ih =>
    obtain ⟨later, rfl⟩ := within
    have further := ih (List.prefix_append rest later)
    cases incident with
    | sent bytes => exact (List.prefix_append_right_inj bytes).mpr further
    | elapsed seconds => exact further
    | closed => exact List.nil_prefix

private theorem Wire.Frame.split_prefix {bytes more : Bytes} (within : bytes <+: more) :
    (split bytes).1 <+: (split more).1 := by
  obtain ⟨later, rfl⟩ := within
  have whole := (splits_split bytes).extend (splits_split ((split bytes).2 ++ later))
  rw [split_eq_iff.mpr whole]
  exact List.prefix_append _ _

namespace Happening

/-- The bytes that the daemon sends before the reception ends. -/
def received (happenings : List Happening) : Bytes :=
  Incident.stream (happenings.filterMap incident?)

/-- The events that these bytes tell. -/
def events (happenings : List Happening) : List Daemon.Event :=
  (Frame.split (received happenings)).1.filterMap fun body => (Daemon.Event.decode body).toOption

private theorem stream_incidents (happenings : List Happening) :
    Incident.stream (incidents happenings) = received happenings := by
  induction happenings with
  | nil => rfl
  | cons happening rest ih =>
    cases happening with
    | sent bytes => exact congrArg (bytes ++ ·) ih
    | hungUp | interrupted => rfl
    | elapsed | deafened | publisher => exact ih

end Happening

namespace Reception

/-- Neither signs of life nor the end were told by the daemon, all else was. -/
theorem Forwards.filter_isTold {filter : ClickFilter} {bodies : List Bytes}
    {ended : Option ReceptionEnd} {notices : List Notice}
    (forwards : Forwards filter bodies ended notices) :
    notices.filter Notice.isTold =
      (bodies.filterMap fun body => (Daemon.Event.decode body).toOption).filterMap
        (Notice.ofEvent? filter) := by
  obtain ⟨messages, last, rfl, tells⟩ := forwards
  have alive : messages.filter Notice.isTold = messages.filter (· ≠ silence) := by
    apply List.filter_congr
    intro notice member
    rw [Bool.eq_iff_iff]
    simp [Notice.isTold, tells.alive notice member]
  have ended : last.filter Notice.isTold = [] := by
    rw [List.filter_eq_nil_iff]
    intro notice member
    simp [Notice.isTold, tells.fatal notice member]
  rw [List.filter_append, alive, ended, List.append_nil, tells.told, List.filterMap_filterMap]
  rfl

end Reception

namespace Gateway

/-- What the reception of a connection hands over is what the daemon tells on this connection. -/
theorem told_handedOver (filter : ClickFilter) (buttons : SlotTable) (epochLength : Nat)
    (publisher : Publisher) (happenings : List Happening) :
    ((start filter buttons epochLength publisher).1.handedOver happenings).filter Notice.isTold =
      (Happening.events happenings).filterMap (Notice.ofEvent? filter) := by
  have forwards := (Reception.follow_start filter
    (Frame.splits_split (Incident.stream (Happening.incidents happenings))) 0
    Reception.standardTimeout (by decide)).2
  rw [Happening.events, ← Happening.stream_incidents, ← forwards.filter_isTold, start_eq]
  rfl

/-- What a session answers on a connection is what some of the events cause that the daemon tells on
this connection, the first of them, one after another. -/
theorem answers_run (settings : Settings) (publisher : Publisher) (happenings : List Happening) :
    ∃ dispatched, dispatched <+: Happening.events happenings ∧
      (((Plan.ofSettings settings).start publisher).1.run happenings).2.filter Effect.isAnswer =
        (GestureTracker.start.reactAll settings.filter dispatched).flatMap Prod.snd := by
  let connected := ((Plan.ofSettings settings).start publisher).1
  have nothing : connected.station.inbox.expected = [] :=
    expected_start settings.filter settings.slotTable settings.epochLength.toNat publisher
  obtain ⟨log, course, accepted, done⟩ := reaches_run nothing happenings
  have told := told_handedOver settings.filter settings.slotTable settings.epochLength.toNat
    publisher (connected.noted happenings)
  have within : Happening.events (connected.noted happenings) <+: Happening.events happenings :=
    (Frame.split_prefix (Incident.stream_prefix
      ((connected.noted_prefix happenings).filterMap _))).filterMap _
  obtain ⟨dispatched, first, answers⟩ := answers_of_events course (accepted ▸ told)
  refine ⟨dispatched, first.trans within, ?_⟩
  rw [← done]
  exact answers

end Gateway

end ButtonGateway
