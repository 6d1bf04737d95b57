import ButtonGateway.Proofs.Supervision.Run

namespace ButtonGateway

open Wire

/-- Only what the daemon tells of itself becomes a notice about it. -/
theorem Notice.of_ofEvent?_info {filter : ClickFilter} {event : Daemon.Event} {notice : Notice}
    (told : ofEvent? filter event = some notice) (about : notice.kind = .info) :
    ∃ daemon, event = .info daemon := by
  cases event with
  | info daemon => exact ⟨daemon, rfl⟩
  | button kind press =>
    simp only [ofEvent?] at told
    split at told
    · obtain ⟨slot, _, rfl⟩ := Option.map_eq_some_iff.mp told
      cases about
    · cases told
  | pong | channelCreated | statusChanged | channelRemoved =>
    cases told
    cases about
  | _ => cases told

namespace GestureTracker

private theorem kind_of_announce_mem_observe {tracker : GestureTracker} {notice : Notice}
    {online : Bool}
    (announced : .announce online ∈ (tracker.observe notice).2) : notice.kind = .info := by
  unfold observe at announced
  split at announced
  · split at announced
    · obtain ⟨made, _, same⟩ := List.mem_map.mp announced
      cases same
    · cases announced
  · split at announced <;> cases announced
  · assumption
  all_goals cases announced

private theorem length_observe_le (tracker : GestureTracker) (notice : Notice) :
    (tracker.observe notice).2.length ≤ 1 := by
  unfold observe
  split
  · split
    · rw [List.length_map]
      exact Option.length_toList_le
    · simp
  · split <;> simp
  all_goals simp

/-- An event causes one effect at most. -/
theorem length_react_le (filter : ClickFilter) (tracker : GestureTracker) (event : Daemon.Event) :
    (tracker.react filter event).2.length ≤ 1 := by
  unfold react
  split
  · exact length_observe_le tracker _
  · simp

/-- A beginning of what events cause is what a beginning of them causes. -/
theorem prefix_reactAll {filter : ClickFilter} {tracker : GestureTracker}
    {events : List Daemon.Event} {effects : List Effect}
    (first : effects <+: (tracker.reactAll filter events).flatMap Prod.snd) :
    ∃ front, front <+: events ∧ effects = (tracker.reactAll filter front).flatMap Prod.snd := by
  induction events generalizing tracker effects with
  | nil => exact ⟨[], List.nil_prefix, List.prefix_nil.mp first⟩
  | cons event rest ih =>
    have short := length_react_le filter tracker event
    have goesOn {later : List Effect} (same : effects = (tracker.react filter event).2 ++ later)
        (within : later <+: ((tracker.react filter event).1.reactAll filter rest).flatMap
          Prod.snd) :
        ∃ front, front <+: event :: rest ∧
          effects = (tracker.reactAll filter front).flatMap Prod.snd := by
      obtain ⟨front, among, rfl⟩ := ih within
      exact ⟨event :: front, (List.prefix_cons_inj event).mpr among, same⟩
    change effects <+: (tracker.react filter event).2 ++ _ at first
    match caused : (tracker.react filter event).2, short with
    | [], _ =>
      rw [caused] at first
      exact goesOn (by rw [caused]; rfl) first
    | [effect], _ =>
      rw [caused] at first
      cases effects with
      | nil => exact ⟨[], List.nil_prefix, rfl⟩
      | cons other others =>
        obtain ⟨rfl, within⟩ := List.cons_prefix_cons.mp first
        exact goesOn (by rw [caused]; rfl) within

/-- Only what the daemon tells of itself announces the gateway online. -/
theorem info_of_announce {filter : ClickFilter} {tracker : GestureTracker}
    {events : List Daemon.Event} {entry : Daemon.Event × List Effect}
    (member : entry ∈ tracker.reactAll filter events) (announced : .announce true ∈ entry.2) :
    ∃ daemon, entry.1 = .info daemon := by
  induction events generalizing tracker with
  | nil => cases member
  | cons event rest ih =>
    rcases List.mem_cons.mp member with rfl | later
    · dsimp only [react] at announced
      split at announced
      · rename_i notice told
        exact Notice.of_ofEvent?_info told (kind_of_announce_mem_observe announced)
      · cases announced
    · exact ih later

end GestureTracker

namespace Supervision

variable {plan : Plan} {supervision next : Supervision} {visit : Visit}

/-- A visit begins with the announcement that the gateway is offline, and is cut short if the daemon
does not take a command. -/
theorem visited_eq_cons {rest : List Effect}
    (whole : (supervision.attended plan visit).2 = .announce false :: rest) :
    ∃ front, (supervision.visited plan visit).2 = .announce false :: front ∧ front <+: rest := by
  unfold visited
  cases visit.patience with
  | none => exact ⟨rest, whole, List.prefix_rfl⟩
  | some limit =>
    obtain ⟨count, fault⟩ := limit
    have taken : Effect.taken count (supervision.attended plan visit).2 =
        (.announce false :: (Effect.taken count rest).1, (Effect.taken count rest).2) := by
      rw [whole]
      rfl
    dsimp only
    rw [taken]
    split
    · rename_i done request same
      refine ⟨_, ?_, Effect.taken_prefix count rest⟩
      exact (congrArg Prod.fst same).symm
    · exact ⟨rest, whole, List.prefix_rfl⟩

/-- What is done on a visit, as far as it comes: nothing of it stems from another connection. -/
theorem calls_of_visit (settings : Settings) (supervision : Supervision) (visit : Visit) :
    ∃ rest, (supervision.visited (.ofSettings settings) visit).2 = .announce false :: rest ∧
      .announce false ∉ rest ∧
      ∃ dispatched, dispatched <+: Happening.events visit.happenings ∧
        rest.filter Effect.isAnswer =
          (GestureTracker.start.reactAll settings.filter dispatched).flatMap Prod.snd := by
  let plan := Plan.ofSettings settings
  let publisher := { supervision.publisher with up := visit.up }
  obtain ⟨opening, begins, once, unanswered⟩ := Gateway.effects_start plan publisher
  obtain ⟨dispatched, first, answers⟩ :=
    Gateway.answers_run settings publisher visit.happenings
  let ran := ((plan.start publisher).1.run visit.happenings).2
  have whole : (supervision.attended plan visit).2 = .announce false :: (opening ++ ran) := by
    change (plan.start publisher).2 ++ ran = _
    rw [begins]
    rfl
  obtain ⟨front, cut, within⟩ := visited_eq_cons whole
  have quiet : .announce false ∉ front := by
    intro member
    rcases List.mem_append.mp (within.subset member) with early | late
    · exact once early
    · exact Gateway.online_run plan publisher visit.happenings late
  have answered : front.filter Effect.isAnswer <+:
      (GestureTracker.start.reactAll settings.filter dispatched).flatMap Prod.snd := by
    have some := within.filter Effect.isAnswer
    rwa [List.filter_append, unanswered, List.nil_append, answers] at some
  obtain ⟨earlier, among, same⟩ := GestureTracker.prefix_reactAll answered
  exact ⟨front, cut, quiet, earlier, among.trans first, same⟩

/-- The publisher that an attempt leaves behind is repaired like the one it was given. -/
theorem alike_of_serve {attempt : Attempt} {lasted : Option Nat} {pause : UInt64}
    (gone : (supervision.serve plan attempt).1 = .again lasted next pause) :
    next.publisher.Alike supervision.publisher := by
  cases attempt with
  | refused =>
    cases gone
    exact .refl _
  | served visit =>
    cases of_visited_again gone
    have begun := Gateway.alike_start plan { supervision.publisher with up := visit.up }
    exact ((Gateway.alike_run _ visit.happenings).trans begun).trans ⟨rfl, rfl⟩

/-- Throughout a run the publisher is repaired in the same way. -/
theorem served_alike {first : Supervision} {publisher : Publisher}
    (alike : first.publisher.Alike publisher) {attempts : List Attempt} {i : Nat}
    {outcome : Ending × List Effect} (served : (first.run plan attempts)[i]? = some outcome) :
    ∃ (current : Supervision) (attempt : Attempt), current.publisher.Alike publisher ∧
      attempts[i]? = some attempt ∧ outcome = current.serve plan attempt := by
  have step (_ : List (Ending × List Effect)) (current : Supervision) (attempt : Attempt)
      (lasted : Option Nat) (next : Supervision) (pause : UInt64)
      (kept : current.publisher.Alike publisher)
      (gone : (current.serve plan attempt).1 = .again lasted next pause) :
      next.publisher.Alike publisher := (alike_of_serve gone).trans kept
  exact served_of_run step [] served alike

/-- Visits of daemons under publishers that are repaired alike are the same, however long it took to
open the connections. -/
theorem snd_visited_congr {other : Supervision}
    (alike : other.publisher.Alike supervision.publisher) (plan : Plan) (visit : Visit)
    (opening : Nat) :
    (other.visited plan { visit with opening }).2 = (supervision.visited plan visit).2 := by
  have same : other.attended plan { visit with opening } = supervision.attended plan visit := by
    unfold attended opened
    rw [alike.withUp_eq]
  unfold visited
  rw [same]
  cases visit.patience with
  | none => rfl
  | some limit =>
    dsimp only
    split <;> rfl

/-- Connections are isolated from one another. In every run of supervision a refused attempt does
nothing. A connection first announces the gateway offline, and not again; what else it announces and
all that it publishes is what some of the events cause that the daemon told on this connection, the
first of them, beginning with a fresh tracker, and only what the daemon told of itself announces the
gateway online. In any other run, whatever came before, the same connection does the same, if the
publisher is repaired in the same way. -/
theorem connections_are_isolated (settings : Settings) {first : Supervision}
    {attempts : List Attempt} {i : Nat} {outcome : Ending × List Effect}
    (served : (first.run (.ofSettings settings) attempts)[i]? = some outcome) :
    (attempts[i]? = some .refused → outcome.2 = []) ∧
    ∀ visit, attempts[i]? = some (.served visit) →
      (∃ rest, outcome.2 = .announce false :: rest ∧ .announce false ∉ rest ∧
        ∃ dispatched, dispatched <+: Happening.events visit.happenings ∧
          rest.filter Effect.isAnswer =
            (GestureTracker.start.reactAll settings.filter dispatched).flatMap Prod.snd ∧
          ∀ entry ∈ GestureTracker.start.reactAll settings.filter dispatched,
            .announce true ∈ entry.2 → ∃ daemon, entry.1 = .info daemon) ∧
      ∀ (second : Supervision) (others : List Attempt) (j : Nat) (other : Ending × List Effect)
        (opening : Nat), second.publisher.Alike first.publisher →
        (second.run (.ofSettings settings) others)[j]? = some other →
        others[j]? = some (.served { visit with opening }) → other.2 = outcome.2 := by
  obtain ⟨current, attempt, kept, here, rfl⟩ := served_alike (.refl first.publisher) served
  refine ⟨?_, ?_⟩
  · intro refused
    cases Option.some.inj (here.symm.trans refused)
    rfl
  · intro visit visited
    cases Option.some.inj (here.symm.trans visited)
    refine ⟨?_, ?_⟩
    · obtain ⟨rest, calls, once, dispatched, within, answers⟩ :=
        calls_of_visit settings current visit
      refine ⟨rest, calls, once, dispatched, within, answers, ?_⟩
      intro entry member announced
      exact GestureTracker.info_of_announce member announced
    · intro second others j other opening alike servedToo visitedToo
      obtain ⟨later, again, keptToo, there, rfl⟩ := served_alike alike servedToo
      cases Option.some.inj (there.symm.trans visitedToo)
      exact snd_visited_congr (keptToo.trans kept.symm) _ visit opening

/-- A daemon that tells of itself is served in the same way behind a refused attempt and behind a
connection that lasted for no time. -/
theorem connection_repeats_behind_another :
    ∃ (settings : Settings) (visit : Visit) (outcome other : Ending × List Effect),
      (run (.ofSettings settings) ⟨0, ⟨true, true, 0⟩⟩ [.refused, .served visit])[1]? =
          some outcome ∧
        (run (.ofSettings settings) ⟨7, ⟨false, true, 0⟩⟩
            [.served ⟨0, true, none, [.hungUp]⟩, .served visit])[1]? = some other ∧
        (Happening.events visit.happenings).length = 1 ∧
        other.2 = outcome.2 ∧
        ∃ rest, outcome.2 = .announce false :: rest ∧ .announce false ∉ rest := by
  let settings : Settings :=
    { broker := ⟨"tcp://localhost", "home", "gateway"⟩
      buttons := [] }
  let info : Bytes := [9, 2, 0, 0, 0, 0, 0, 0, 0, 0, 0, 0, 0, 0, 0, 0]
  let visit : Visit := ⟨0, true, none, [.sent (Frame.framed info)]⟩
  have refused : (serve (.ofSettings settings) ⟨0, ⟨true, true, 0⟩⟩ .refused).1 =
      .again none ⟨1, ⟨true, true, 0⟩⟩ 100 := by decide
  have hungUp : (serve (.ofSettings settings) ⟨7, ⟨false, true, 0⟩⟩
      (.served ⟨0, true, none, [.hungUp]⟩)).1 = .again (some 0) ⟨8, ⟨true, true, 0⟩⟩ 12800 := by
    rw [serve, visited_hungUp (by decide)]
    decide
  have told : (Happening.events visit.happenings).length = 1 := by
    have whole : Frame.split (Happening.received visit.happenings) = ([info], []) :=
      Frame.split_eq_iff.mpr
        ⟨rfl, by decide, Frame.incomplete_of_next?_eq_none rfl⟩
    rw [Happening.events, whole]
    decide
  have first : (run (.ofSettings settings) ⟨0, ⟨true, true, 0⟩⟩ [.refused, .served visit])[1]? =
      some (visited (.ofSettings settings) ⟨1, ⟨true, true, 0⟩⟩ visit) := by
    rw [run_of_again refused, List.getElem?_cons_succ, run_zero]
    rfl
  have second : (run (.ofSettings settings) ⟨7, ⟨false, true, 0⟩⟩
      [.served ⟨0, true, none, [.hungUp]⟩, .served visit])[1]? =
        some (visited (.ofSettings settings) ⟨8, ⟨true, true, 0⟩⟩ visit) := by
    rw [run_of_again hungUp, List.getElem?_cons_succ, run_zero]
    rfl
  obtain ⟨⟨rest, calls, once, _⟩, same⟩ := (connections_are_isolated settings first).2 visit rfl
  have again := same ⟨7, ⟨false, true, 0⟩⟩ _ 1 _ 0 ⟨rfl, rfl⟩ second rfl
  exact ⟨settings, visit, _, _, first, second, told, again, rest, calls, once⟩

end Supervision

end ButtonGateway
