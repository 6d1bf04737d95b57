import ButtonGateway.Proofs.Reception
/-!
The rhythm of a reception. Silence is counted from what was handled last, be it a packet or the end
of a silence, and from nothing else: neither bytes of a packet that is not complete nor packets that
tell nothing make a difference to that.
-/
namespace ButtonGateway

open Wire

inductive Handled where
  | packet (body : Bytes)
  | sign
  deriving DecidableEq, Repr

abbrev Chronicle := List (Nat × Handled)

namespace Chronicle

def packets (chronicle : Chronicle) : List (Nat × Bytes) :=
  chronicle.filterMap fun
    | (instant, .packet body) => some (instant, body)
    | (_, .sign) => none

def signs (chronicle : Chronicle) : List Nat :=
  chronicle.filterMap fun
    | (instant, .sign) => some instant
    | (_, .packet _) => none

/-- When something was handled last, or when the chronicle began. -/
def latest (start : Nat) : Chronicle → Nat
  | [] => start
  | (instant, _) :: rest => latest instant rest

/-- A chronicle is in rhythm: a sign comes when the timeout has passed since something was handled
last, and everything else comes before that. -/
inductive Rhythm (timeout : Nat) : Nat → Chronicle → Nat → Prop where
  | rest {last finish : Nat} (later : last ≤ finish) (early : finish < last + timeout) :
      Rhythm timeout last [] finish
  | sign {last finish : Nat} {entries : Chronicle}
      (further : Rhythm timeout (last + timeout) entries finish) :
      Rhythm timeout last ((last + timeout, .sign) :: entries) finish
  | packet {last instant finish : Nat} {body : Bytes} {entries : Chronicle}
      (later : last ≤ instant) (early : instant < last + timeout)
      (further : Rhythm timeout instant entries finish) :
      Rhythm timeout last ((instant, .packet body) :: entries) finish

section Rhythm

variable {timeout start last finish : Nat} {chronicle front back other : Chronicle}

theorem packets_append (front back : Chronicle) :
    packets (front ++ back) = packets front ++ packets back := List.filterMap_append

private theorem packets_map (now : Nat) (bodies : List Bytes) :
    packets (bodies.map fun body => (now, .packet body)) = bodies.map (now, ·) := by
  unfold packets
  rw [List.filterMap_map]
  exact congrFun List.filterMap_eq_map bodies

/-- A chronicle in rhythm is in rhythm behind any beginning. -/
theorem Rhythm.behind (rhythm : Rhythm timeout start (front ++ back) finish) :
    Rhythm timeout (latest start front) back finish := by
  induction front generalizing start with
  | nil => exact rhythm
  | cons entry front ih =>
    cases rhythm with
    | sign further => exact ih further
    | packet _ _ further => exact ih further

theorem Rhythm.le_finish (rhythm : Rhythm timeout last chronicle finish) : last ≤ finish := by
  induction rhythm with
  | rest later early => exact later
  | sign further ih => omega
  | packet later early further ih => omega

theorem Rhythm.le_packets (rhythm : Rhythm timeout last chronicle finish) {entry : Nat × Bytes}
    (member : entry ∈ chronicle.packets) : last ≤ entry.1 := by
  induction rhythm with
  | rest => cases member
  | sign further ih => exact Nat.le_trans (Nat.le_add_right _ _) (ih member)
  | packet later early further ih =>
    rcases List.mem_cons.mp member with rfl | among
    · exact later
    · exact Nat.le_trans later (ih among)

/-- The packets leave no choice where the signs are. -/
theorem Rhythm.unique (rhythm : Rhythm timeout start chronicle finish)
    (otherRhythm : Rhythm timeout start other finish) (same : chronicle.packets = other.packets) :
    chronicle = other := by
  induction rhythm generalizing other with
  | rest later early =>
    cases otherRhythm with
    | rest => rfl
    | sign further =>
      have late := further.le_finish
      omega
    | packet => cases same
  | @sign last finish entries further ih =>
    cases otherRhythm with
    | rest later early =>
      have late := further.le_finish
      omega
    | sign otherFurther => exact congrArg _ (ih otherFurther same)
    | @packet _ instant _ body others later early _ =>
      have met : entries.packets = (instant, body) :: packets others := same
      have late := further.le_packets (met ▸ List.mem_cons_self)
      exact absurd late (Nat.not_le.mpr early)
  | @packet last instant finish body entries later early further ih =>
    cases otherRhythm with
    | rest => cases same
    | @sign _ _ others otherFurther =>
      have met : packets others = (instant, body) :: entries.packets := same.symm
      have late := otherFurther.le_packets (met ▸ List.mem_cons_self)
      exact absurd late (Nat.not_le.mpr early)
    | packet _ _ otherFurther =>
      obtain ⟨first, others⟩ := List.cons.inj same
      cases first
      exact congrArg _ (ih otherFurther others)

/-- Something that is handled comes at the latest when the timeout has passed since something was
handled last, and exactly then if it is a sign. -/
theorem Rhythm.instant {instant : Nat} {handled : Handled}
    (rhythm : Rhythm timeout start (front ++ (instant, handled) :: back) finish) :
    latest start front ≤ instant ∧ instant ≤ latest start front + timeout ∧
      (handled = .sign ↔ instant = latest start front + timeout) := by
  cases rhythm.behind with
  | sign => exact ⟨Nat.le_add_right _ _, Nat.le_refl _, iff_of_true rfl rfl⟩
  | packet later early =>
    exact ⟨later, Nat.le_of_lt early, iff_of_false nofun (Nat.ne_of_lt early)⟩

/-- At the end the timeout has not passed since something was handled last. -/
theorem Rhythm.ends (rhythm : Rhythm timeout start chronicle finish) :
    latest start chronicle ≤ finish ∧ finish < latest start chronicle + timeout := by
  rw [← List.append_nil chronicle] at rhythm
  cases rhythm.behind with
  | rest later early => exact ⟨later, early⟩

/-- Where a silence ends: with the next packet, or not at all until the end. -/
inductive Until (finish : Nat) : Chronicle → Nat → Prop where
  | finish : Until finish [] finish
  | packet {instant : Nat} {body : Bytes} {rest : Chronicle} :
      Until finish ((instant, .packet body) :: rest) instant

private theorem Rhythm.le_ended {ended : Nat} (rhythm : Rhythm timeout last (front ++ back) finish)
    (ends : Until finish back ended) : last ≤ ended := by
  cases ends with
  | finish => exact rhythm.le_finish
  | @packet _ body rest =>
    have member : (ended, body) ∈ packets (front ++ (ended, .packet body) :: rest) := by
      rw [packets_append]
      exact List.mem_append_right _ List.mem_cons_self
    exact rhythm.le_packets member

/-- A silence gives as many signs as it has timeouts. -/
theorem Rhythm.length_silence {silent : Chronicle} {ended : Nat}
    (rhythm : Rhythm timeout last (silent ++ back) finish) (positive : 0 < timeout)
    (signs : ∀ entry ∈ silent, entry.2 = .sign) (ends : Until finish back ended) :
    silent.length = (ended - last) / timeout := by
  induction silent generalizing last with
  | nil =>
    have short : ended - last < timeout := by
      cases ends with
      | finish =>
        cases rhythm with
        | rest later early => omega
      | packet =>
        cases rhythm with
        | packet later early => omega
    exact (Nat.div_eq_of_lt short).symm
  | cons entry silent ih =>
    obtain ⟨first, others⟩ := List.forall_mem_cons.mp signs
    cases rhythm with
    | packet => cases first
    | sign further =>
      have count := ih further others
      have reached := further.le_ended ends
      have divided := Nat.div_eq_sub_div positive (by omega : timeout ≤ ended - last)
      rw [List.length_cons, count, divided, Nat.sub_sub]

/-- Packets that are complete at the same instant are handled at that instant. -/
theorem Rhythm.prepend_packets {now : Nat} {bodies : List Bytes} (later : last ≤ now)
    (early : now < last + timeout)
    (rhythm : Rhythm timeout (if bodies = [] then last else now) chronicle finish) :
    Rhythm timeout last (bodies.map (fun body => (now, .packet body)) ++ chronicle) finish := by
  induction bodies generalizing last with
  | nil => exact rhythm
  | cons body rest ih =>
    refine .packet later early (ih (Nat.le_refl now) (by omega) ?_)
    rw [if_neg (List.cons_ne_nil body rest)] at rhythm
    rwa [ite_self]

end Rhythm

end Chronicle

namespace Incident

/-- How much time passes until the stream closes. -/
def duration : List Incident → Nat
  | [] => 0
  | .sent _ :: rest => duration rest
  | .elapsed seconds :: rest => seconds + duration rest
  | .closed :: _ => 0

/-- The packets of a stream that begins behind some bytes, each at the instant at which its last
byte comes. -/
def completed (now : Nat) (incomplete : Bytes) : List Incident → List (Nat × Bytes)
  | [] => []
  | .sent bytes :: rest =>
    let frames := Frame.split (incomplete ++ bytes)
    frames.1.map (now, ·) ++ completed now frames.2 rest
  | .elapsed seconds :: rest => completed (now + seconds) incomplete rest
  | .closed :: _ => []

/-- The pieces in which they come and the pauses do not decide which packets come. -/
theorem bodies_completed (incidents : List Incident) (now : Nat) {incomplete : Bytes}
    (begun : Frame.Incomplete incomplete) :
    (completed now incomplete incidents).map Prod.snd =
      (Frame.split (incomplete ++ stream incidents)).1 := by
  have nothing {bytes : Bytes} (begun : Frame.Incomplete bytes) :
      Frame.split (bytes ++ []) = ([], bytes) := by
    rw [List.append_nil]
    exact Frame.split_of_stuck (Frame.next?_of_incomplete begun)
  induction incidents generalizing now incomplete with
  | nil => exact (congrArg Prod.fst (nothing begun)).symm
  | cons incident rest ih =>
    cases incident with
    | sent bytes =>
      have taken := Frame.splits_split (incomplete ++ bytes)
      have further := taken.extend (Frame.splits_split (_ ++ stream rest))
      rw [List.append_assoc] at further
      rw [completed, stream, Frame.split_eq_iff.mpr further]
      dsimp only
      rw [List.map_append, ih now taken.incomplete, List.map_map]
      exact congrArg (· ++ _) (List.map_id _)
    | elapsed seconds => exact ih (now + seconds) begun
    | closed => exact (congrArg Prod.fst (nothing begun)).symm

end Incident

namespace Reception

/-- What something that is handled tells, and when. -/
def tells (filter : ClickFilter) : Nat × Handled → List (Nat × Notice)
  | (instant, .packet body) => (told? filter body).toList.map (instant, ·)
  | (instant, .sign) => [(instant, silence)]

def watch (now : Nat) (reception : Reception) : List Incident → List (Nat × Notice)
  | [] => []
  | .sent bytes :: rest =>
    let first := reception.receive now bytes
    first.2.map (now, ·) ++ watch now first.1 rest
  | .elapsed seconds :: rest =>
    let first := reception.elapse (now + seconds)
    first.2 ++ watch (now + seconds) first.1 rest
  | .closed :: rest =>
    let first := reception.close
    first.2.map (now, ·) ++ watch now first.1 rest

private theorem map_snd_watch (incidents : List Incident) (now : Nat) (reception : Reception) :
    (watch now reception incidents).map Prod.snd = (follow now reception incidents).2 := by
  induction incidents generalizing now reception with
  | nil => rfl
  | cons incident rest ih =>
    cases incident <;> simp [watch, follow, ih, Function.comp_def]

/-- Where a reception stands in time: something was handled by now, and since then the timeout has
not passed. -/
structure InTime (reception : Reception) (now : Nat) : Prop where
  later : reception.handledAt ≤ now
  early : now < reception.handledAt + reception.timeout

private theorem times_handle {reception : Reception} (listens : reception.Listens) (now : Nat)
    (body : Bytes) :
    (reception.handle now body).1.timeout = reception.timeout ∧
      (reception.handle now body).1.handledAt = now := by
  have handled : Listens { reception with handledAt := now } := ⟨listens.heard, listens.running⟩
  unfold handle
  cases noticeOf? reception.filter body with
  | none => exact ⟨rfl, rfl⟩
  | some notice =>
    dsimp only
    rw [handled.forward]
    exact ⟨rfl, rfl⟩

private theorem times_handleAll {reception : Reception} (listens : reception.Listens) (now : Nat)
    (bodies : List Bytes) :
    (handleAll now bodies reception).1.timeout = reception.timeout ∧
      (handleAll now bodies reception).1.handledAt =
        if bodies = [] then reception.handledAt else now := by
  induction bodies generalizing reception with
  | nil => exact ⟨rfl, rfl⟩
  | cons body rest ih =>
    obtain ⟨timeout, instant⟩ := times_handle listens now body
    obtain ⟨timeoutToo, instantToo⟩ := ih (handle_of_listens now body listens).1.listens
    unfold handleAll
    rw [listens.running]
    dsimp only
    rw [timeoutToo, timeout, instantToo, instant, ite_self, if_neg (List.cons_ne_nil body rest)]
    exact ⟨rfl, rfl⟩

private theorem times_receive {reception : Reception} (listens : reception.Listens) (now : Nat)
    (bytes : Bytes) :
    (reception.receive now bytes).1.timeout = reception.timeout ∧
      (reception.receive now bytes).1.handledAt =
        if (Frame.split (reception.incomplete ++ bytes)).1 = [] then reception.handledAt
        else now := by
  have further : Listens { reception with
      incomplete := (Frame.split (reception.incomplete ++ bytes)).2 } :=
    ⟨listens.heard, listens.running⟩
  unfold receive
  split
  · rename_i ended
    cases listens.running.symm.trans ended
  · exact times_handleAll further now _

/-- Packets that come keep a reception in time. -/
theorem InTime.receive {reception : Reception} {now : Nat} (inTime : reception.InTime now)
    (listens : reception.Listens) (bytes : Bytes) : (reception.receive now bytes).1.InTime now := by
  obtain ⟨timeout, instant⟩ := times_receive listens now bytes
  obtain ⟨later, early⟩ := inTime
  have positive := reception.timeout_pos
  refine ⟨?_, ?_⟩
  · rw [instant]
    split <;> omega
  · rw [timeout, instant]
    split <;> omega

/-- What packets tell that are complete at the same instant. -/
theorem flatMap_tells_packets (filter : ClickFilter) (now : Nat) (bodies : List Bytes) :
    (bodies.map fun body => (now, Handled.packet body)).flatMap (tells filter) =
      (bodies.filterMap (told? filter)).map (now, ·) := by
  induction bodies with
  | nil => rfl
  | cons body rest ih =>
    rw [List.map_cons, List.flatMap_cons, ih, List.filterMap_cons]
    cases told : told? filter body <;> simp [tells, told]

private theorem times_beat (reception : Reception) :
    reception.beat.1.timeout = reception.timeout ∧
      reception.beat.1.handledAt = reception.handledAt + reception.timeout := by
  unfold beat forward
  split <;> exact ⟨rfl, rfl⟩

/-- Time that passes gives the signs that keep the rhythm, and keeps a reception in time. -/
theorem elapse_in_rhythm {reception : Reception} (listens : reception.Listens) {now : Nat}
    (later : reception.handledAt ≤ now) :
    (reception.elapse now).1.timeout = reception.timeout ∧
    (reception.elapse now).1.InTime now ∧
    ∃ signs : Chronicle, signs.packets = [] ∧
      (∀ filter, (reception.elapse now).2 = signs.flatMap (tells filter)) ∧
      ∀ entries finish,
        Chronicle.Rhythm reception.timeout (reception.elapse now).1.handledAt entries finish →
        Chronicle.Rhythm reception.timeout reception.handledAt (signs ++ entries) finish := by
  -- The induction follows the signs: each is the end of one more timeout.
  fun_induction elapse reception now with
  | case1 reception instant due first others ih =>
    obtain ⟨beaten, sign⟩ := beat_of_listens listens
    obtain ⟨timeout, moved⟩ := times_beat reception
    obtain ⟨same, inTime, signs, none, told, rhythm⟩ := ih beaten.listens (moved ▸ due.2)
    refine ⟨same.trans timeout, inTime, (instant, .sign) :: signs, none, ?_, ?_⟩
    · intro filter
      rw [sign, told filter]
      rfl
    · intro entries finish further
      have behind := rhythm entries finish (by rwa [timeout])
      rw [timeout, moved] at behind
      exact .sign behind
  | case2 reception instant early =>
    refine ⟨rfl, ⟨later, Nat.lt_of_not_le ?_⟩, [], rfl, fun _ => rfl, fun _ _ => id⟩
    exact fun due => early ⟨listens.running, due⟩

/-- What a reception of an open stream handles is in rhythm: the packets at the instants at which
they are complete, and between them signs. -/
theorem exists_chronicle (incidents : List Incident) {reception : Reception}
    (listens : reception.Listens) (opened : Incident.closes incidents = false) {now : Nat}
    (inTime : reception.InTime now) :
    ∃ chronicle : Chronicle,
      Chronicle.Rhythm reception.timeout reception.handledAt chronicle
        (now + Incident.duration incidents) ∧
      chronicle.packets = Incident.completed now reception.incomplete incidents ∧
      watch now reception incidents = chronicle.flatMap (tells reception.filter) := by
  induction incidents generalizing reception now with
  | nil => exact ⟨[], .rest inTime.later inTime.early, rfl, rfl⟩
  | cons incident rest ih =>
    cases incident with
    | sent bytes =>
      obtain ⟨first, told⟩ := receive_of_listens now bytes listens
      obtain ⟨timeout, instant⟩ := times_receive listens now bytes
      obtain ⟨chronicle, rhythm, packets, notices⟩ :=
        ih first.listens opened (inTime.receive listens bytes)
      rw [timeout, instant] at rhythm
      refine ⟨_, rhythm.prepend_packets inTime.later inTime.early, ?_, ?_⟩
      · rw [Chronicle.packets_append, Chronicle.packets_map, packets, first.incomplete]
        rfl
      · rw [watch, told, notices, first.filter, List.flatMap_append, flatMap_tells_packets]
    | elapsed seconds =>
      obtain ⟨first, -⟩ := elapse_of_listens (now + seconds) listens
      have later := Nat.le_trans inTime.later (Nat.le_add_right now seconds)
      obtain ⟨timeout, further, signs, none, told, extend⟩ := elapse_in_rhythm listens later
      obtain ⟨chronicle, rhythm, packets, notices⟩ := ih first.listens opened further
      rw [timeout, Nat.add_assoc] at rhythm
      refine ⟨signs ++ chronicle, extend _ _ rhythm, ?_, ?_⟩
      · rw [Chronicle.packets_append, none, packets, first.incomplete]
        rfl
      · rw [watch, told reception.filter, notices, first.filter, List.flatMap_append]
    | closed => cases opened

/-- Nothing but signs passes for a sign. -/
theorem silences_tells (filter : ClickFilter) (chronicle : Chronicle) :
    ((chronicle.flatMap (tells filter)).filter fun entry => entry.2 = silence).map Prod.fst =
      chronicle.signs := by
  induction chronicle with
  | nil => rfl
  | cons entry rest ih =>
    rw [List.flatMap_cons, List.filter_append, List.map_append, ih]
    obtain ⟨instant, body | _⟩ := entry
    · have spared : (tells filter (instant, .packet body)).filter
          (fun entry => entry.2 = silence) = [] := by
        rw [List.filter_eq_nil_iff]
        intro entry member
        obtain ⟨notice, told, rfl⟩ := List.mem_map.mp member
        obtain ⟨event, translated⟩ := told?_eq_some (Option.mem_toList.mp told)
        simpa using Notice.ne_silence_of_ofEvent? translated
      rw [spared]
      rfl
    · simp [tells, Chronicle.signs]

private theorem inTime_start (filter : ClickFilter) (now timeout : Nat) (positive : 0 < timeout) :
    (start filter now timeout positive).InTime now :=
  ⟨Nat.le_refl now, Nat.lt_add_of_pos_right positive⟩

/-- The signs of life of an open stream. There is a chronicle of what a reception handles: each
packet at the instant at which its last byte comes, whether it can be read and tells anything or
not, and signs. These are the packets of the whole stream, in whatever pieces it comes and whatever
silences fall into them. Handed over is what they tell, and a sign of life exactly at each sign.
Something is handled at the latest when the timeout has passed since something was handled last, or
since the start, and what is handled just then is a sign; the same holds for the end. So a silence
gives as many signs as the timeout fits into it. And the packets leave no choice: with the same
packets at the same instants, other incidents give the same notices at the same instants. -/
theorem signs_are_counted_from_last_packet (filter : ClickFilter) {incidents : List Incident}
    (opened : Incident.closes incidents = false) (now timeout : Nat) (positive : 0 < timeout) :
    (Incident.completed now [] incidents).map Prod.snd =
        (Frame.split (Incident.stream incidents)).1 ∧
    (watch now (start filter now timeout positive) incidents).map Prod.snd =
        (follow now (start filter now timeout positive) incidents).2 ∧
    (∃ chronicle : Chronicle,
      chronicle.packets = Incident.completed now [] incidents ∧
      watch now (start filter now timeout positive) incidents =
        chronicle.flatMap (tells filter) ∧
      ((watch now (start filter now timeout positive) incidents).filter
        fun entry => entry.2 = silence).map Prod.fst = chronicle.signs ∧
      (∀ front instant handled back, chronicle = front ++ (instant, handled) :: back →
        Chronicle.latest now front ≤ instant ∧
        instant ≤ Chronicle.latest now front + timeout ∧
        (handled = .sign ↔ instant = Chronicle.latest now front + timeout)) ∧
      Chronicle.latest now chronicle ≤ now + Incident.duration incidents ∧
      now + Incident.duration incidents < Chronicle.latest now chronicle + timeout ∧
      ∀ front silent back ended, chronicle = front ++ (silent ++ back) →
        (∀ entry ∈ silent, entry.2 = .sign) →
        Chronicle.Until (now + Incident.duration incidents) back ended →
        silent.length = (ended - Chronicle.latest now front) / timeout) ∧
    ∀ others, Incident.closes others = false →
      Incident.completed now [] others = Incident.completed now [] incidents →
      Incident.duration others = Incident.duration incidents →
      watch now (start filter now timeout positive) others =
        watch now (start filter now timeout positive) incidents := by
  have listens : (start filter now timeout positive).Listens := ⟨rfl, rfl⟩
  have inTime := inTime_start filter now timeout positive
  obtain ⟨chronicle, rhythm, packets, notices⟩ := exists_chronicle incidents listens opened inTime
  refine ⟨?_, map_snd_watch _ _ _, ⟨chronicle, packets, notices, ?_, ?_, ?_⟩, ?_⟩
  · exact Incident.bodies_completed incidents now (Frame.incomplete_of_next?_eq_none rfl)
  · rw [notices]
    exact silences_tells filter chronicle
  · rintro front instant handled back rfl
    exact rhythm.instant
  · refine ⟨rhythm.ends.1, rhythm.ends.2, ?_⟩
    rintro front silent back ended rfl signs ends
    exact rhythm.behind.length_silence positive signs ends
  · intro others openedToo same lasted
    obtain ⟨other, otherRhythm, otherPackets, otherNotices⟩ :=
      exists_chronicle others listens openedToo inTime
    rw [lasted] at otherRhythm
    have equal := otherRhythm.unique rhythm (otherPackets.trans (same.trans packets.symm))
    rw [otherNotices, notices, equal]

/-- The answer to a ping comes in two pieces, before and behind the end of a silence. -/
theorem signs_around_broken_packet :
    let incidents : List Incident := [.elapsed 3, .sent [5, 0, 13], .elapsed 3,
      .sent [1, 0, 0, 0], .elapsed 11]
    Incident.closes incidents = false ∧ 0 < 5 ∧
      Incident.completed 0 [] incidents = [(6, [13, 1, 0, 0, 0])] ∧
      ((watch 0 (start .standard 0 5 (by decide)) incidents).filter
        fun entry => entry.2 = silence).map Prod.fst = [5, 11, 16] ∧
      ∃ chronicle : Chronicle, chronicle.packets = [(6, [13, 1, 0, 0, 0])] ∧
        chronicle.signs = [5, 11, 16] := by
  intro incidents
  have opened : Incident.closes incidents = false := rfl
  have completed : Incident.completed 0 [] incidents = [(6, [13, 1, 0, 0, 0])] := by
    decide +kernel
  have silences : ((watch 0 (start .standard 0 5 (by decide)) incidents).filter
      fun entry => entry.2 = silence).map Prod.fst = [5, 11, 16] := by
    decide +kernel
  obtain ⟨-, -, ⟨chronicle, packets, -, signs, -⟩, -⟩ :=
    signs_are_counted_from_last_packet .standard opened 0 5 (by decide)
  exact ⟨opened, by decide, completed, silences, chronicle, packets.trans completed,
    signs.symm.trans silences⟩

end Reception

end ButtonGateway
