import ButtonGateway.Proofs.Notice.Translation
import ButtonGateway.Proofs.Wire.Frame

namespace ButtonGateway

open Wire

inductive Incident where
  | sent (bytes : Bytes)
  | elapsed (seconds : Nat)
  | closed
  deriving DecidableEq, Repr

namespace Incident

/-- The bytes of the stream, which end where it closes. -/
def stream : List Incident → Bytes
  | [] => []
  | .sent bytes :: rest => bytes ++ stream rest
  | .elapsed _ :: rest => stream rest
  | .closed :: _ => []

def closes : List Incident → Bool
  | [] => false
  | .sent _ :: rest => closes rest
  | .elapsed _ :: rest => closes rest
  | .closed :: _ => true

end Incident

namespace Reception

/-- A reception through incidents that begin at a given time, and the notices that it hands over. -/
def follow (now : Nat) (reception : Reception) : List Incident → Reception × List Notice
  | [] => (reception, [])
  | .sent bytes :: rest =>
    let first := reception.receive now bytes
    let others := follow now first.1 rest
    (others.1, first.2 ++ others.2)
  | .elapsed seconds :: rest =>
    let first := reception.elapse (now + seconds)
    let others := follow (now + seconds) first.1 rest
    (others.1, first.2.map (·.2) ++ others.2)
  | .closed :: rest =>
    let first := reception.close
    let others := follow now first.1 rest
    (others.1, first.2 ++ others.2)

/-- Somebody takes the notices, and the stream has not ended. -/
structure Listens (reception : Reception) : Prop where
  heard : reception.heard = true
  running : reception.ended = none

/-- What the body of a packet tells, if it can be read at all. -/
def told? (filter : ClickFilter) (body : Bytes) : Option Notice :=
  (Daemon.Event.decode body).toOption.bind (Notice.ofEvent? filter)

private theorem noticeOf?_eq_told? (filter : ClickFilter) (body : Bytes) :
    noticeOf? filter body = told? filter body := by
  unfold noticeOf? told?
  cases Daemon.Event.decode body <;> rfl

theorem told?_eq_some {filter : ClickFilter} {body : Bytes} {notice : Notice}
    (told : told? filter body = some notice) :
    ∃ event, Notice.ofEvent? filter event = some notice := by
  obtain ⟨event, _, translated⟩ := Option.bind_eq_some_iff.mp told
  exact ⟨event, translated⟩

private theorem told?_nil (filter : ClickFilter) : told? filter [] = none := by
  rfl

/-- The next reception differs only in its times and in the bytes that are incomplete. -/
structure Continues (reception : Reception) (incomplete : Bytes) (next : Reception) : Prop where
  filter : next.filter = reception.filter
  incomplete : next.incomplete = incomplete
  listens : next.Listens

theorem Listens.forward {reception : Reception} (listens : reception.Listens) (notice : Notice) :
    reception.forward notice = (reception, [notice]) := if_pos listens.heard

theorem handle_of_listens (now : Nat) (body : Bytes) {reception : Reception}
    (listens : reception.Listens) :
    reception.Continues reception.incomplete (reception.handle now body).1 ∧
      (reception.handle now body).2 = (told? reception.filter body).toList := by
  have handled : Listens { reception with handledAt := now } := ⟨listens.heard, listens.running⟩
  unfold handle
  rw [noticeOf?_eq_told?]
  cases told? reception.filter body with
  | none => exact ⟨⟨rfl, rfl, handled⟩, rfl⟩
  | some notice =>
    dsimp only
    rw [handled.forward]
    exact ⟨⟨rfl, rfl, handled⟩, rfl⟩

private theorem handleAll_of_listens (now : Nat) (bodies : List Bytes) {reception : Reception}
    (listens : reception.Listens) :
    reception.Continues reception.incomplete (handleAll now bodies reception).1 ∧
      (handleAll now bodies reception).2 = bodies.filterMap (told? reception.filter) := by
  induction bodies generalizing reception with
  | nil => exact ⟨⟨rfl, rfl, listens⟩, rfl⟩
  | cons body rest ih =>
    obtain ⟨first, told⟩ := handle_of_listens now body listens
    obtain ⟨others, further⟩ := ih first.listens
    unfold handleAll
    rw [listens.running]
    dsimp only
    refine ⟨⟨others.filter.trans first.filter, others.incomplete.trans first.incomplete,
      others.listens⟩, ?_⟩
    rw [told, further, first.filter, List.filterMap_cons]
    cases told? reception.filter body <;> rfl

theorem receive_of_listens (now : Nat) (bytes : Bytes) {reception : Reception}
    (listens : reception.Listens) :
    reception.Continues (Frame.split (reception.incomplete ++ bytes)).2
        (reception.receive now bytes).1 ∧
      (reception.receive now bytes).2 =
        (Frame.split (reception.incomplete ++ bytes)).1.filterMap (told? reception.filter) := by
  have further : Listens { reception with
      incomplete := (Frame.split (reception.incomplete ++ bytes)).2 } :=
    ⟨listens.heard, listens.running⟩
  obtain ⟨all, told⟩ := handleAll_of_listens now
    (Frame.split (reception.incomplete ++ bytes)).1 further
  unfold receive
  split
  · rename_i ended
    cases listens.running.symm.trans ended
  · exact ⟨⟨all.filter, all.incomplete, all.listens⟩, told⟩

theorem beat_of_listens {reception : Reception} (listens : reception.Listens) :
    reception.Continues reception.incomplete reception.beat.1 ∧ reception.beat.2 = [silence] := by
  have handled : Listens { reception with
      handledAt := reception.handledAt + reception.timeout } := ⟨listens.heard, listens.running⟩
  unfold beat
  rw [handled.forward]
  exact ⟨⟨rfl, rfl, handled⟩, rfl⟩

/-- Silence gives signs of life and nothing else. -/
theorem elapse_of_listens (now : Nat) {reception : Reception} (listens : reception.Listens) :
    reception.Continues reception.incomplete (reception.elapse now).1 ∧
      ∀ entry ∈ (reception.elapse now).2, entry.2 = silence := by
  fun_induction elapse reception now with
  | case1 reception instant due first others ih =>
    obtain ⟨beaten, sign⟩ := beat_of_listens listens
    obtain ⟨further, signs⟩ := ih beaten.listens
    refine ⟨⟨further.filter.trans beaten.filter, further.incomplete.trans beaten.incomplete,
      further.listens⟩, ?_⟩
    intro entry member
    rw [sign] at member
    rcases List.mem_append.mp member with now | later
    · rw [List.mem_singleton.mp now]
    · exact signs entry later
  | case2 reception instant early => exact ⟨⟨rfl, rfl, listens⟩, by simp⟩

private theorem close_of_listens {reception : Reception} (listens : reception.Listens) :
    reception.close = ({ reception with ended := some (endOf reception.incomplete) },
      [Notice.fatal (endOf reception.incomplete).message]) := by
  unfold close
  rw [listens.running]
  simp [listens.heard]

/-- A reception that has ended stays as it is. -/
theorem follow_of_ended {reception : Reception} {reason : ReceptionEnd}
    (ended : reception.ended = some reason) (now : Nat) (incidents : List Incident) :
    follow now reception incidents = (reception, []) := by
  induction incidents generalizing now with
  | nil => rfl
  | cons incident rest ih =>
    cases incident with
    | sent bytes => simp [follow, receive, ended, ih]
    | elapsed seconds =>
      have still : reception.elapse (now + seconds) = (reception, []) := by
        rw [elapse]
        simp [ended]
      simp [follow, still, ih]
    | closed => simp [follow, close, ended, ih]

/-- Why a stream ended that left some bytes behind. -/
def endAfter (rest : Bytes) : ReceptionEnd :=
  if rest = [] then .closed else .unreadable (.stream "bytes remaining on stream")

private theorem endOf_of_incomplete {rest : Bytes} (incomplete : Frame.Incomplete rest) :
    endOf rest = endAfter rest := by
  unfold endOf Frame.nextAtEnd endAfter
  rw [Frame.next?_of_incomplete incomplete]
  cases rest <;> rfl

/-- Messages are what some bodies tell, mixed with signs of life, and none of them is fatal. The
last notice is, and it says why the stream ended, if it did. -/
structure Tells (filter : ClickFilter) (bodies : List Bytes) (ended : Option ReceptionEnd)
    (messages last : List Notice) : Prop where
  told : messages.filter (· ≠ silence) = bodies.filterMap (told? filter)
  alive : ∀ notice ∈ messages, notice.isFatal = false
  reason : last = (ended.map fun reason => Notice.fatal reason.message).toList
  fatal : ∀ notice ∈ last, notice.isFatal = true

def Forwards (filter : ClickFilter) (bodies : List Bytes) (ended : Option ReceptionEnd)
    (notices : List Notice) : Prop :=
  ∃ messages last, notices = messages ++ last ∧ Tells filter bodies ended messages last

theorem Tells.forwards {filter : ClickFilter} {bodies : List Bytes} {messages : List Notice}
    (tells : Tells filter bodies none messages []) : Forwards filter bodies none messages :=
  ⟨messages, [], (List.append_nil _).symm, tells⟩

private theorem Forwards.prepend {filter : ClickFilter} {bodies more : List Bytes}
    {ended : Option ReceptionEnd} {first notices : List Notice}
    (before : Forwards filter bodies none first) (after : Forwards filter more ended notices) :
    Forwards filter (bodies ++ more) ended (first ++ notices) := by
  obtain ⟨earlier, none, rfl, tells⟩ := before
  obtain ⟨later, last, rfl, further⟩ := after
  have nothing : none = [] := tells.reason
  subst nothing
  refine ⟨earlier ++ later, last, by simp, ?_, ?_, further.reason, further.fatal⟩
  · rw [List.filter_append, List.filterMap_append, tells.told, further.told]
  · intro notice member
    rcases List.mem_append.mp member with early | late
    · exact tells.alive notice early
    · exact further.alive notice late

private theorem forwards_told (filter : ClickFilter) (bodies : List Bytes) :
    Forwards filter bodies none (bodies.filterMap (told? filter)) := by
  have translated : ∀ notice ∈ bodies.filterMap (told? filter),
      ∃ event, Notice.ofEvent? filter event = some notice := by
    intro notice member
    obtain ⟨body, _, told⟩ := List.mem_filterMap.mp member
    exact told?_eq_some told
  refine Tells.forwards ⟨?_, ?_, rfl, nofun⟩
  · rw [List.filter_eq_self]
    intro notice member
    obtain ⟨event, told⟩ := translated notice member
    exact decide_eq_true (Notice.ne_silence_of_ofEvent? told)
  · intro notice member
    obtain ⟨event, told⟩ := translated notice member
    exact Notice.alive_of_ofEvent? told

private theorem forwards_silence (filter : ClickFilter) {signs : List Notice}
    (silent : ∀ notice ∈ signs, notice = silence) : Forwards filter [] none signs := by
  refine Tells.forwards ⟨?_, ?_, rfl, nofun⟩
  · rw [List.filterMap_nil, List.filter_eq_nil_iff]
    intro notice member
    simp [silent notice member]
  · intro notice member
    rw [silent notice member]
    rfl

private theorem forwards_end (filter : ClickFilter) (reason : ReceptionEnd) :
    Forwards filter [] (some reason) [Notice.fatal reason.message] := by
  refine ⟨[], _, rfl, rfl, nofun, rfl, ?_⟩
  intro notice member
  rw [List.mem_singleton.mp member]
  rfl

def endOfIncidents (incidents : List Incident) (rest : Bytes) : Option ReceptionEnd :=
  if Incident.closes incidents then some (endAfter rest) else none

private theorem follow_of_listens (incidents : List Incident) {reception : Reception}
    (listens : reception.Listens) (incomplete : Frame.Incomplete reception.incomplete) (now : Nat) :
    ∃ bodies rest, Frame.Splits (reception.incomplete ++ Incident.stream incidents) bodies rest ∧
      (follow now reception incidents).1.ended = endOfIncidents incidents rest ∧
      Forwards reception.filter bodies (endOfIncidents incidents rest)
        (follow now reception incidents).2 := by
  -- The induction carries the bytes of the frame that is not complete yet from one incident to the
  -- next, whether more bytes come or only time goes by.
  induction incidents generalizing reception now with
  | nil =>
    have nothing : Frame.Splits (reception.incomplete ++ []) [] reception.incomplete :=
      ⟨List.append_nil _, by simp, incomplete⟩
    exact ⟨[], reception.incomplete, nothing, listens.running, forwards_told reception.filter []⟩
  | cons incident incidents ih =>
    cases incident with
    | sent bytes =>
      obtain ⟨first, told⟩ := receive_of_listens now bytes listens
      have taken := Frame.splits_split (reception.incomplete ++ bytes)
      obtain ⟨bodies, rest, splits, ended, forwards⟩ :=
        ih first.listens (first.incomplete ▸ taken.incomplete) now
      rw [first.incomplete] at splits
      refine ⟨(Frame.split (reception.incomplete ++ bytes)).1 ++ bodies, rest, ?_, ended, ?_⟩
      · rw [Incident.stream, ← List.append_assoc]
        exact taken.extend splits
      · rw [first.filter] at forwards
        exact (told ▸ forwards_told reception.filter _).prepend forwards
    | elapsed seconds =>
      obtain ⟨first, silent⟩ := elapse_of_listens (now + seconds) listens
      obtain ⟨bodies, rest, splits, ended, forwards⟩ :=
        ih first.listens (first.incomplete ▸ incomplete) (now + seconds)
      rw [first.incomplete] at splits
      rw [first.filter] at forwards
      have signs : ∀ notice ∈ (reception.elapse (now + seconds)).2.map (·.2), notice = silence := by
        intro notice member
        obtain ⟨entry, within, rfl⟩ := List.mem_map.mp member
        exact silent entry within
      exact ⟨bodies, rest, splits, ended,
        (forwards_silence reception.filter signs).prepend forwards⟩
    | closed =>
      have whole : Frame.Splits (reception.incomplete ++ []) [] reception.incomplete :=
        ⟨List.append_nil _, by simp, incomplete⟩
      refine ⟨[], reception.incomplete, whole, ?_⟩
      unfold follow
      dsimp only
      rw [close_of_listens listens, follow_of_ended rfl, endOf_of_incomplete incomplete]
      exact ⟨rfl, forwards_end reception.filter _⟩

private theorem Forwards.without_silence {filter : ClickFilter} {bodies : List Bytes}
    {ended : Option ReceptionEnd} {notices : List Notice}
    (forwards : Forwards filter bodies ended notices) :
    notices.filter (· ≠ silence) = bodies.filterMap (told? filter) ++
      (ended.map fun reason => Notice.fatal reason.message).toList := by
  obtain ⟨messages, last, rfl, tells⟩ := forwards
  have kept : last.filter (· ≠ silence) = last := by
    rw [List.filter_eq_self]
    intro notice member
    refine decide_eq_true ?_
    rintro rfl
    exact nomatch tells.fatal _ member
  rw [List.filter_append, tells.told, kept, tells.reason]

theorem follow_start (filter : ClickFilter) {incidents : List Incident} {bodies : List Bytes}
    {rest : Bytes} (splits : Frame.Splits (Incident.stream incidents) bodies rest)
    (now timeout : Nat) (positive : 0 < timeout) :
    (follow now (start filter now timeout positive) incidents).1.ended =
        endOfIncidents incidents rest ∧
      Forwards filter bodies (endOfIncidents incidents rest)
        (follow now (start filter now timeout positive) incidents).2 := by
  have listens : (start filter now timeout positive).Listens := ⟨rfl, rfl⟩
  obtain ⟨same, sameRest, other, outcome⟩ :=
    follow_of_listens incidents listens (Frame.incomplete_of_next?_eq_none rfl) now
  obtain ⟨rfl, rfl⟩ := Prod.mk.inj
    ((Frame.split_eq_iff.mpr other).symm.trans (Frame.split_eq_iff.mpr splits))
  exact outcome

/-- The notices that a reception hands over, apart from the signs of life, are what the complete
frames of the stream tell, in their order, if anything: an empty one tells nothing. Where the stream
closes, and only there, one last notice is fatal, and it says whether an incomplete frame was left.
So neither the pieces in which the bytes come nor the pauses between them make a difference. -/
theorem reception_depends_on_stream_only (filter : ClickFilter) (incidents : List Incident) :
    told? filter [] = none ∧ ∃ bodies rest, Frame.Splits (Incident.stream incidents) bodies rest ∧
      (∀ otherBodies otherRest, Frame.Splits (Incident.stream incidents) otherBodies otherRest →
        otherBodies = bodies ∧ otherRest = rest) ∧
      (∀ now timeout (positive : 0 < timeout),
        (follow now (start filter now timeout positive) incidents).1.ended =
            endOfIncidents incidents rest ∧
          Forwards filter bodies (endOfIncidents incidents rest)
            (follow now (start filter now timeout positive) incidents).2) ∧
      ∀ others, Incident.stream others = Incident.stream incidents →
        Incident.closes others = Incident.closes incidents →
        ∀ now timeout (positive : 0 < timeout) otherNow otherTimeout
          (otherPositive : 0 < otherTimeout),
          (follow otherNow (start filter otherNow otherTimeout otherPositive) others).1.ended =
              (follow now (start filter now timeout positive) incidents).1.ended ∧
            (follow otherNow (start filter otherNow otherTimeout otherPositive) others).2.filter
                (· ≠ silence) =
              (follow now (start filter now timeout positive) incidents).2.filter
                (· ≠ silence) := by
  obtain ⟨bodies, rest, splits⟩ : ∃ bodies rest,
      Frame.Splits (Incident.stream incidents) bodies rest :=
    ⟨_, _, Frame.splits_split (Incident.stream incidents)⟩
  refine ⟨told?_nil filter, bodies, rest, splits, ?_, follow_start filter splits, ?_⟩
  · intro otherBodies otherRest otherSplits
    exact Prod.mk.inj ((Frame.split_eq_iff.mpr otherSplits).symm.trans
      (Frame.split_eq_iff.mpr splits))
  · intro others sameStream sameEnd now timeout positive otherNow otherTimeout otherPositive
    have otherSplits : Frame.Splits (Incident.stream others) bodies rest := by
      rw [sameStream]
      exact splits
    have sameReason : endOfIncidents others rest = endOfIncidents incidents rest := by
      rw [endOfIncidents, sameEnd, endOfIncidents]
    obtain ⟨ended, forwards⟩ := follow_start filter splits now timeout positive
    obtain ⟨otherEnded, otherForwards⟩ :=
      follow_start filter otherSplits otherNow otherTimeout otherPositive
    rw [otherEnded, otherForwards.without_silence, ended, forwards.without_silence, sameReason]
    exact ⟨rfl, rfl⟩

end Reception

end ButtonGateway
