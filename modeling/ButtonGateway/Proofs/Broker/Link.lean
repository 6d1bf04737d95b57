import Mathlib.Data.List.DropRight
import Mathlib.Data.List.Induction
import ButtonGateway.Broker.Link

namespace ButtonGateway.Broker

/-- Takes a link down, however few publications wait. -/
def LinkEvent.isFailure : LinkEvent → Bool
  | .attempt | .connectFailed | .sendFailed | .connectionLost => true
  | .send | .connected | .sendComplete => false

namespace Link

/-- What happened since the last connection, or since the beginning if there was none. -/
def recent (history : List LinkEvent) : List LinkEvent := history.rtakeWhile (· != .connected)

/-- How many more publications were handed over than were acknowledged since the last connection. -/
def waiting (history : List LinkEvent) : Int :=
  (recent history).count .send - (recent history).count .sendComplete

/-- Since some connection nothing failed, and never did more publications wait than may. -/
def Sustained (limit : Int) (history : List LinkEvent) : Prop :=
  ∃ front back, history = front ++ .connected :: back ∧ (∀ event ∈ back, event.isFailure = false) ∧
    ∀ part, part <+: back → waiting (front ++ .connected :: part) ≤ limit

private theorem waiting_connected (history : List LinkEvent) :
    waiting (history ++ [.connected]) = 0 := by
  have fresh : recent (history ++ [.connected]) = [] :=
    List.rtakeWhile_concat_neg _ _ _ (by decide)
  rw [waiting, fresh]
  rfl

private theorem waiting_concat (history : List LinkEvent) {event : LinkEvent}
    (kept : event ≠ .connected) :
    waiting (history ++ [event]) =
      waiting history + [event].count .send - [event].count .sendComplete := by
  have more : recent (history ++ [event]) = recent history ++ [event] :=
    List.rtakeWhile_concat_pos _ _ _ (bne_iff_ne.mpr kept)
  rw [waiting, waiting, more, List.count_append, List.count_append]
  omega

private theorem waiting_bounded (history : List LinkEvent) :
    (waiting history).natAbs ≤ history.length := by
  have part : (recent history).length ≤ history.length :=
    (List.rtakeWhile_suffix _ history).length_le
  have sends : (recent history).count .send ≤ (recent history).length := List.count_le_length
  have acknowledgements : (recent history).count .sendComplete ≤ (recent history).length :=
    List.count_le_length
  unfold waiting
  omega

private theorem afterAll_concat (link : Link) (history : List LinkEvent) (event : LinkEvent) :
    link.afterAll (history ++ [event]) = (link.afterAll history).after event :=
  List.foldl_concat after link event history

theorem afterAll_append (link : Link) (first second : List LinkEvent) :
    link.afterAll (first ++ second) = (link.afterAll first).afterAll second :=
  List.foldl_append

private theorem limit_after (link : Link) (event : LinkEvent) :
    (link.after event).limit = link.limit := by
  cases event <;> rfl

private theorem limit_afterAll (link : Link) (history : List LinkEvent) :
    (link.afterAll history).limit = link.limit := by
  induction history generalizing link with
  | nil => rfl
  | cons event rest ih => exact (ih (link.after event)).trans (limit_after link event)

private theorem outstanding_after (link : Link) {event : LinkEvent} (kept : event ≠ .connected) :
    (link.after event).outstanding =
      link.outstanding + [event].count .send - [event].count .sendComplete := by
  cases event with
  | connected => exact absurd rfl kept
  | send | sendComplete => simp [after, count]
  | attempt | connectFailed | sendFailed | connectionLost => simp [after]

theorem outstanding_afterAll (limit : Int) (history : List LinkEvent) :
    ((start limit).afterAll history).outstanding = waiting history := by
  induction history using List.reverseRecOn with
  | nil => rfl
  | append_singleton history event ih =>
    rw [afterAll_concat]
    by_cases fresh : event = .connected
    · rw [fresh, waiting_connected]
      rfl
    · rw [outstanding_after _ fresh, ih, waiting_concat history fresh]

private theorem up_after_iff (link : Link) (event : LinkEvent) :
    (link.after event).up = true ↔ event = .connected ∨
      link.up = true ∧ event.isFailure = false ∧ (link.after event).outstanding ≤ link.limit := by
  cases event <;> simp [after, count, LinkEvent.isFailure]

private theorem sustained_connected {limit : Int} (room : 0 ≤ limit) (history : List LinkEvent) :
    Sustained limit (history ++ [.connected]) := by
  refine ⟨history, [], rfl, nofun, ?_⟩
  intro part none
  rw [List.prefix_nil.mp none, waiting_connected]
  exact room

theorem Sustained.concat {limit : Int} {history : List LinkEvent} {event : LinkEvent}
    (sustained : Sustained limit history) (harmless : event.isFailure = false)
    (fits : waiting (history ++ [event]) ≤ limit) : Sustained limit (history ++ [event]) := by
  obtain ⟨front, back, rfl, spared, few⟩ := sustained
  refine ⟨front, back ++ [event], by simp, ?_, ?_⟩
  · intro other member
    rcases List.mem_append.mp member with earlier | last
    · exact spared other earlier
    · rwa [List.mem_singleton.mp last]
  · intro part shorter
    rcases List.prefix_concat_iff.mp shorter with rfl | earlier
    · simpa using fits
    · exact few part earlier

private theorem Sustained.of_concat {limit : Int} {history : List LinkEvent} {event : LinkEvent}
    (sustained : Sustained limit (history ++ [event])) : event = .connected ∨
      Sustained limit history ∧ event.isFailure = false ∧ waiting (history ++ [event]) ≤ limit := by
  obtain ⟨front, back, split, spared, few⟩ := sustained
  -- The connection in question is the last event, or it came before that.
  rcases List.eq_nil_or_concat back with rfl | ⟨middle, last, rfl⟩
  · exact .inl (List.singleton_inj.mp (List.append_inj' split rfl).2)
  · rw [List.concat_eq_append] at split spared few
    have whole : history ++ [event] = front ++ .connected :: middle ++ [last] := by
      simpa using split
    obtain ⟨rfl, same⟩ := List.append_inj' whole rfl
    obtain rfl := List.singleton_inj.mp same
    refine .inr ⟨⟨front, middle, rfl, ?_, ?_⟩, spared event List.mem_concat_self, ?_⟩
    · intro other member
      exact spared other (List.mem_append_left _ member)
    · intro part shorter
      exact few part (shorter.trans (List.prefix_append middle [event]))
    · rw [split]
      exact few _ (List.prefix_refl _)

private theorem sustained_concat_iff {limit : Int} (room : 0 ≤ limit) {history : List LinkEvent}
    {event : LinkEvent} :
    Sustained limit (history ++ [event]) ↔ event = .connected ∨
      Sustained limit history ∧ event.isFailure = false ∧ waiting (history ++ [event]) ≤ limit := by
  constructor
  · exact Sustained.of_concat
  · rintro (rfl | ⟨sustained, harmless, fits⟩)
    · exact sustained_connected room history
    · exact sustained.concat harmless fits

private theorem up_afterAll_iff {limit : Int} (room : 0 ≤ limit) (history : List LinkEvent) :
    ((start limit).afterAll history).up = true ↔ Sustained limit history := by
  induction history using List.reverseRecOn with
  | nil => simp [afterAll, start, Sustained]
  | append_singleton history event ih =>
    rw [sustained_concat_iff room, ← outstanding_afterAll limit, afterAll_concat, up_after_iff, ih,
      limit_afterAll]
    rfl

/-- Only a new connection brings a link up. -/
theorem down_afterAll {link : Link} (down : link.up = false) {later : List LinkEvent}
    (unconnected : .connected ∉ later) : (link.afterAll later).up = false := by
  induction later generalizing link with
  | nil => exact down
  | cons event rest ih =>
    obtain ⟨here, there⟩ := not_or.mp (List.mem_cons.not.mp unconnected)
    have still : (link.after event).up = false := by
      rw [← Bool.not_eq_true, up_after_iff]
      rintro (rfl | ⟨up, -, -⟩)
      · exact here rfl
      · cases down.symm.trans up
    exact ih still there

theorem waiting_le_of_up {limit : Int} (room : 0 ≤ limit) {history : List LinkEvent}
    (up : ((start limit).afterAll history).up = true) : waiting history ≤ limit := by
  obtain ⟨front, back, rfl, -, few⟩ := (up_afterAll_iff room history).mp up
  exact few back (List.prefix_refl back)

/-- A link counts what was handed over and not acknowledged since the last connection, never farther
from zero than its history is long. It is up exactly if since some connection nothing failed and the
count has stayed within the limit. So while it is up no more wait than may; and once more do, it
stays down until the next connection, whatever is acknowledged. -/
theorem link_is_told_by_history {limit : Int} (room : 0 ≤ limit) (history : List LinkEvent) :
    ((start limit).afterAll history).outstanding = waiting history ∧
      (waiting history).natAbs ≤ history.length ∧
      (((start limit).afterAll history).up = true ↔
        ∃ front back, history = front ++ .connected :: back ∧
          (∀ event ∈ back, event ≠ .connectFailed ∧ event ≠ .sendFailed ∧
            event ≠ .connectionLost ∧ event ≠ .attempt) ∧
          ∀ part, part <+: back → waiting (front ++ .connected :: part) ≤ limit) ∧
      (((start limit).afterAll history).up = true →
        ((start limit).afterAll history).outstanding ≤ limit) ∧
      (limit < ((start limit).afterAll history).outstanding → ∀ later, .connected ∉ later →
        ((start limit).afterAll (history ++ later)).up = false) := by
  have counted := outstanding_afterAll limit history
  refine ⟨counted, waiting_bounded history, ?_, ?_, ?_⟩
  · have spared (event : LinkEvent) : event.isFailure = false ↔ event ≠ .connectFailed ∧
        event ≠ .sendFailed ∧ event ≠ .connectionLost ∧ event ≠ .attempt := by
      cases event <;> decide
    simp only [up_afterAll_iff room, Sustained, spared]
  · intro up
    rw [counted]
    exact waiting_le_of_up room up
  · intro tripped later unconnected
    rw [counted] at tripped
    rw [afterAll_append]
    refine down_afterAll ?_ unconnected
    rw [← Bool.not_eq_true]
    intro up
    exact absurd (waiting_le_of_up room up) (Int.not_le.mpr tripped)

/-- With room for one, a second publication takes the link down, and two acknowledgements do not
bring it up again. -/
theorem second_publication_takes_link_down :
    (0 : Int) ≤ 1 ∧ ((start 1).afterAll [.send, .connected, .send]).outstanding = 1 ∧
      1 < ((start 1).afterAll [.send, .connected, .send, .send]).outstanding ∧
      .connected ∉ [LinkEvent.sendComplete, .sendComplete] ∧
      ((start 1).afterAll ([.send, .connected, .send, .send] ++
        [.sendComplete, .sendComplete])).up = false := by
  have room : (0 : Int) ≤ 1 := by decide
  have tripped : 1 < ((start 1).afterAll [.send, .connected, .send, .send]).outstanding := by decide
  have unconnected : .connected ∉ [LinkEvent.sendComplete, .sendComplete] := by decide
  obtain ⟨counted, -⟩ := link_is_told_by_history room [.send, .connected, .send]
  obtain ⟨-, -, -, -, down⟩ := link_is_told_by_history room [.send, .connected, .send, .send]
  exact ⟨room, counted.trans (by decide), tripped, unconnected, down tripped _ unconnected⟩

end Link

end ButtonGateway.Broker
