import Mathlib.Data.List.Nodup
import ButtonGateway.Broker.Client
import ButtonGateway.Proofs.Broker.Link
/-!
Publications told apart: each has a number, and each acknowledgement is for one of them. A new
connection makes the link count anew, so what was handed over before is not counted from then on.
-/
namespace ButtonGateway.Broker

/-- What passes between a client and its broker. The publications are numbered from zero in the
order in which they are handed over. -/
inductive Exchange where
  | handed
  | accepted
  | acknowledged (number : Nat)
  deriving DecidableEq, Repr

namespace Exchange

def event : Exchange → LinkEvent
  | .handed => .send
  | .accepted => .connected
  | .acknowledged _ => .sendComplete

def number? : Exchange → Option Nat
  | .acknowledged number => some number
  | .handed | .accepted => none

def handedOver (run : List Exchange) : Nat := run.count .handed

def acknowledgements (run : List Exchange) : List Nat := run.filterMap number?

/-- Each acknowledgement is for a publication that was handed over before and not acknowledged
before. -/
def Sound (run : List Exchange) : Prop :=
  ∀ front number back, run = front ++ .acknowledged number :: back →
    number < handedOver front ∧ number ∉ acknowledgements front

/-- The publications from a given one on that were handed over and not acknowledged. -/
def unacknowledged (first : Nat) (run : List Exchange) : List Nat :=
  (List.range' first (handedOver run - first)).filter fun number => number ∉ acknowledgements run

def link (limit : Int) (run : List Exchange) : Link :=
  (Link.start limit).afterAll (run.map event)

@[simp] theorem handedOver_append (front back : List Exchange) :
    handedOver (front ++ back) = handedOver front + handedOver back := List.count_append

@[simp] theorem acknowledgements_append (front back : List Exchange) :
    acknowledgements (front ++ back) = acknowledgements front ++ acknowledgements back :=
  List.filterMap_append

variable {run front back : List Exchange}

theorem sound_of_unacknowledged (silent : acknowledgements run = []) : Sound run := by
  intro earlier number later split
  rw [split, acknowledgements_append] at silent
  cases (List.append_eq_nil_iff.mp silent).2

theorem Sound.concat (sound : Sound run) {exchange : Exchange}
    (proper : ∀ number ∈ exchange.number?,
      number < handedOver run ∧ number ∉ acknowledgements run) : Sound (run ++ [exchange]) := by
  intro earlier number later split
  rcases List.eq_nil_or_concat later with rfl | ⟨middle, last, rfl⟩
  · obtain ⟨rfl, same⟩ := List.append_inj' split rfl
    rw [List.singleton_inj.mp same] at proper
    exact proper number rfl
  · have whole : run ++ [exchange] = (earlier ++ .acknowledged number :: middle) ++ [last] := by
      simpa using split
    exact sound earlier number middle (List.append_inj' whole rfl).1

theorem Sound.left (sound : Sound (front ++ back)) : Sound front := by
  intro earlier number later split
  exact sound earlier number (later ++ back) (by simp [split])

private theorem Sound.lt_handedOver (sound : Sound run) {number : Nat}
    (member : number ∈ acknowledgements run) : number < handedOver run := by
  induction run using List.reverseRecOn with
  | nil => cases member
  | append_singleton run exchange ih =>
    rw [acknowledgements_append, List.mem_append] at member
    rw [handedOver_append]
    rcases member with earlier | last
    · exact Nat.lt_add_right _ (ih sound.left earlier)
    · cases exchange with
      | acknowledged other =>
        obtain rfl := List.mem_singleton.mp last
        exact Nat.lt_add_right _ (sound run number [] rfl).1
      | handed | accepted => cases last

private theorem Sound.nodup_acknowledgements (sound : Sound run) :
    (acknowledgements run).Nodup := by
  induction run using List.reverseRecOn with
  | nil => exact List.nodup_nil
  | append_singleton run exchange ih =>
    rw [acknowledgements_append]
    cases exchange with
    | handed | accepted => exact (List.append_nil _).symm ▸ ih sound.left
    | acknowledged number =>
      have fresh := (sound run number [] rfl).2
      exact List.concat_eq_append ▸ List.Nodup.concat fresh (ih sound.left)

/-- What was handed over since a publication is acknowledged or not. -/
theorem length_unacknowledged (sound : Sound (front ++ back))
    (own : ∀ number ∈ acknowledgements back, handedOver front ≤ number) :
    (unacknowledged (handedOver front) (front ++ back)).length + (acknowledgements back).length =
      handedOver back := by
  have counts : handedOver (front ++ back) - handedOver front = handedOver back := by simp
  have distinct : (acknowledgements back).Nodup := by
    have whole := sound.nodup_acknowledgements
    rw [acknowledgements_append] at whole
    exact (List.nodup_append.mp whole).2.1
  -- Of what was handed over since then, what was acknowledged at all was acknowledged since then.
  have since : ((List.range' (handedOver front) (handedOver back)).filter fun number =>
      ! decide (number ∉ acknowledgements (front ++ back))).Perm (acknowledgements back) := by
    rw [List.perm_ext_iff_of_nodup ((List.nodup_range' ..).filter _) distinct]
    intro number
    rw [List.mem_filter, List.mem_range'_1]
    simp only [acknowledgements_append, decide_not, Bool.not_not, decide_eq_true_eq,
      List.mem_append]
    constructor
    · rintro ⟨⟨late, _⟩, early | member⟩
      · exact absurd (sound.left.lt_handedOver early) (Nat.not_lt.mpr late)
      · exact member
    · intro member
      have bound : number < handedOver (front ++ back) :=
        sound.lt_handedOver (by simp [member])
      rw [handedOver_append] at bound
      exact ⟨⟨own number member, bound⟩, .inr member⟩
  rw [← since.length_eq, unacknowledged, counts, ← List.length_eq_length_filter_add,
    List.length_range']

private theorem count_send (run : List Exchange) :
    (run.map event).count .send = handedOver run := by
  induction run with
  | nil => rfl
  | cons exchange rest ih => cases exchange <;> simpa [event, handedOver] using ih

private theorem count_sendComplete (run : List Exchange) :
    (run.map event).count .sendComplete = (acknowledgements run).length := by
  induction run with
  | nil => rfl
  | cons exchange rest ih =>
    cases exchange <;> simpa [event, acknowledgements, number?, List.filterMap_cons] using ih

private theorem recent_map (fresh : front = [] ∨ ∃ earlier, front = earlier ++ [.accepted])
    (last : .accepted ∉ back) : Link.recent ((front ++ back).map event) = back.map event := by
  have kept : ∀ happened ∈ (back.map event).reverse, (happened != LinkEvent.connected) = true := by
    intro happened member
    obtain ⟨exchange, within, rfl⟩ := List.mem_map.mp (List.mem_reverse.mp member)
    cases exchange with
    | accepted => exact absurd within last
    | handed | acknowledged => rfl
  have stops : ((front.map event).reverse.takeWhile (· != LinkEvent.connected)) = [] := by
    rcases fresh with rfl | ⟨earlier, rfl⟩ <;> simp [event]
  rw [Link.recent, List.rtakeWhile, List.map_append, List.reverse_append,
    List.takeWhile_append_of_pos kept, stops, List.append_nil, List.reverse_reverse]

private theorem outstanding_link (limit : Int)
    (fresh : front = [] ∨ ∃ earlier, front = earlier ++ [.accepted]) (last : .accepted ∉ back) :
    (link limit (front ++ back)).outstanding =
      handedOver back - ((acknowledgements back).length : Int) := by
  rw [link, Link.outstanding_afterAll, Link.waiting, recent_map fresh last, count_send,
    count_sendComplete]

/-- A link counts what its last connection left open. Where everything that was acknowledged since
the broker accepted it had been handed over since then, the link counts exactly the publications
that were handed over since then and are not acknowledged; so the count is never negative, and while
the link is up no more of them wait than may. -/
theorem count_tells_what_connection_left_open {limit : Int} (room : 0 ≤ limit)
    (sound : Sound (front ++ back))
    (fresh : front = [] ∨ ∃ earlier, front = earlier ++ [.accepted]) (last : .accepted ∉ back)
    (own : ∀ number ∈ acknowledgements back, handedOver front ≤ number) :
    (link limit (front ++ back)).outstanding =
        (unacknowledged (handedOver front) (front ++ back)).length ∧
      0 ≤ (link limit (front ++ back)).outstanding ∧
      ((link limit (front ++ back)).up = true →
        ((unacknowledged (handedOver front) (front ++ back)).length : Int) ≤ limit) := by
  have counted : (link limit (front ++ back)).outstanding =
      (unacknowledged (handedOver front) (front ++ back)).length := by
    have lengths := length_unacknowledged sound own
    rw [outstanding_link limit fresh last]
    omega
  refine ⟨counted, ?_, ?_⟩
  · rw [counted]
    exact Int.natCast_nonneg _
  · intro up
    have few := Link.waiting_le_of_up room up
    rwa [← Link.outstanding_afterAll limit, ← link, counted] at few

/-- Of two publications after a connection one is acknowledged, and one waits. A publication from
before it is not counted. -/
theorem one_of_two_publications_waits :
    (0 : Int) ≤ 16 ∧
      Sound ([.handed, .accepted] ++ [.handed, .handed, .acknowledged 2]) ∧
      .accepted ∉ [Exchange.handed, .handed, .acknowledged 2] ∧
      (∀ number ∈ acknowledgements [.handed, .handed, .acknowledged 2],
        handedOver [.handed, .accepted] ≤ number) ∧
      (link 16 ([.handed, .accepted] ++ [.handed, .handed, .acknowledged 2])).up = true ∧
      (link 16 ([.handed, .accepted] ++ [.handed, .handed, .acknowledged 2])).outstanding = 1 ∧
      unacknowledged 1 ([.handed, .accepted] ++ [.handed, .handed, .acknowledged 2]) = [1] := by
  have room : (0 : Int) ≤ 16 := by decide
  have handed : Sound [.handed, .accepted, .handed, .handed] := sound_of_unacknowledged rfl
  have sound : Sound ([.handed, .accepted] ++ [.handed, .handed, .acknowledged 2]) :=
    handed.concat (by decide)
  have counted := count_tells_what_connection_left_open room sound
    (.inr ⟨[.handed], rfl⟩) (by decide) (by decide)
  exact ⟨room, sound, by decide, by decide, by decide, counted.1, by decide⟩

/-- The count does not tell all that was handed over and is not acknowledged, because the
publications from before the connection are missing in it: if one of them is acknowledged, the count
goes below zero, and the link can be up although more of them wait than may. -/
theorem early_publications_are_not_counted :
    (¬ ∀ (limit : Int), 0 ≤ limit → ∀ run, Sound run → 0 ≤ (link limit run).outstanding) ∧
      ¬ ∀ (limit : Int), 0 ≤ limit → ∀ run, Sound run → (link limit run).up = true →
        ((unacknowledged 0 run).length : Int) ≤ limit := by
  constructor
  · intro claim
    have sound : Sound ([.handed, .accepted] ++ [.acknowledged 0]) :=
      (sound_of_unacknowledged rfl).concat (by decide)
    have counted := claim 16 (by decide) _ sound
    revert counted
    decide
  · intro claim
    have sound : Sound (List.replicate 17 .handed ++ [.accepted]) := sound_of_unacknowledged rfl
    have few := claim 16 (by decide) _ sound (by decide)
    revert few
    decide

end Exchange

/-- A client comes to it that takes a publication while it waits for the answer of the broker. -/
example :
    let account : Account := ⟨⟨"localhost", 1883⟩, "gateway", 20000, 5000, 1000, 16, 64⟩
    let pending := (Client.start account ⟨"LWT", Vector.replicate slotCount none⟩).connect .silent
    let connected := (pending.publish ⟨"a", false, ""⟩).hear .accepted
    (connected.flush.1.hear .acknowledged).link.outstanding = -1 := by
  decide

end ButtonGateway.Broker
