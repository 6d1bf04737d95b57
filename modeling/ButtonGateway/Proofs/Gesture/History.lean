import Mathlib.Data.List.Induction
import ButtonGateway.Proofs.Gesture.Holding

namespace ButtonGateway

open Daemon (Click)

namespace GestureTracker

inductive Call where
  | apply (slot : UInt8) (made : Click)
  | cancelHold (slot : UInt8)
  deriving DecidableEq, Repr

inductive Reply where
  | gesture (told : Option Gesture)
  | cancelled (held : Bool)
  deriving DecidableEq, Repr

/-- A hold is told by the click that resolves it or by its cancellation. -/
def Reply.tellsHold : Reply → Bool
  | .gesture (some .hold) | .gesture (some .clickHold) | .cancelled true => true
  | .gesture _ | .cancelled false => false

def answer (tracker : GestureTracker) : Call → GestureTracker × Reply
  | .apply slot made =>
    let outcome := tracker.apply slot made
    (outcome.1, .gesture outcome.2)
  | .cancelHold slot =>
    let outcome := tracker.cancelHold slot
    (outcome.1, .cancelled outcome.2)

def answerAll (tracker : GestureTracker) : List Call → GestureTracker × List (Call × Reply)
  | [] => (tracker, [])
  | call :: rest =>
    let first := tracker.answer call
    let others := first.1.answerAll rest
    (others.1, (call, first.2) :: others.2)

namespace Call

def slot : Call → UInt8
  | .apply slot _ => slot
  | .cancelHold slot => slot

/-- Whether a hold is pending is decided by every call but a release and a plain click. -/
def decides : Call → Bool
  | .apply _ .up | .apply _ .click => false
  | .apply _ _ | .cancelHold _ => true

/-- The gesture that a click is, by whether a hold is pending. -/
def gesture? (held : Bool) : Click → Option Gesture
  | .down => some .stateOn
  | .up => some .stateOff
  | .hold | .click => none
  | .singleClick => some (if held then .hold else .click)
  | .doubleClick => some (if held then .clickHold else .clickClick)

/-- The reply to a call, by whether a hold is pending on its slot. There are eight slots. -/
def reply (held : Bool) : Call → Reply
  | .apply slot made => .gesture (if slot < 8 then gesture? held made else none)
  | .cancelHold slot => .cancelled (if slot < 8 then held else false)

end Call

/-- A hold is pending: the last call on a slot that decides about it was a hold. -/
def pending (slot : UInt8) (history : List Call) : Bool :=
  (history.filter fun call => call.slot = slot ∧ call.decides).getLast? = some (.apply slot .hold)

theorem pending_concat (slot : UInt8) (history : List Call) (call : Call) :
    pending slot (history ++ [call]) =
      if call.slot = slot ∧ call.decides then decide (call = .apply slot .hold)
      else pending slot history := by
  unfold pending
  rw [List.filter_append]
  by_cases counts : call.slot = slot ∧ call.decides
  · rw [if_pos counts]
    simp [counts]
  · rw [if_neg counts]
    simp [counts]

private theorem answerAll_append (tracker : GestureTracker) (first second : List Call) :
    tracker.answerAll (first ++ second) =
      (((tracker.answerAll first).1.answerAll second).1,
        (tracker.answerAll first).2 ++ ((tracker.answerAll first).1.answerAll second).2) := by
  induction first generalizing tracker with
  | nil => rfl
  | cons call rest ih =>
    rw [List.cons_append, answerAll, ih]
    rfl

theorem answerAll_concat (tracker : GestureTracker) (calls : List Call) (call : Call) :
    tracker.answerAll (calls ++ [call]) =
      (((tracker.answerAll calls).1.answer call).1,
        (tracker.answerAll calls).2 ++ [(call, ((tracker.answerAll calls).1.answer call).2)]) :=
  answerAll_append tracker calls [call]

private theorem map_fst_answerAll (tracker : GestureTracker) (calls : List Call) :
    (tracker.answerAll calls).2.map Prod.fst = calls := by
  induction calls generalizing tracker with
  | nil => rfl
  | cons call rest ih => exact congrArg (call :: ·) (ih (tracker.answer call).1)

theorem holding_answer (tracker : GestureTracker) (call : Call) (slot : Slot) :
    (tracker.answer call).1.holding.get slot =
      if call.slot = slot.byte ∧ call.decides then decide (call = .apply slot.byte .hold)
      else tracker.holding.get slot := by
  cases call with
  | cancelHold number =>
    simp only [answer, holding_cancelHold, ← Slot.eq_byte_iff]
    simp [Call.slot, Call.decides]
  | apply number made =>
    simp only [answer, holding_apply, ← Slot.eq_byte_iff]
    by_cases same : number = slot.byte
    · cases made <;> simp [Call.slot, Call.decides, heldAfter, same]
    · simp [Call.slot, same]

/-- A tracker holds a slot exactly while a hold is pending on it. -/
theorem holding_answerAll (history : List Call) (slot : Slot) :
    (start.answerAll history).1.holding.get slot = pending slot.byte history := by
  induction history using List.reverseRecOn with
  | nil => exact Vector.getElem_replicate slot.isLt
  | append_singleton history call ih =>
    rw [answerAll_concat, holding_answer, ih, pending_concat]

/-- A call on one of the eight slots is answered by the hold of that slot. -/
theorem answer_own (tracker : GestureTracker) {call : Call} {slot : Slot}
    (own : call.slot = slot.byte) (inside : call.slot < 8) :
    (tracker.answer call).2 = call.reply (tracker.holding.get slot) := by
  cases call with
  | cancelHold number =>
    obtain rfl : number = slot.byte := own
    have inside : slot.byte < 8 := inside
    simp only [answer, cancelHold, Slot.ofNat?_byte, Call.reply, if_pos inside]
    cases tracker.holding.get slot <;> rfl
  | apply number made =>
    obtain rfl : number = slot.byte := own
    have inside : slot.byte < 8 := inside
    simp only [answer, apply, Slot.ofNat?_byte, Call.reply, if_pos inside]
    cases made <;> rfl

theorem answer_beyond (tracker : GestureTracker) {call : Call} (held : Bool)
    (missing : Slot.ofNat? call.slot.toNat = none) (beyond : ¬ call.slot < 8) :
    tracker.answer call = (tracker, call.reply held) := by
  cases call with
  | cancelHold number =>
    have missing : Slot.ofNat? number.toNat = none := missing
    have beyond : ¬ number < 8 := beyond
    simp only [answer, cancelHold, missing, Call.reply, if_neg beyond]
  | apply number made =>
    have missing : Slot.ofNat? number.toNat = none := missing
    have beyond : ¬ number < 8 := beyond
    simp only [answer, apply, missing, Call.reply, if_neg beyond]

theorem answer_of_history (history : List Call) (call : Call) :
    ((start.answerAll history).1.answer call).2 = call.reply (pending call.slot history) := by
  obtain ⟨slot, own, inside⟩ | ⟨missing, beyond⟩ := Slot.byte_or_beyond call.slot
  · rw [answer_own _ own inside, holding_answerAll, own]
  · rw [answer_beyond _ (pending call.slot history) missing beyond]

private theorem pending_filter (slot : UInt8) (history : List Call) :
    pending slot (history.filter fun call => call.slot = slot) = pending slot history := by
  unfold pending
  rw [List.filter_filter]
  congr 3
  exact List.filter_congr fun call _ => by
    by_cases own : call.slot = slot <;> simp [own]

private theorem answerAll_filter (slot : UInt8) (calls : List Call) :
    ((start.answerAll calls).2.filter fun entry => entry.1.slot = slot) =
      (start.answerAll (calls.filter fun call => call.slot = slot)).2 := by
  induction calls using List.reverseRecOn with
  | nil => rfl
  | append_singleton calls call ih =>
    rw [answerAll_concat, List.filter_append, ih, List.filter_append]
    by_cases own : call.slot = slot
    · have kept : [call].filter (fun call => call.slot = slot) = [call] :=
        List.filter_cons_of_pos (decide_eq_true own)
      -- Both runs answer the call by the hold that is pending on its slot.
      rw [kept, answerAll_concat, answer_of_history, answer_of_history, own, pending_filter]
      exact congrArg _ (List.filter_cons_of_pos (decide_eq_true own))
    · have dropped : [call].filter (fun call => call.slot = slot) = [] :=
        List.filter_cons_of_neg (by simpa using own)
      rw [dropped, List.append_nil]
      exact List.append_right_eq_self.mpr (List.filter_cons_of_neg (by simpa using own))

/-- The entry of a call in a run is what the calls before it make of it. -/
theorem entry_of_history {calls : List Call} {front back : List (Call × Reply)}
    {entry : Call × Reply} (run : (start.answerAll calls).2 = front ++ entry :: back) :
    entry.2 = entry.1.reply (pending entry.1.slot (front.map Prod.fst)) := by
  have made : calls = front.map Prod.fst ++ entry.1 :: back.map Prod.fst := by
    rw [← map_fst_answerAll start calls, run, List.map_append, List.map_cons]
  rw [made, answerAll_append] at run
  have size : (start.answerAll (front.map Prod.fst)).2.length = front.length := by
    rw [← List.length_map (f := Prod.fst), map_fst_answerAll, List.length_map]
  have here := (List.cons.inj (List.append_inj run size).2).1
  rw [← answer_of_history]
  exact (congrArg Prod.snd here).symm

private theorem held_of_tellsHold {held : Bool} {call : Call}
    (told : (call.reply held).tellsHold = true) :
    held = true ∧ call.decides = true ∧ ∀ slot, call ≠ .apply slot .hold := by
  cases call with
  | cancelHold number =>
    by_cases inside : number < 8
    · rw [Call.reply, if_pos inside] at told
      cases held with
      | false => cases told
      | true => exact ⟨rfl, rfl, nofun⟩
    · rw [Call.reply, if_neg inside] at told
      cases told
  | apply number made =>
    by_cases inside : number < 8
    · rw [Call.reply, if_pos inside] at told
      cases made with
      | singleClick | doubleClick =>
        cases held with
        | false => cases told
        | true => exact ⟨rfl, rfl, nofun⟩
      | down | up | hold | click => cases told
    · rw [Call.reply, if_neg inside] at told
      cases told

private theorem pending_concat_of_tellsHold {held : Bool} {call : Call} (history : List Call)
    (told : (call.reply held).tellsHold = true) :
    pending call.slot (history ++ [call]) = false := by
  obtain ⟨-, decides, noHold⟩ := held_of_tellsHold told
  rw [pending_concat, if_pos ⟨rfl, decides⟩]
  exact decide_eq_false (noHold call.slot)

/-- Only a hold makes one pending. -/
theorem hold_mem_of_pending {slot : UInt8} {before after : List Call}
    (free : pending slot before = false) (held : pending slot (before ++ after) = true) :
    .apply slot .hold ∈ after := by
  induction after using List.reverseRecOn with
  | nil =>
    rw [List.append_nil, free] at held
    cases held
  | append_singleton after call ih =>
    rw [← List.append_assoc, pending_concat] at held
    split at held
    · rw [of_decide_eq_true held]
      exact List.mem_concat_self
    · exact List.mem_append_left _ (ih held)

/-- Between two calls that tell a hold of the same slot there is a hold on it. -/
theorem hold_between {calls : List Call} {front between back : List (Call × Reply)}
    {first second : Call × Reply}
    (run : (start.answerAll calls).2 = front ++ first :: between ++ second :: back)
    (same : first.1.slot = second.1.slot) (told : first.2.tellsHold = true)
    (toldAgain : second.2.tellsHold = true) :
    .apply first.1.slot .hold ∈ between.map Prod.fst := by
  have ends : pending first.1.slot (front.map Prod.fst ++ [first.1]) = false := by
    rw [List.append_assoc] at run
    rw [entry_of_history run] at told
    exact pending_concat_of_tellsHold _ told
  rw [entry_of_history run, ← same] at toldAgain
  have held := (held_of_tellsHold toldAgain).1
  rw [List.map_append, List.map_cons, List.append_cons] at held
  exact hold_mem_of_pending ends held

/-- The replies for a slot follow its own calls: a click is told as a hold exactly while one is
pending, numbers beyond the slots are answered with nothing and change nothing, the calls on other
slots can be left out, and no hold is told twice. -/
theorem replies_follow_own_history :
    (∀ history call,
      ((start.answerAll history).1.answer call).2 = call.reply (pending call.slot history)) ∧
    (∀ (tracker : GestureTracker) (call : Call), 8 ≤ call.slot →
      (tracker.answer call).1 = tracker) ∧
    (∀ calls slot, ((start.answerAll calls).2.filter fun entry => entry.1.slot = slot) =
      (start.answerAll (calls.filter fun call => call.slot = slot)).2) ∧
    ∀ calls front first between second back,
      (start.answerAll calls).2 = front ++ first :: between ++ second :: back →
      first.1.slot = second.1.slot → first.2.tellsHold = true → second.2.tellsHold = true →
      .apply first.1.slot .hold ∈ between.map Prod.fst := by
  refine ⟨answer_of_history, ?_, ?_, ?_⟩
  · intro tracker call beyond
    obtain ⟨-, -, inside⟩ | ⟨missing, beyond⟩ := Slot.byte_or_beyond call.slot
    · exact absurd inside (UInt8.not_lt.mpr beyond)
    · rw [answer_beyond tracker false missing beyond]
  · intro calls slot
    exact answerAll_filter slot calls
  · intro calls front first between second back run same told toldAgain
    exact hold_between run same told toldAgain

theorem two_holds_told_apart :
    (start.answerAll
      [.apply 0 .hold, .apply 0 .singleClick, .apply 1 .down, .apply 0 .hold,
        .apply 0 .doubleClick]).2 =
      [(.apply 0 .hold, .gesture none), (.apply 0 .singleClick, .gesture (some .hold)),
        (.apply 1 .down, .gesture (some .stateOn)), (.apply 0 .hold, .gesture none),
        (.apply 0 .doubleClick, .gesture (some .clickHold))] ∧
    Call.apply 0 .hold ∈ [Call.apply 1 .down, .apply 0 .hold] := by
  have run : (start.answerAll
      [.apply 0 .hold, .apply 0 .singleClick, .apply 1 .down, .apply 0 .hold,
        .apply 0 .doubleClick]).2 =
      [(.apply 0 .hold, .gesture none)] ++ (.apply 0 .singleClick, .gesture (some .hold)) ::
        [(.apply 1 .down, .gesture (some .stateOn)), (.apply 0 .hold, .gesture none)] ++
        (.apply 0 .doubleClick, .gesture (some .clickHold)) :: [] := by
    decide
  exact ⟨run, replies_follow_own_history.2.2.2 _ _ _ _ _ _ run rfl rfl rfl⟩

end GestureTracker

end ButtonGateway
