import Mathlib.Data.List.Induction
import ButtonGateway.Proofs.Gesture.Holding
import ButtonGateway.Session
/-!
What notices mean to a tracker, without any session: a left fold over the notices, which neither
knows a time nor an epoch. A session that handles a notice does what the tracker alone would do.
-/
namespace ButtonGateway

open Daemon (Click)

namespace Notice

/-- The click that a status stands for, in a notice about a button. -/
def clickOf? : UInt8 → Option Click
  | 0 => some .down
  | 1 => some .up
  | 2 => some .click
  | 3 => some .singleClick
  | 4 => some .doubleClick
  | 5 => some .hold
  | _ => none

/-- The status of a button that is not connected, in a notice about its connection. -/
def disconnected : UInt8 := 0

def startsHold (slot : Slot) (notice : Notice) : Prop :=
  notice.kind = .upDown ∧ notice.slot.toNat = slot.val ∧ clickOf? notice.status = some .hold

/-- A pending hold on a slot ends: by the click that resolves it, by the next press, or because the
button went away. -/
def endsHold (slot : Slot) (notice : Notice) : Prop :=
  notice.slot.toNat = slot.val ∧
    (notice.kind = .upDown ∧ (clickOf? notice.status = some .singleClick ∨
        clickOf? notice.status = some .doubleClick ∨ clickOf? notice.status = some .down) ∨
      notice.kind = .status ∧ notice.status = disconnected)

private theorem ofCode?_eq_clickOf? (status : UInt8) :
    (Enumeration.ofCode? status : Option Click) = clickOf? status := by
  unfold clickOf?
  split
  case h_7 zero one two three four five =>
    have beyond : 6 ≤ status.toNat := by
      simp only [← UInt8.toNat_inj, imp_false, UInt8.reduceToNat] at zero one two three four five
      omega
    exact Enumeration.ofCode?_eq_none_iff.mpr beyond
  all_goals rfl

theorem code_disconnected :
    Enumeration.code Daemon.ConnectionStatus.disconnected = disconnected := by decide

theorem alive_of_clickOf? {notice : Notice} {made : Click}
    (meant : clickOf? notice.status = some made) : notice.isFatal = false := by
  cases fatal : notice.isFatal with
  | false => rfl
  | true =>
    have status : notice.status = fatalStatus := eq_of_beq fatal
    rw [status] at meant
    cases meant

end Notice

namespace GestureTracker

/-- What a notice that is not fatal means: a click, the loss of a button in the middle of a hold, or
an answer of the daemon, which is there. Everything else means nothing. -/
def observe (tracker : GestureTracker) (notice : Notice) : GestureTracker × List Effect :=
  match notice.kind with
  | .upDown =>
    match Notice.clickOf? notice.status with
    | some made =>
      let outcome := tracker.apply notice.slot made
      (outcome.1, outcome.2.toList.map (.publish notice.slot))
    | none => (tracker, [])
  | .status =>
    if notice.status = Notice.disconnected then ((tracker.cancelHold notice.slot).1, [])
    else (tracker, [])
  | .info => (tracker, [.announce true])
  | .ping | .connect => (tracker, [])

/-- Which holds are pending after a notice. -/
theorem holding_observe_iff (tracker : GestureTracker) (notice : Notice) (slot : Slot) :
    (tracker.observe notice).1.holding.get slot = true ↔ notice.startsHold slot ∨
      tracker.holding.get slot = true ∧ ¬ notice.endsHold slot := by
  unfold observe Notice.startsHold Notice.endsHold
  cases about : notice.kind with
  | upDown =>
    cases meant : Notice.clickOf? notice.status with
    | none => simp
    | some made =>
      dsimp only
      rw [holding_apply]
      by_cases same : notice.slot.toNat = slot.val
      · cases made <;> simp [heldAfter, same]
      · simp [same]
  | status =>
    dsimp only
    by_cases lost : notice.status = Notice.disconnected
    · rw [if_pos lost, holding_cancelHold]
      by_cases same : notice.slot.toNat = slot.val <;> simp [same, lost]
    · simp [lost]
  | ping | connect | info => simp

def observeAll (tracker : GestureTracker) (notices : List Notice) :
    GestureTracker × List Effect :=
  notices.foldl (fun state notice =>
    let outcome := state.1.observe notice
    (outcome.1, state.2 ++ outcome.2)) (tracker, [])

theorem observeAll_concat (tracker : GestureTracker) (notices : List Notice) (notice : Notice) :
    tracker.observeAll (notices ++ [notice]) =
      (((tracker.observeAll notices).1.observe notice).1,
        (tracker.observeAll notices).2 ++ ((tracker.observeAll notices).1.observe notice).2) := by
  simp [observeAll]

theorem observeAll_append (tracker : GestureTracker) (front back : List Notice) :
    tracker.observeAll (front ++ back) =
      (((tracker.observeAll front).1.observeAll back).1,
        (tracker.observeAll front).2 ++ ((tracker.observeAll front).1.observeAll back).2) := by
  induction back using List.reverseRecOn with
  | nil => simp [observeAll]
  | append_singleton back notice ih =>
    rw [← List.append_assoc, observeAll_concat, ih, observeAll_concat, List.append_assoc]

theorem observeAll_cons (tracker : GestureTracker) (notice : Notice) (rest : List Notice) :
    tracker.observeAll (notice :: rest) =
      (((tracker.observe notice).1.observeAll rest).1,
        (tracker.observe notice).2 ++ ((tracker.observe notice).1.observeAll rest).2) := by
  have split := tracker.observeAll_append [notice] rest
  simpa [observeAll] using split

/-- A hold that has begun is pending until it ends, whatever is noticed on other slots. -/
theorem holding_observeAll {slot : Slot} {notices : List Notice} {tracker : GestureTracker}
    (held : tracker.holding.get slot = true)
    (kept : ∀ notice ∈ notices, ¬ notice.endsHold slot) :
    (tracker.observeAll notices).1.holding.get slot = true := by
  induction notices using List.reverseRecOn with
  | nil => exact held
  | append_singleton notices notice ih =>
    rw [observeAll_concat, holding_observe_iff]
    have before := ih fun other member => kept other (List.mem_append_left _ member)
    exact .inr ⟨before, kept notice (by simp)⟩

theorem counted_observe {tracker : GestureTracker} (counted : tracker.Counted) (notice : Notice) :
    (tracker.observe notice).1.Counted := by
  unfold observe
  split
  · split
    · exact counted_apply counted _ _
    · exact counted
  · split
    · exact counted_cancelHold counted _
    · exact counted
  all_goals exact counted

theorem counted_observeAll {tracker : GestureTracker} (counted : tracker.Counted)
    (notices : List Notice) : (tracker.observeAll notices).1.Counted := by
  induction notices using List.reverseRecOn with
  | nil => exact counted
  | append_singleton notices notice ih =>
    rw [observeAll_concat]
    exact counted_observe ih notice

end GestureTracker

namespace Session

theorem dispatch_eq_observe (session : Session) (notice : Notice) :
    session.dispatch notice =
      ({ session with tracker := (session.tracker.observe notice).1 },
        (session.tracker.observe notice).2) := by
  unfold dispatch GestureTracker.observe
  rw [Notice.code_disconnected, Notice.ofCode?_eq_clickOf?]
  cases notice.kind with
  | ping | connect | info => rfl
  | status =>
    dsimp only
    split <;> rfl
  | upDown =>
    dsimp only
    cases Notice.clickOf? notice.status <;> rfl

end Session

end ButtonGateway
