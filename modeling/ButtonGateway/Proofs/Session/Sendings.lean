import ButtonGateway.Session.Inbox
import Mathlib.Data.List.Sort

namespace ButtonGateway.Inbox

/-- Sent notices in the order of their arrival. -/
def inOrder (sent : List (Nat × Notice)) : List (Nat × Notice) :=
  sent.insertionSort fun first second => first.1 ≤ second.1

private theorem schedule_cons (entry first : Nat × Notice) (expected : List (Nat × Notice)) :
    schedule (first :: expected) entry =
      if first.1 ≤ entry.1 then first :: schedule expected entry
      else entry :: first :: expected := by
  by_cases sooner : first.1 ≤ entry.1 <;> simp [schedule, sooner]

/-- It makes no difference whether the first or the last of all is put into its place before the
other one is. -/
private theorem orderedInsert_schedule (first last : Nat × Notice)
    (expected : List (Nat × Notice)) :
    (schedule expected last).orderedInsert (fun first second => first.1 ≤ second.1) first =
      schedule (expected.orderedInsert (fun first second => first.1 ≤ second.1) first) last := by
  induction expected with
  | nil =>
    rw [List.orderedInsert_nil, schedule_cons]
    rfl
  | cons entry rest ih =>
    rw [schedule_cons, List.orderedInsert_cons]
    by_cases sooner : entry.1 ≤ last.1
    · rw [if_pos sooner, List.orderedInsert_cons]
      by_cases front : first.1 ≤ entry.1
      · rw [if_pos front, if_pos front, schedule_cons, if_pos (Nat.le_trans front sooner),
          schedule_cons, if_pos sooner]
      · rw [if_neg front, if_neg front, schedule_cons, if_pos sooner, ih]
    · rw [if_neg sooner, List.orderedInsert_cons]
      by_cases front : first.1 ≤ entry.1
      · rw [if_pos front, schedule_cons, schedule_cons, if_neg sooner, List.orderedInsert_cons,
          if_pos front]
      · have behind : ¬ first.1 ≤ last.1 := by omega
        rw [if_neg behind, if_neg front, schedule_cons, if_neg sooner, List.orderedInsert_cons,
          if_neg front]

private theorem inOrder_concat (sent : List (Nat × Notice)) (entry : Nat × Notice) :
    inOrder (sent ++ [entry]) = schedule (inOrder sent) entry := by
  induction sent with
  | nil => rfl
  | cons first rest ih =>
    unfold inOrder at ih ⊢
    rw [List.cons_append, List.insertionSort_cons, ih, List.insertionSort_cons,
      orderedInsert_schedule]

theorem inOrder_append (sent more : List (Nat × Notice)) :
    inOrder (sent ++ more) = more.foldl schedule (inOrder sent) := by
  induction more generalizing sent with
  | nil => rw [List.append_nil, List.foldl_nil]
  | cons entry rest ih =>
    rw [List.foldl_cons, ← inOrder_concat, ← ih, List.append_assoc]
    rfl

theorem pairwise_inOrder (sent : List (Nat × Notice)) :
    (inOrder sent).Pairwise fun first second => first.1 ≤ second.1 :=
  List.pairwise_insertionSort _ sent

/-- What is left when all has arrived that is due is due later. -/
theorem ahead_of_arrive {inbox : Inbox} {now : Nat}
    (ordered : (inbox.arrive now).expected.Pairwise fun first second => first.1 ≤ second.1) :
    ∀ entry ∈ (inbox.arrive now).expected, now < entry.1 := by
  have head := List.head?_dropWhile_not (fun entry : Nat × Notice => entry.1 ≤ now) inbox.expected
  unfold arrive at ordered ⊢
  dsimp only at ordered ⊢
  cases left : inbox.expected.dropWhile (·.1 ≤ now) with
  | nil => exact nofun
  | cons first rest =>
    rw [left] at head ordered
    have late : now < first.1 := Nat.not_le.mp (of_decide_eq_false head)
    intro entry member
    rcases List.mem_cons.mp member with rfl | behind
    · exact late
    · exact Nat.lt_of_lt_of_le late ((List.pairwise_cons.mp ordered).1 entry behind)

end ButtonGateway.Inbox
