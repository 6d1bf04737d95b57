import ButtonGateway.Proofs.Settings.Topics

namespace ButtonGateway.Settings

/-- A rule for settings: what keeps it, and what is reported if it is broken. -/
structure Rule where
  kept : Prop
  violation : Violation

/-- A violation is the first of some rules: its rule is broken, and those before it are kept. -/
def FirstBroken (rules : List Rule) (violation : Violation) : Prop :=
  ∃ front rule back, rules = front ++ rule :: back ∧ (∀ earlier ∈ front, earlier.kept) ∧
    ¬ rule.kept ∧ rule.violation = violation

/-- What was found is decided by rules: their first violation, or nothing if all are kept. -/
def Decides (rules : List Rule) : Option Violation → Prop
  | some violation => FirstBroken rules violation
  | none => ∀ rule ∈ rules, rule.kept

/-- A name that can stand between two slashes of a topic. -/
def Plain (name : String) : Prop :=
  name ≠ "" ∧ '/' ∉ name.toList ∧ '+' ∉ name.toList ∧ '#' ∉ name.toList

def buttonRules (before : List Button) (button : Button) : List Rule :=
  [⟨button.slot.toNat < 8, .slotOutOfRange button.slot⟩,
    ⟨∀ earlier ∈ before, earlier.slot ≠ button.slot, .slotTwice button.slot⟩,
    ⟨Plain button.name, .unusableName button.name⟩,
    ⟨∀ earlier ∈ before, earlier.name ≠ button.name, .nameTwice button.name⟩]

def commonRules (settings : Settings) : List Rule :=
  [⟨∀ level ∈ settings.broker.topicBase.toList.splitOn '/',
      level ≠ [] ∧ '+' ∉ level ∧ '#' ∉ level, .unusableBase settings.broker.topicBase⟩,
    ⟨settings.broker.url ≠ "", .emptyUrl⟩,
    ⟨settings.broker.clientId ≠ "" ∧ settings.broker.clientId.toList.head? ≠ some ' ',
      .unusableClientId settings.broker.clientId⟩,
    ⟨1 ≤ settings.epochLength.toNat ∧ settings.epochLength.toNat ≤ 366 * 24 * 3600,
      .epochOutOfRange settings.epochLength⟩]

/-- All rules in the order in which they are looked at. -/
def rules (settings : Settings) : List Rule :=
  ⟨settings.buttons.length ≤ 8, .tooManyButtons settings.buttons.length⟩ ::
    (settings.buttons.zipIdx.flatMap fun (button, place) =>
      buttonRules (settings.buttons.take place) button) ++ settings.commonRules

theorem FirstBroken.behind {rules : List Rule} {violation : Violation}
    (first : FirstBroken rules violation) {sound : List Rule} (kept : ∀ rule ∈ sound, rule.kept) :
    FirstBroken (sound ++ rules) violation := by
  obtain ⟨front, rule, back, rfl, earlier, broken, same⟩ := first
  refine ⟨sound ++ front, rule, back, by rw [List.append_assoc], ?_, broken, same⟩
  intro other member
  rcases List.mem_append.mp member with before | after
  · exact kept other before
  · exact earlier other after

theorem FirstBroken.before {rules : List Rule} {violation : Violation}
    (first : FirstBroken rules violation) (more : List Rule) :
    FirstBroken (rules ++ more) violation := by
  obtain ⟨front, rule, back, rfl, earlier, broken, same⟩ := first
  exact ⟨front, rule, back ++ more, by rw [List.append_assoc, List.cons_append], earlier, broken,
    same⟩

private theorem not_firstBroken_nil {violation : Violation} : ¬ FirstBroken [] violation := by
  rintro ⟨front, rule, back, whole, -⟩
  exact absurd whole.symm (by simp)

theorem firstBroken_cons_iff {rule : Rule} {rules : List Rule} {violation : Violation} :
    FirstBroken (rule :: rules) violation ↔
      ¬ rule.kept ∧ rule.violation = violation ∨ rule.kept ∧ FirstBroken rules violation := by
  constructor
  · rintro ⟨front, broken, back, whole, earlier, found, same⟩
    cases front with
    | nil =>
      obtain ⟨rfl, rfl⟩ := List.cons.inj whole
      exact .inl ⟨found, same⟩
    | cons first others =>
      obtain ⟨rfl, rfl⟩ := List.cons.inj whole
      obtain ⟨kept, further⟩ := List.forall_mem_cons.mp earlier
      exact .inr ⟨kept, others, broken, back, rfl, further, found, same⟩
  · rintro (⟨broken, same⟩ | ⟨kept, first⟩)
    · exact ⟨[], rule, rules, rfl, by simp, broken, same⟩
    · have alone : ∀ other ∈ [rule], other.kept := by simpa using kept
      exact first.behind alone

/-- Rules have one first violation at most. -/
theorem FirstBroken.unique {rules : List Rule} {first second : Violation}
    (broken : FirstBroken rules first) (brokenToo : FirstBroken rules second) : first = second := by
  induction rules with
  | nil => exact absurd broken not_firstBroken_nil
  | cons rule rest ih =>
    rcases firstBroken_cons_iff.mp broken with ⟨found, rfl⟩ | ⟨kept, later⟩
    · rcases firstBroken_cons_iff.mp brokenToo with ⟨-, same⟩ | ⟨kept, -⟩
      · exact same
      · exact absurd kept found
    · rcases firstBroken_cons_iff.mp brokenToo with ⟨found, -⟩ | ⟨-, laterToo⟩
      · exact absurd kept found
      · exact ih later laterToo

theorem decides_nil : Decides [] none := by simp [Decides]

/-- Looking at one rule and then at the others. -/
theorem Decides.cons {rule : Rule} {rules : List Rule} {condition : Prop} [Decidable condition]
    {found : Option Violation} (same : condition ↔ ¬ rule.kept) (others : Decides rules found) :
    Decides (rule :: rules) (if condition then some rule.violation else found) := by
  by_cases broken : condition
  · rw [if_pos broken]
    exact firstBroken_cons_iff.mpr (.inl ⟨same.mp broken, rfl⟩)
  · have kept : rule.kept := not_not.mp (mt same.mpr broken)
    rw [if_neg broken]
    cases found with
    | none => exact List.forall_mem_cons.mpr ⟨kept, others⟩
    | some violation => exact firstBroken_cons_iff.mpr (.inr ⟨kept, others⟩)

/-- Looking at some rules and then, if all of them are kept, at others. -/
theorem Decides.append {rules others : List Rule} {first second : Option Violation}
    (before : Decides rules first) (after : Decides others second) :
    Decides (rules ++ others) (first.or second) := by
  cases first with
  | some violation => exact FirstBroken.before before others
  | none =>
    cases second with
    | some violation => exact FirstBroken.behind after before
    | none => exact List.forall_mem_append.mpr ⟨before, after⟩

private theorem FirstBroken.not_kept {rules : List Rule} {violation : Violation}
    (first : FirstBroken rules violation) : ¬ ∀ rule ∈ rules, rule.kept := by
  obtain ⟨front, rule, back, rfl, -, broken, -⟩ := first
  exact fun kept => broken (kept rule (by simp))

/-- What is decided by rules is their first violation, if they have one. -/
theorem Decides.eq_some_iff {rules : List Rule} {found : Option Violation}
    (decided : Decides rules found) {violation : Violation} :
    found = some violation ↔ FirstBroken rules violation := by
  cases found with
  | none =>
    constructor
    · intro none
      cases none
    · intro first
      exact absurd decided first.not_kept
  | some other =>
    rw [Option.some.injEq]
    constructor
    · rintro rfl
      exact decided
    · intro first
      exact FirstBroken.unique decided first

/-- Nothing is found exactly if all rules are kept. -/
theorem Decides.eq_none_iff {rules : List Rule} {found : Option Violation}
    (decided : Decides rules found) : found = none ↔ ∀ rule ∈ rules, rule.kept := by
  cases found with
  | none => exact iff_of_true rfl decided
  | some violation => exact iff_of_false nofun (FirstBroken.not_kept decided)

theorem not_eq_true_iff {answer : Bool} {usable : Prop} (same : answer = true ↔ usable) :
    (!answer) = true ↔ ¬ usable := by
  rw [← same, Bool.not_eq_true', Bool.not_eq_true]

theorem isSegment_toList_iff {name : String} : isSegment name.toList = true ↔ Plain name := by
  rw [isSegment_iff, Plain, ne_eq, String.toList_eq_nil_iff]

private theorem isTopicBase_iff {base : String} : isTopicBase base = true ↔
    ∀ level ∈ base.toList.splitOn '/', level ≠ [] ∧ '+' ∉ level ∧ '#' ∉ level := by
  rw [isTopicBase, Text.pieces_eq_splitOn, List.all_eq_true]
  apply forall₂_congr
  intro level member
  rw [isSegment_iff]
  exact and_congr_right fun _ => and_iff_right (Text.not_mem_of_mem_splitOn member)

private theorem isClientId_iff {clientId : String} :
    isClientId clientId = true ↔ clientId ≠ "" ∧ clientId.toList.head? ≠ some ' ' := by
  rw [ne_eq, ← String.toList_eq_nil_iff]
  unfold isClientId
  cases clientId.toList <;> simp

private theorem epoch_outside_iff {length : UInt64} : length = 0 ∨ maxEpochLength < length ↔
    ¬ (1 ≤ length.toNat ∧ length.toNat ≤ 366 * 24 * 3600) := by
  rw [UInt64.lt_iff_toNat_lt, ← UInt64.toNat_inj]
  change length.toNat = 0 ∨ 366 * 24 * 3600 < length.toNat ↔ _
  omega

private theorem mem_map_iff {α β : Type} {field : α → β} {before : List α} {value : β} :
    value ∈ before.map field ↔ ¬ ∀ earlier ∈ before, field earlier ≠ value := by
  simp

private theorem decides_buttonViolation? (before : List Button) (button : Button) :
    Decides (buttonRules before button) (buttonViolation? before button) :=
  .cons Nat.not_lt.symm (.cons mem_map_iff
    (.cons (not_eq_true_iff isSegment_toList_iff) (.cons mem_map_iff decides_nil)))

private theorem buttonsViolation?_cons (before : List Button) (button : Button)
    (rest : List Button) :
    buttonsViolation? before (button :: rest) =
      (buttonViolation? before button).or (buttonsViolation? (before ++ [button]) rest) := by
  rw [buttonsViolation?]
  cases buttonViolation? before button <;> rfl

/-- The buttons are looked at in their order, each with those in front of it. -/
theorem decides_buttonsViolation? (before buttons : List Button) :
    Decides ((buttons.zipIdx before.length).flatMap fun (button, place) =>
      buttonRules ((before ++ buttons).take place) button) (buttonsViolation? before buttons) := by
  induction buttons generalizing before with
  | nil => exact decides_nil
  | cons button rest ih =>
    have others := ih (before ++ [button])
    rw [List.length_append, List.length_singleton, List.append_assoc, List.singleton_append]
      at others
    rw [List.zipIdx_cons, List.flatMap_cons, buttonsViolation?_cons]
    dsimp only
    rw [List.take_left' rfl]
    exact (decides_buttonViolation? before button).append others

/-- What is wrong with settings is decided by the rules. -/
theorem decides_violation? (settings : Settings) :
    Decides settings.rules settings.violation? := by
  have buttons := decides_buttonsViolation? [] settings.buttons
  unfold violation?
  refine .cons Nat.not_le.symm ?_
  cases found : buttonsViolation? [] settings.buttons with
  | some violation =>
    rw [found] at buttons
    exact FirstBroken.before buttons settings.commonRules
  | none =>
    rw [found] at buttons
    have url : settings.broker.url.isEmpty = true ↔ ¬ settings.broker.url ≠ "" := by
      rw [String.isEmpty_iff, ne_eq, not_not]
    exact buttons.append (.cons (not_eq_true_iff isTopicBase_iff) (.cons url
      (.cons (not_eq_true_iff isClientId_iff) (.cons epoch_outside_iff decides_nil))))

/-- Settings that the gateway can work with. -/
structure Workable (settings : Settings) : Prop where
  few : settings.buttons.length ≤ 8
  slots : ∀ button ∈ settings.buttons, button.slot.toNat < 8
  names : ∀ button ∈ settings.buttons, Plain button.name
  apart : settings.buttons.Pairwise fun first second =>
    first.slot ≠ second.slot ∧ first.name ≠ second.name
  base : ∀ level ∈ settings.broker.topicBase.toList.splitOn '/',
    level ≠ [] ∧ '+' ∉ level ∧ '#' ∉ level
  url : settings.broker.url ≠ ""
  clientId : settings.broker.clientId ≠ "" ∧ settings.broker.clientId.toList.head? ≠ some ' '
  epoch : 1 ≤ settings.epochLength.toNat ∧ settings.epochLength.toNat ≤ 366 * 24 * 3600

private theorem distinguished_iff {buttons : List Button} : Distinguished buttons ↔
    (∀ button ∈ buttons, button.slot.toNat < 8) ∧ (∀ button ∈ buttons, Plain button.name) ∧
      buttons.Pairwise fun first second => first.slot ≠ second.slot ∧ first.name ≠ second.name := by
  rw [List.pairwise_and_iff]
  constructor
  · intro distinguished
    refine ⟨distinguished.inside, ?_, ?_, ?_⟩
    · intro button member
      exact isSegment_toList_iff.mp (distinguished.segments button member)
    · exact List.pairwise_map.mp distinguished.slots
    · exact List.pairwise_map.mp distinguished.names
  · rintro ⟨inside, plain, slots, names⟩
    refine ⟨inside, List.pairwise_map.mpr slots, ?_, List.pairwise_map.mpr names⟩
    intro button member
    exact isSegment_toList_iff.mpr (plain button member)

/-- The gateway can work with settings exactly if all rules are kept. -/
theorem workable_iff {settings : Settings} :
    Workable settings ↔ ∀ rule ∈ settings.rules, rule.kept := by
  have buttons := buttonsViolation?_eq_none_iff distinguished_nil settings.buttons
  rw [(decides_buttonsViolation? [] settings.buttons).eq_none_iff, List.nil_append,
    distinguished_iff] at buttons
  simp only [rules, commonRules, List.cons_append, List.forall_mem_cons, List.forall_mem_append,
    List.not_mem_nil, false_imp_iff, implies_true, and_true]
  rw [List.length_nil] at buttons
  rw [buttons]
  constructor
  · intro workable
    exact ⟨workable.few, ⟨workable.slots, workable.names, workable.apart⟩, workable.base,
      workable.url, workable.clientId, workable.epoch⟩
  · rintro ⟨few, ⟨slots, names, apart⟩, base, url, clientId, epoch⟩
    exact ⟨few, slots, names, apart, base, url, clientId, epoch⟩

/-- Settings pass the check exactly if the gateway can work with them, and otherwise the first
violation is reported, in the order of the rules: the number of buttons; for each button in turn its
slot, whether a button before it has the slot, its name, and whether a button before it has the
name; then the base of the topics, the address of the broker, the client's name and the epoch. -/
theorem validation_follows_rules (settings : Settings) :
    (settings.validate = .ok () ↔ Workable settings) ∧
      ∀ violation, settings.validate = .error violation ↔ FirstBroken settings.rules violation := by
  have decided := settings.decides_violation?
  constructor
  · rw [workable_iff, ← decided.eq_none_iff]
    unfold validate
    cases settings.violation? <;> simp
  · intro violation
    rw [← decided.eq_some_iff]
    unfold validate
    cases settings.violation? <;> simp

/-- Of a second button, a base and an address that all break rules, the button's slot is reported,
and not its name. -/
example : ({ broker := ⟨"", "home//door", "gateway"⟩
             buttons := [⟨3, "door", none⟩, ⟨3, "+", none⟩] } : Settings).validate =
    .error (.slotTwice 3) := by decide

end ButtonGateway.Settings
