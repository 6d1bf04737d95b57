import Mathlib.Data.List.ProdSigma
import ButtonGateway.Proofs.Settings.Buttons
import ButtonGateway.Proofs.Text.Split

namespace ButtonGateway

theorem TopicKind.mem_all (kind : TopicKind) : kind ∈ TopicKind.all := by
  cases kind <;> decide

private theorem TopicKind.suffix_injective : Function.Injective TopicKind.suffix := by
  intro first second same
  have distinct : (TopicKind.all.map TopicKind.suffix).Nodup := by decide
  exact List.inj_on_of_nodup_map distinct (mem_all first) (mem_all second) same

/-- All topics: the one of the gateway, and those of each slot. -/
def Topics.all (topics : Topics) : List String :=
  topics.availability :: (Slot.all ×ˢ TopicKind.all).filterMap fun place =>
    topics.topic? place.1.byte place.2

private theorem Slot.byte_injective : Function.Injective Slot.byte := by
  intro first second same
  rw [Slot.eq_byte_iff, Slot.toNat_byte] at same
  exact Fin.ext same

namespace Settings

theorem slotTable_get_eq_some_iff {settings : Settings} (valid : settings.validate = .ok ())
    {slot : Slot} {button : Button} :
    settings.slotTable.get slot = some button ↔
      button ∈ settings.buttons ∧ button.slot.toNat = slot.val :=
  SlotTable.get_ofButtons_eq_some_iff (distinguished_of_validate valid).slots

theorem eq_of_slot_eq {settings : Settings} (valid : settings.validate = .ok ())
    {first second : Button} (member : first ∈ settings.buttons)
    (memberToo : second ∈ settings.buttons) (same : first.slot = second.slot) : first = second :=
  List.inj_on_of_nodup_map (distinguished_of_validate valid).slots member memberToo same

private theorem names_get (settings : Settings) (slot : Slot) :
    settings.topics.names.get slot = (settings.slotTable.get slot).map Button.name :=
  Vector.getElem_map _ slot.isLt

/-- A slot has the topics of the button that is configured there. -/
theorem topic?_of_button {settings : Settings} (valid : settings.validate = .ok ())
    {button : Button} (member : button ∈ settings.buttons) (kind : TopicKind) :
    settings.topics.topic? button.slot kind =
      some (settings.broker.topicBase ++ "/" ++ button.name ++ "/" ++ kind.suffix) := by
  have inside := (distinguished_of_validate valid).inside button member
  have place : Slot.ofNat? button.slot.toNat = some ⟨button.slot.toNat, inside⟩ :=
    Slot.ofNat?_eq_some_iff.mpr rfl
  have found : settings.slotTable.get ⟨button.slot.toNat, inside⟩ = some button :=
    (slotTable_get_eq_some_iff valid).mpr ⟨member, rfl⟩
  unfold Topics.topic?
  rw [place]
  dsimp only
  rw [names_get, found]
  rfl

theorem topic?_of_no_button {settings : Settings} (valid : settings.validate = .ok ())
    {slot : UInt8} (free : ∀ button ∈ settings.buttons, button.slot ≠ slot) (kind : TopicKind) :
    settings.topics.topic? slot kind = none := by
  unfold Topics.topic?
  cases place : Slot.ofNat? slot.toNat with
  | none => rfl
  | some found =>
    dsimp only
    rw [names_get]
    cases held : settings.slotTable.get found with
    | none => rfl
    | some button =>
      obtain ⟨member, same⟩ := (slotTable_get_eq_some_iff valid).mp held
      have slot : button.slot = slot :=
        UInt8.toNat_inj.mp (same.trans (Slot.ofNat?_eq_some_iff.mp place).symm)
      exact absurd slot (free button member)

theorem topic?_eq_some_iff {settings : Settings} (valid : settings.validate = .ok ())
    {slot : UInt8} {kind : TopicKind} {topic : String} :
    settings.topics.topic? slot kind = some topic ↔ ∃ button ∈ settings.buttons,
      button.slot = slot ∧
        settings.broker.topicBase ++ "/" ++ button.name ++ "/" ++ kind.suffix = topic := by
  constructor
  · intro found
    by_cases configured : ∃ button ∈ settings.buttons, button.slot = slot
    · obtain ⟨button, member, rfl⟩ := configured
      rw [topic?_of_button valid member] at found
      exact ⟨button, member, rfl, Option.some.inj found⟩
    · have free : ∀ button ∈ settings.buttons, button.slot ≠ slot := by
        intro button member here
        exact configured ⟨button, member, here⟩
      rw [topic?_of_no_button valid free] at found
      cases found
  · rintro ⟨button, member, rfl, rfl⟩
    exact topic?_of_button valid member kind

theorem isSegment_iff {chars : List Char} :
    isSegment chars = true ↔ chars ≠ [] ∧ '/' ∉ chars ∧ '+' ∉ chars ∧ '#' ∉ chars := by
  unfold isSegment
  rw [Bool.and_eq_true, List.all_eq_true]
  constructor
  · rintro ⟨filled, plain⟩
    refine ⟨by simpa using filled, ?_, ?_, ?_⟩
    all_goals
      intro member
      exact absurd (plain _ member) (by decide)
  · rintro ⟨filled, slash, plus, hash⟩
    refine ⟨by simpa using filled, ?_⟩
    intro char member
    simp only [Bool.and_eq_true, bne_iff_ne]
    exact ⟨⟨fun same => slash (same ▸ member), fun same => plus (same ▸ member)⟩,
      fun same => hash (same ▸ member)⟩

private theorem isTopicBase_of_validate {settings : Settings} (valid : settings.validate = .ok ()) :
    isTopicBase settings.broker.topicBase = true := by
  have nothing := violation?_of_validate valid
  unfold violation? at nothing
  split at nothing
  · cases nothing
  · split at nothing
    · cases nothing
    · split at nothing
      · cases nothing
      · rename_i usable
        simpa using usable

/-- Every level of a text that can stand in front of topics can stand in a topic. -/
theorem isSegment_of_isTopicBase {base : String} (usable : isTopicBase base = true)
    {level : List Char} (member : level ∈ base.toList.splitOn '/') : isSegment level = true := by
  rw [isTopicBase, Text.pieces_eq_splitOn] at usable
  exact List.all_eq_true.mp usable level member

private theorem isSegment_suffix (kind : TopicKind) : isSegment kind.suffix.toList = true := by
  cases kind <;> decide

/-- The levels of a button's topic: those in front of all topics, the name, and the kind. -/
theorem levels_topic (base : String) {name : String} (segment : isSegment name.toList = true)
    (kind : TopicKind) : (base ++ "/" ++ name ++ "/" ++ kind.suffix).toList.splitOn '/' =
      base.toList.splitOn '/' ++ [name.toList, kind.suffix.toList] := by
  have named := List.splitOn_eq_singleton (isSegment_iff.mp segment).2.1
  have kinded := List.splitOn_eq_singleton (isSegment_iff.mp (isSegment_suffix kind)).2.1
  have whole : (base ++ "/" ++ name ++ "/" ++ kind.suffix).toList =
      base.toList ++ '/' :: (name.toList ++ '/' :: kind.suffix.toList) := by
    simp
  rw [whole, List.splitOn_append_cons_self, List.splitOn_append_cons_self, named, kinded]
  rfl

private theorem levels_availability (base : String) :
    (base ++ "/LWT").toList.splitOn '/' = base.toList.splitOn '/' ++ ["LWT".toList] := by
  have whole : (base ++ "/LWT").toList = base.toList ++ '/' :: "LWT".toList := by simp
  rw [whole, List.splitOn_append_cons_self]
  rfl

private theorem topic_ne_availability (base : String) {name : String}
    (segment : isSegment name.toList = true) (kind : TopicKind) :
    base ++ "/" ++ name ++ "/" ++ kind.suffix ≠ base ++ "/LWT" := by
  intro same
  have levels := levels_topic base segment kind
  rw [same, levels_availability] at levels
  cases congrArg List.length (List.append_cancel_left levels)

private theorem topic_inj {base first second : String} (segment : isSegment first.toList = true)
    (segmentToo : isSegment second.toList = true) {kind other : TopicKind}
    (same : base ++ "/" ++ first ++ "/" ++ kind.suffix =
      base ++ "/" ++ second ++ "/" ++ other.suffix) : first = second ∧ kind = other := by
  have levels := levels_topic base segment kind
  rw [same, levels_topic base segmentToo] at levels
  obtain ⟨name, rest⟩ := List.cons.inj (List.append_cancel_left levels)
  obtain ⟨suffix, -⟩ := List.cons.inj rest
  exact ⟨(String.toList_inj.mp name).symm,
    (TopicKind.suffix_injective (String.toList_inj.mp suffix)).symm⟩

private theorem eq_of_topic? {settings : Settings} (valid : settings.validate = .ok ())
    {first second : UInt8} {kind other : TopicKind} {topic : String}
    (found : settings.topics.topic? first kind = some topic)
    (foundToo : settings.topics.topic? second other = some topic) :
    first = second ∧ kind = other := by
  have distinguished := distinguished_of_validate valid
  obtain ⟨button, member, rfl, rfl⟩ := (topic?_eq_some_iff valid).mp found
  obtain ⟨twin, memberToo, rfl, same⟩ := (topic?_eq_some_iff valid).mp foundToo
  obtain ⟨name, kinds⟩ := topic_inj (distinguished.segments twin memberToo)
    (distinguished.segments button member) same
  have identical : twin = button :=
    List.inj_on_of_nodup_map distinguished.names memberToo member name
  exact ⟨congrArg Button.slot identical.symm, kinds.symm⟩

private theorem nodup_all {settings : Settings} (valid : settings.validate = .ok ()) :
    settings.topics.all.Nodup := by
  refine List.nodup_cons.mpr ⟨?_, ?_⟩
  · intro member
    obtain ⟨place, -, found⟩ := List.mem_filterMap.mp member
    obtain ⟨button, present, -, same⟩ := (topic?_eq_some_iff valid).mp found
    exact topic_ne_availability _ ((distinguished_of_validate valid).segments button present) _ same
  · refine List.Nodup.filterMap ?_ ((List.nodup_finRange slotCount).product (by decide))
    intro first second topic found foundToo
    obtain ⟨slot, kind⟩ := eq_of_topic? valid found foundToo
    exact Prod.ext (Slot.byte_injective slot) kind

private theorem mem_all_iff {settings : Settings} (valid : settings.validate = .ok ())
    {topic : String} :
    topic ∈ settings.topics.all ↔ topic = settings.broker.topicBase ++ "/LWT" ∨
      ∃ button ∈ settings.buttons, ∃ kind : TopicKind,
        settings.broker.topicBase ++ "/" ++ button.name ++ "/" ++ kind.suffix = topic := by
  rw [Topics.all, List.mem_cons, List.mem_filterMap]
  apply or_congr Iff.rfl
  constructor
  · rintro ⟨⟨slot, kind⟩, -, found⟩
    obtain ⟨button, present, -, same⟩ := (topic?_eq_some_iff valid).mp found
    exact ⟨button, present, kind, same⟩
  · rintro ⟨button, present, kind, same⟩
    have inside := (distinguished_of_validate valid).inside button present
    let slot : Slot := ⟨button.slot.toNat, inside⟩
    have byte : button.slot = slot.byte := Slot.eq_byte_iff.mpr rfl
    refine ⟨(slot, kind), List.mem_product.mpr ⟨List.mem_finRange slot, TopicKind.mem_all kind⟩, ?_⟩
    exact (topic?_eq_some_iff valid).mpr ⟨button, present, byte, same⟩

private theorem isSegment_level {settings : Settings} (valid : settings.validate = .ok ())
    {topic : String}
    (member : topic ∈ settings.topics.all) {level : List Char}
    (inside : level ∈ topic.toList.splitOn '/') : isSegment level = true := by
  have base := isTopicBase_of_validate valid
  rcases (mem_all_iff valid).mp member with rfl | ⟨button, present, kind, rfl⟩
  · rw [levels_availability, List.mem_append, List.mem_singleton] at inside
    rcases inside with front | rfl
    · exact isSegment_of_isTopicBase base front
    · decide
  · have segment := (distinguished_of_validate valid).segments button present
    rw [levels_topic _ segment, List.mem_append, List.mem_pair] at inside
    rcases inside with front | rfl | rfl
    · exact isSegment_of_isTopicBase base front
    · exact segment
    · exact isSegment_suffix kind

/-- The topics are the one of the gateway and, for each button, one of each kind. -/
theorem all_perm {settings : Settings} (valid : settings.validate = .ok ()) :
    settings.topics.all.Perm ((settings.broker.topicBase ++ "/LWT") ::
      (settings.buttons ×ˢ TopicKind.all).map fun (button, kind) =>
        settings.broker.topicBase ++ "/" ++ button.name ++ "/" ++ kind.suffix) := by
  have distinguished := distinguished_of_validate valid
  refine (List.perm_ext_iff_of_nodup (nodup_all valid) ?_).mpr ?_
  · refine List.nodup_cons.mpr ⟨?_, ?_⟩
    · intro member
      obtain ⟨⟨button, kind⟩, inside, same⟩ := List.mem_map.mp member
      have present := (List.mem_product.mp inside).1
      exact topic_ne_availability _ (distinguished.segments button present) kind same
    · refine List.Nodup.map_on ?_ ((List.Nodup.of_map _ distinguished.slots).product (by decide))
      rintro ⟨first, kind⟩ member ⟨second, other⟩ memberToo same
      have present := (List.mem_product.mp member).1
      have presentToo := (List.mem_product.mp memberToo).1
      obtain ⟨name, same⟩ := topic_inj (distinguished.segments first present)
        (distinguished.segments second presentToo) same
      exact Prod.ext (List.inj_on_of_nodup_map distinguished.names present presentToo name) same
  · intro topic
    rw [mem_all_iff valid, List.mem_cons, List.mem_map]
    simp only [Prod.exists, List.mem_product, TopicKind.mem_all, and_true, exists_and_left]

/-- Nothing in a topic makes it a pattern for topics, and none of its levels is empty. -/
theorem plain_of_mem_all {settings : Settings} (valid : settings.validate = .ok ())
    {topic : String} (member : topic ∈ settings.topics.all) :
    '+' ∉ topic.toList ∧ '#' ∉ topic.toList ∧ [] ∉ topic.toList.splitOn '/' := by
  have segments {level : List Char} (inside : level ∈ topic.toList.splitOn '/') :=
    isSegment_iff.mp (isSegment_level valid member inside)
  refine ⟨?_, ?_, ?_⟩
  · intro inside
    have other : '+' ≠ '/' := by decide
    obtain ⟨level, present, within⟩ := Text.exists_piece_of_mem other inside
    exact (segments present).2.2.1 within
  · intro inside
    have other : '#' ≠ '/' := by decide
    obtain ⟨level, present, within⟩ := Text.exists_piece_of_mem other inside
    exact (segments present).2.2.2 within
  · intro empty
    exact (segments empty).1 rfl

private theorem isSome_topic?_iff {settings : Settings} (valid : settings.validate = .ok ())
    {slot : UInt8} {kind : TopicKind} : (settings.topics.topic? slot kind).isSome = true ↔
      ∃ button ∈ settings.buttons, button.slot = slot := by
  rw [Option.isSome_iff_exists]
  constructor
  · rintro ⟨topic, found⟩
    obtain ⟨button, present, here, -⟩ := (topic?_eq_some_iff valid).mp found
    exact ⟨button, present, here⟩
  · rintro ⟨button, present, here⟩
    exact ⟨_, (topic?_eq_some_iff valid).mpr ⟨button, present, here, rfl⟩⟩

/-- Of settings that pass the check, the table holds each button in its own slot and nothing else.
The topics are the one of the gateway and five for each button, no two the same; each can be
published under, and its levels tell whose it is and of which kind. -/
theorem topics_tell_buttons_apart {settings : Settings} (valid : settings.validate = .ok ()) :
    (∀ slot button, settings.slotTable.get slot = some button ↔
      button ∈ settings.buttons ∧ button.slot.toNat = slot.val) ∧
    (SlotTable.buttons settings.slotTable).Perm settings.buttons ∧
    settings.topics.all.Perm ((settings.broker.topicBase ++ "/LWT") ::
      (settings.buttons ×ˢ TopicKind.all).map fun (button, kind) =>
        settings.broker.topicBase ++ "/" ++ button.name ++ "/" ++ kind.suffix) ∧
    settings.topics.all.length = 1 + settings.buttons.length * 5 ∧
    settings.topics.all.Nodup ∧
    (∀ topic ∈ settings.topics.all, '+' ∉ topic.toList ∧ '#' ∉ topic.toList ∧
      [] ∉ topic.toList.splitOn '/') ∧
    (∀ slot kind, (settings.topics.topic? slot kind).isSome = true ↔
      ∃ button ∈ settings.buttons, button.slot = slot) ∧
    (∀ slot kind topic, settings.topics.topic? slot kind = some topic →
      ∃ button ∈ settings.buttons, button.slot = slot ∧ topic.toList.splitOn '/' =
        settings.broker.topicBase.toList.splitOn '/' ++ [button.name.toList, kind.suffix.toList]) ∧
    ∀ first kind second other topic, settings.topics.topic? first kind = some topic →
      settings.topics.topic? second other = some topic → first = second ∧ kind = other := by
  have distinguished := distinguished_of_validate valid
  refine ⟨?_, ?_, all_perm valid, ?_, nodup_all valid, ?_, ?_, ?_, ?_⟩
  · intro slot button
    exact slotTable_get_eq_some_iff valid
  · exact (SlotTable.buttons_ofButtons distinguished.slots distinguished.inside).1
  · rw [(all_perm valid).length_eq, List.length_cons, List.length_map, List.length_product,
      Nat.add_comm]
    rfl
  · intro topic member
    exact plain_of_mem_all valid member
  · intro slot kind
    exact isSome_topic?_iff valid
  · intro slot kind topic found
    obtain ⟨button, present, here, rfl⟩ := (topic?_eq_some_iff valid).mp found
    exact ⟨button, present, here, levels_topic _ (distinguished.segments button present) kind⟩
  · intro first kind second other topic
    exact eq_of_topic? valid

/-- Two buttons are named like levels that other topics end with. -/
theorem buttons_named_like_levels_told_apart :
    ∃ settings : Settings, settings.validate = .ok () ∧
      settings.buttons.map Button.name = ["LWT", "STATE"] ∧
      settings.topics.availability = "home/LWT/LWT" ∧
      settings.topics.topic? 5 .state = some "home/LWT/LWT/STATE" ∧
      "home/LWT/LWT/STATE" ∈ settings.topics.all ∧
      [] ∉ "home/LWT/LWT/STATE".toList.splitOn '/' ∧ settings.topics.all.length = 11 := by
  let settings : Settings :=
    { broker := ⟨"tcp://localhost", "home/LWT", "gateway"⟩
      buttons := [⟨5, "LWT", none⟩, ⟨2, "STATE", none⟩] }
  have valid : settings.validate = .ok () := by decide
  have found : settings.topics.topic? 5 .state = some "home/LWT/LWT/STATE" := by decide +kernel
  have member : "home/LWT/LWT/STATE" ∈ settings.topics.all := by decide +kernel
  obtain ⟨-, -, -, many, -, plain, -⟩ := topics_tell_buttons_apart valid
  exact ⟨settings, valid, rfl, by decide, found, member, (plain _ member).2.2, many⟩

end Settings

end ButtonGateway
