import ButtonGateway.Address
import ButtonGateway.Proofs.Text.Blank
import ButtonGateway.Proofs.Text.Hex
import ButtonGateway.Wire.Field

namespace ButtonGateway.Address

open Text

/-- The form of addresses: six groups of two hexadecimal digits, with single colons between them. -/
def WellFormed (chars : List Char) : Prop :=
  ∃ groups, List.intercalate [':'] groups = chars ∧ groups.length = 6 ∧
    ∀ group ∈ groups, group.length = 2 ∧ ∀ char ∈ group, Hex.IsDigit char

theorem length_groups (address : Address) : address.groups.length = 6 := by
  rw [groups, List.length_map, List.length_reverse, address.octets.property]

private theorem toList_text (address : Address) :
    address.text.toList = List.intercalate [':'] address.groups := String.toList_ofList

theorem toLower_eq_colon_iff (char : Char) : char.toLower = ':' ↔ char = ':' := by
  have colon : ':'.toNat = 58 := rfl
  rw [← Char.toNat_inj, ← Char.toNat_inj, toNat_toLower, colon]
  split <;> omega

private theorem not_isDigit_colon : ¬ Hex.IsDigit ':' := by
  unfold Hex.IsDigit
  decide

private theorem isBlank_of_isDigit {char : Char} (digit : Hex.IsDigit char) :
    isBlank char = false := by
  have bounds : '0'.toNat ≤ char.toNat ∧ char.toNat ≤ 'f'.toNat := by
    rcases digit with ⟨low, high⟩ | ⟨low, high⟩ | ⟨low, high⟩
    · exact ⟨low, Nat.le_trans high (by decide)⟩
    · exact ⟨Nat.le_trans (by decide) low, high⟩
    · exact ⟨Nat.le_trans (by decide) low, Nat.le_trans high (by decide)⟩
  exact isBlank_of_visible (Nat.lt_of_lt_of_le (by decide) bounds.1)
    (Nat.lt_of_le_of_lt bounds.2 (by decide))

theorem splitOn_text (address : Address) : address.text.toList.splitOn ':' = address.groups := by
  rw [splitOn_eq_iff]
  refine ⟨?_, ?_, address.toList_text.symm⟩
  · exact List.ne_nil_of_length_pos (by rw [length_groups]; decide)
  · intro group member inside
    obtain ⟨octet, -, rfl⟩ := List.mem_map.mp member
    exact not_isDigit_colon (Hex.isDigit_of_mem_pair inside)

theorem toList_text_ne_nil (address : Address) : address.text.toList ≠ [] := by
  intro empty
  have six := address.length_groups
  rw [← splitOn_text, empty] at six
  exact absurd six (by decide)

theorem solid_text (address : Address) : Solid address.text.toList := by
  intro char member
  by_cases colon : char = ':'
  · rw [colon]
    decide
  · obtain ⟨group, present, inside⟩ := exists_piece_of_mem colon member
    rw [splitOn_text] at present
    obtain ⟨octet, -, rfl⟩ := List.mem_map.mp present
    exact isBlank_of_isDigit (Hex.isDigit_of_mem_pair inside)

private theorem map_toLower_groups (address : Address) :
    address.groups.map (·.map Char.toLower) = address.groups := by
  rw [groups, List.map_map]
  exact List.map_congr_left fun octet _ => Hex.map_toLower_pair octet

/-- Characters are a written address exactly if their groups are. -/
theorem eq_toList_text_iff {chars : List Char} {address : Address} :
    chars = address.text.toList ↔ chars.splitOn ':' = address.groups := by
  constructor
  · rintro rfl
    exact address.splitOn_text
  · intro same
    rw [toList_text, ← same, List.intercalate_splitOn]

theorem map_toLower_text (address : Address) :
    address.text.toList.map Char.toLower = address.text.toList := by
  rw [eq_toList_text_iff, splitOn_map toLower_eq_colon_iff, splitOn_text, map_toLower_groups]

theorem ofGroups?_eq_some_iff {groups : List (List Char)} {address : Address} :
    ofGroups? groups = some address ↔ groups.map (·.map Char.toLower) = address.groups := by
  rw [Address.groups, ← Hex.mapM_byte?_eq_some_iff, ofGroups?]
  cases groups.mapM Hex.byte? with
  | none => simp
  | some bytes =>
    dsimp only
    rw [Option.some_inj]
    constructor
    · intro found
      split at found
      · cases Option.some.inj found
        exact (List.reverse_reverse bytes).symm
      · cases found
    · rintro rfl
      rw [dif_pos (by rw [List.length_reverse, address.octets.property])]
      simp only [List.reverse_reverse]

theorem eq_of_parse_error {text : String} {fault : Fault} (failed : parse text = .error fault) :
    fault = .invalidAddress text := by
  unfold parse at failed
  split at failed
  · cases failed
  · exact (Except.error.inj failed).symm

/-- A text is read as the address that it spells in lower case. -/
theorem parse_eq_ok_iff {text : String} {address : Address} :
    parse text = .ok address ↔ (trim text.toList).map Char.toLower = address.text.toList := by
  rw [eq_toList_text_iff, splitOn_map toLower_eq_colon_iff, ← ofGroups?_eq_some_iff, parse,
    pieces_eq_splitOn]
  cases ofGroups? ((trim text.toList).splitOn ':') <;> simp

private theorem exists_ofGroups?_iff {groups : List (List Char)} :
    (∃ address, ofGroups? groups = some address) ↔
      groups.length = 6 ∧
        ∀ group ∈ groups, group.length = 2 ∧ ∀ char ∈ group, Hex.IsDigit char := by
  rw [← Hex.exists_mapM_byte?_iff]
  constructor
  · rintro ⟨address, found⟩
    have written := ofGroups?_eq_some_iff.mp found
    have length := congrArg List.length written
    rw [List.length_map, length_groups] at length
    exact ⟨length, _, Hex.mapM_byte?_eq_some_iff.mpr written⟩
  · rintro ⟨six, bytes, found⟩
    have written := Hex.mapM_byte?_eq_some_iff.mp found
    have length : bytes.length = 6 := by simpa [six] using (congrArg List.length written).symm
    refine ⟨⟨bytes.reverse, by rw [List.length_reverse, length]⟩, ofGroups?_eq_some_iff.mpr ?_⟩
    rw [written, Address.groups, List.reverse_reverse]

/-- The groups of a well-formed text are those between its colons. -/
theorem wellFormed_iff {chars : List Char} : WellFormed chars ↔
    (chars.splitOn ':').length = 6 ∧
      ∀ group ∈ chars.splitOn ':', group.length = 2 ∧ ∀ char ∈ group, Hex.IsDigit char := by
  constructor
  · rintro ⟨groups, joined, six, digits⟩
    have split : chars.splitOn ':' = groups := by
      refine splitOn_eq_iff.mpr ⟨?_, ?_, joined⟩
      · exact List.ne_nil_of_length_pos (by rw [six]; decide)
      · intro group member colon
        exact not_isDigit_colon ((digits group member).2 _ colon)
    rw [split]
    exact ⟨six, digits⟩
  · rintro ⟨six, digits⟩
    exact ⟨_, List.intercalate_splitOn ':', six, digits⟩

private theorem exists_parse_iff {text : String} :
    (∃ address, parse text = .ok address) ↔ WellFormed (trim text.toList) := by
  rw [wellFormed_iff, ← exists_ofGroups?_iff, parse, pieces_eq_splitOn]
  cases ofGroups? ((trim text.toList).splitOn ':') <;> simp

/-- The groups of an address stand in the order opposite to that of its octets on the wire. -/
theorem exists_octet (address : Address) {place : Nat} (from1 : 1 ≤ place) (to6 : place ≤ 6) :
    ∃ octet, (Wire.Field.address.write address)[6 - place]? = some octet ∧
      address.groups[place - 1]? = some (Hex.pair octet) := by
  have six := address.octets.property
  have inside : 6 - place < address.octets.val.length := by omega
  have mirrored : address.octets.val.length - 1 - (place - 1) = 6 - place := by omega
  refine ⟨address.octets.val[6 - place], List.getElem?_eq_getElem inside, ?_⟩
  rw [groups, List.getElem?_map, List.getElem?_reverse (by omega), mirrored,
    List.getElem?_eq_getElem inside, Option.map_some]

private theorem group_at_place {chars : List Char} {address : Address}
    (written : chars.map Char.toLower = address.text.toList) {place : Nat} (from1 : 1 ≤ place)
    (to6 : place ≤ 6) :
    ∃ group octet, (chars.splitOn ':')[place - 1]? = some group ∧
      (Wire.Field.address.write address)[6 - place]? = some octet ∧ Hex.Spells group octet := by
  obtain ⟨octet, onWire, inText⟩ := address.exists_octet from1 to6
  rw [eq_toList_text_iff, splitOn_map toLower_eq_colon_iff] at written
  rw [← written, List.getElem?_map, Option.map_eq_some_iff] at inText
  obtain ⟨group, found, lowered⟩ := inText
  exact ⟨group, octet, found, onWire, Hex.spells_iff.mpr lowered⟩

/-- A text is read as an address exactly if it is well-formed between the white space around it. The
address is then written as the same text in lower case, with its first group for the last octet on
the wire and its last group for the first. What an address is written as is read as that address. -/
theorem addresses_are_six_pairs :
    (∀ text, (∃ address, parse text = .ok address) ↔
      ∃ core, Trimmed text.toList core ∧ WellFormed core) ∧
    (∀ text address core, parse text = .ok address → Trimmed text.toList core →
      address.text.toList = core.map Char.toLower ∧
      ∀ place, 1 ≤ place → place ≤ 6 → ∃ group octet, (core.splitOn ':')[place - 1]? = some group ∧
        (Wire.Field.address.write address)[6 - place]? = some octet ∧ Hex.Spells group octet) ∧
    ∀ address : Address, parse address.text = .ok address := by
  refine ⟨?_, ?_, ?_⟩
  · intro text
    rw [exists_parse_iff]
    constructor
    · exact fun formed => ⟨_, trimmed_trim text.toList, formed⟩
    · rintro ⟨core, trimmed, formed⟩
      rwa [trim_of_trimmed trimmed]
  · intro text address core read trimmed
    have written := parse_eq_ok_iff.mp read
    rw [trim_of_trimmed trimmed] at written
    exact ⟨written.symm, fun place => group_at_place written⟩
  · intro address
    rw [parse_eq_ok_iff, trim_eq_self address.solid_text, map_toLower_text]

/-- A no-break space and a line feed around an address do not count, and letter case neither. -/
theorem mixed_case_is_read :
    let text := "\u00a080:E4:DA:7a:0b:1c\n"
    let address : Address := ⟨[0x1c, 0x0b, 0x7a, 0xda, 0xe4, 0x80], rfl⟩
    let core := "80:E4:DA:7a:0b:1c".toList
    parse text = .ok address ∧ Trimmed text.toList core ∧
      address.text.toList = core.map Char.toLower ∧
      ∃ group octet, (core.splitOn ':')[0]? = some group ∧
        (Wire.Field.address.write address)[5]? = some octet ∧ Hex.Spells group octet := by
  intro text address core
  have read : parse text = .ok address := parse_eq_ok_iff.mpr (by decide)
  have trimmed : Trimmed text.toList core := trim_eq_iff.mp (by decide)
  obtain ⟨written, places⟩ := addresses_are_six_pairs.2.1 text address core read trimmed
  exact ⟨read, trimmed, written, places 1 (by decide) (by decide)⟩

end ButtonGateway.Address
