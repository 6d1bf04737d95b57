import ButtonGateway.Text.Utf8
import Mathlib.Data.List.TakeWhile

namespace ButtonGateway.Text

theorem utf8Chars_cons (char : Char) (rest : List Char) :
    utf8Chars (char :: rest) = String.utf8EncodeChar char ++ utf8Chars rest := List.flatMap_cons

theorem length_utf8Chars_cons (char : Char) (rest : List Char) :
    (utf8Chars (char :: rest)).length = char.utf8Size + (utf8Chars rest).length := by
  rw [utf8Chars_cons, List.length_append, String.length_utf8EncodeChar]

private theorem length_clipChars_le (limit : Nat) (chars : List Char) :
    (utf8Chars (clipChars limit chars)).length ≤ limit := by
  induction chars generalizing limit with
  | nil => exact Nat.zero_le limit
  | cons char rest ih =>
    unfold clipChars
    split
    · rename_i fits
      have others := ih (limit - char.utf8Size)
      rw [length_utf8Chars_cons]
      omega
    · exact Nat.zero_le limit

private theorem clipChars_prefix (limit : Nat) (chars : List Char) :
    clipChars limit chars <+: chars := by
  induction chars generalizing limit with
  | nil => exact List.prefix_rfl
  | cons char rest ih =>
    unfold clipChars
    split
    · exact List.cons_prefix_cons.mpr ⟨rfl, ih (limit - char.utf8Size)⟩
    · exact List.nil_prefix

/-- A beginning that fits is never cut. -/
theorem prefix_clipChars {limit : Nat} {start chars : List Char} (begins : start <+: chars)
    (fits : (utf8Chars start).length ≤ limit) : start <+: clipChars limit chars := by
  induction start generalizing limit chars with
  | nil => exact List.nil_prefix
  | cons char others ih =>
    cases chars with
    | nil => cases List.prefix_nil.mp begins
    | cons first rest =>
      obtain ⟨rfl, further⟩ := List.cons_prefix_cons.mp begins
      rw [length_utf8Chars_cons] at fits
      rw [clipChars, if_pos (by omega)]
      exact List.cons_prefix_cons.mpr ⟨rfl, ih further (by omega)⟩

/-- The longest beginning of a text that ends between two characters and takes at most so many
bytes. -/
structure LongestBeginning (limit : Nat) (text short : String) : Prop where
  begins : short.toList <+: text.toList
  fits : (utf8 short).length ≤ limit
  longest : ∀ other : String, other.toList <+: text.toList → (utf8 other).length ≤ limit →
    other.toList <+: short.toList

theorem longestBeginning_clip (limit : Nat) (text : String) :
    LongestBeginning limit text (clip limit text) := by
  have chars : (clip limit text).toList = clipChars limit text.toList := String.toList_ofList
  refine ⟨?_, ?_, ?_⟩
  · rw [chars]
    exact clipChars_prefix limit text.toList
  · rw [utf8, chars]
    exact length_clipChars_le limit text.toList
  · intro other begins fits
    rw [chars]
    exact prefix_clipChars begins fits

theorem longestBeginning_iff {limit : Nat} {text short : String} :
    LongestBeginning limit text short ↔ short = clip limit text := by
  constructor
  · intro cut
    have clipped := longestBeginning_clip limit text
    have within := clipped.longest short cut.begins cut.fits
    have around := cut.longest (clip limit text) clipped.begins clipped.fits
    exact String.toList_inj.mp (within.eq_of_length_le around.length_le)
  · rintro rfl
    exact longestBeginning_clip limit text

/-- A text that fits is not cut. -/
theorem clip_eq_self {limit : Nat} {text : String} (fits : (utf8 text).length ≤ limit) :
    clip limit text = text :=
  (longestBeginning_iff.mp ⟨List.prefix_rfl, fits, fun _ begins _ => begins⟩).symm

@[simp] theorem clip_clip (limit : Nat) (text : String) :
    clip limit (clip limit text) = clip limit text :=
  clip_eq_self (longestBeginning_clip limit text).fits

private theorem lead?_two {first : UInt8} (low : 0xC2 ≤ first.toNat) (high : first.toNat < 0xE0) :
    lead? first = some ⟨1, 0x80, 0xBF⟩ := by
  simp only [lead?, UInt8.lt_iff_toNat_lt, UInt8.reduceToNat]
  rw [if_neg (by omega), if_pos high]

private theorem lead?_three {first : UInt8} (low : 0xE0 ≤ first.toNat) (high : first.toNat < 0xF0) :
    lead? first = some ⟨2, if first.toNat = 0xE0 then 0xA0 else 0x80,
      if first.toNat = 0xED then 0x9F else 0xBF⟩ := by
  simp only [lead?, UInt8.lt_iff_toNat_lt, ← UInt8.toNat_inj, UInt8.reduceToNat]
  rw [if_neg (by omega), if_neg (by omega)]
  by_cases least : first.toNat = 0xE0
  · simp [least]
  · by_cases surrogate : first.toNat = 0xED
    · simp [surrogate]
    · simp [least, surrogate, high]

private theorem lead?_four {first : UInt8} (low : 0xF0 ≤ first.toNat) (high : first.toNat < 0xF5) :
    lead? first = some ⟨3, if first.toNat = 0xF0 then 0x90 else 0x80,
      if first.toNat = 0xF4 then 0x8F else 0xBF⟩ := by
  simp only [lead?, UInt8.lt_iff_toNat_lt, ← UInt8.toNat_inj, UInt8.reduceToNat]
  by_cases least : first.toNat = 0xF0
  · simp [least]
  · by_cases last : first.toNat = 0xF4
    · simp [last]
    · have between : first.toNat < 0xF4 := by omega
      rw [if_neg (by omega), if_neg (by omega), if_neg (by omega), if_neg (by omega),
        if_neg (by omega), if_neg least, if_pos between, if_neg least, if_neg last]

private theorem not_ascii_of_lead? {byte : UInt8} {lead : Lead} (found : lead? byte = some lead) :
    ¬ byte < 0x80 := by
  intro ascii
  have low : byte < 0xC2 := by
    simp only [UInt8.lt_iff_toNat_lt, UInt8.reduceToNat] at *
    omega
  simp [lead?, low] at found

/-- A lead byte, the byte behind it and the further ones that it announces spell a character. -/
structure Lead.Spells (lead : Lead) (first second : UInt8) (more : List UInt8) (char : Char) :
    Prop where
  found : lead? first = some lead
  inside : lead.low ≤ second ∧ second ≤ lead.high
  continued : ∀ byte ∈ more, isContinuation byte = true
  complete : more.length + 1 = lead.following
  value : lead.char first (second :: more) = char

private theorem fitting_of_spells {lead : Lead} {first second : UInt8} {more : List UInt8}
    {char : Char}
    (spells : lead.Spells first second more char) (rest : List UInt8) :
    lead.fitting (second :: (more ++ rest)) = second :: more := by
  have count : lead.following - 1 = more.length := by rw [← spells.complete, Nat.add_sub_cancel]
  rw [Lead.fitting, if_pos spells.inside, count, List.take_left' rfl,
    List.takeWhile_eq_self_iff.mpr spells.continued]

theorem decodeChars_of_spells {lead : Lead} {first second : UInt8} {more : List UInt8}
    {char : Char} (spells : lead.Spells first second more char) (rest : List UInt8) :
    decodeChars (first :: second :: (more ++ rest)) = char :: decodeChars rest := by
  rw [decodeChars, if_neg (not_ascii_of_lead? spells.found), spells.found]
  dsimp only
  rw [fitting_of_spells spells, List.length_cons, if_pos spells.complete, spells.value,
    List.drop_succ_cons, List.drop_left' rfl]

theorem toNat_continuation (number : Nat) :
    (UInt8.ofNat (number % 64 + 128)).toNat = number % 64 + 128 := by
  rw [UInt8.toNat_ofNat']
  omega

private theorem isContinuation_ofNat (number : Nat) :
    isContinuation (UInt8.ofNat (number % 64 + 128)) = true := by
  simp only [isContinuation, UInt8.le_iff_toNat_le, toNat_continuation, UInt8.reduceToNat,
    Bool.and_eq_true, decide_eq_true_eq]
  omega

theorem Lead.char_eq {lead : Lead} {first : UInt8} {rest : List UInt8} {char : Char}
    (value : rest.foldl (fun value byte => value * 64 + byte.toNat % 64)
      (first.toNat % (64 >>> lead.following)) = char.val.toNat) : lead.char first rest = char := by
  rw [Lead.char, value]
  exact Char.ofNat_toNat char

private theorem spells_two (char : Char) (low : 0x7F < char.val.toNat)
    (high : char.val.toNat ≤ 0x7FF) :
    ∃ lead, Lead.Spells lead (.ofNat (char.val.toNat / 64 % 32 + 192))
      (.ofNat (char.val.toNat % 64 + 128)) [] char := by
  have first : (UInt8.ofNat (char.val.toNat / 64 % 32 + 192)).toNat =
      char.val.toNat / 64 % 32 + 192 := by
    rw [UInt8.toNat_ofNat']
    omega
  refine ⟨_, lead?_two (by omega) (by omega), ?_, by simp, rfl, Lead.char_eq ?_⟩
  · simp only [UInt8.le_iff_toNat_le, toNat_continuation, UInt8.reduceToNat]
    omega
  · simp only [List.foldl_cons, List.foldl_nil, first, toNat_continuation, Nat.reduceShiftRight]
    omega

private theorem spells_three (char : Char) (low : 0x7FF < char.val.toNat)
    (high : char.val.toNat ≤ 0xFFFF) :
    ∃ lead, Lead.Spells lead (.ofNat (char.val.toNat / 4096 % 16 + 224))
      (.ofNat (char.val.toNat / 64 % 64 + 128)) [.ofNat (char.val.toNat % 64 + 128)] char := by
  have valid : char.val.toNat < 0xD800 ∨ 0xDFFF < char.val.toNat ∧ char.val.toNat < 0x110000 :=
    char.valid
  have first : (UInt8.ofNat (char.val.toNat / 4096 % 16 + 224)).toNat =
      char.val.toNat / 4096 % 16 + 224 := by
    rw [UInt8.toNat_ofNat']
    omega
  refine ⟨_, lead?_three (by omega) (by omega), ?_, ?_, rfl, Lead.char_eq ?_⟩
  · -- Too small a number would have a shorter spelling, and surrogates are no characters.
    simp only [UInt8.le_iff_toNat_le, toNat_continuation, first, apply_ite UInt8.toNat,
      UInt8.reduceToNat]
    constructor <;> split <;> omega
  · simp only [List.forall_mem_cons, isContinuation_ofNat, List.not_mem_nil, false_imp_iff,
      implies_true, and_self]
  · simp only [List.foldl_cons, List.foldl_nil, first, toNat_continuation, Nat.reduceShiftRight]
    omega

private theorem spells_four (char : Char) (low : 0xFFFF < char.val.toNat) :
    ∃ lead, Lead.Spells lead (.ofNat (char.val.toNat / 262144 % 8 + 240))
      (.ofNat (char.val.toNat / 4096 % 64 + 128))
      [.ofNat (char.val.toNat / 64 % 64 + 128), .ofNat (char.val.toNat % 64 + 128)] char := by
  have valid : char.val.toNat < 0xD800 ∨ 0xDFFF < char.val.toNat ∧ char.val.toNat < 0x110000 :=
    char.valid
  have first : (UInt8.ofNat (char.val.toNat / 262144 % 8 + 240)).toNat =
      char.val.toNat / 262144 % 8 + 240 := by
    rw [UInt8.toNat_ofNat']
    omega
  refine ⟨_, lead?_four (by omega) (by omega), ?_, ?_, rfl, Lead.char_eq ?_⟩
  · simp only [UInt8.le_iff_toNat_le, toNat_continuation, first, apply_ite UInt8.toNat,
      UInt8.reduceToNat]
    constructor <;> split <;> omega
  · simp only [List.forall_mem_cons, isContinuation_ofNat, List.not_mem_nil, false_imp_iff,
      implies_true, and_self]
  · simp only [List.foldl_cons, List.foldl_nil, first, toNat_continuation, Nat.reduceShiftRight]
    omega

private theorem decodeChars_encodeChar (char : Char) (rest : List UInt8) :
    decodeChars (String.utf8EncodeChar char ++ rest) = char :: decodeChars rest := by
  unfold String.utf8EncodeChar
  dsimp only
  split
  · rename_i ascii
    have byte : (UInt8.ofNat char.val.toNat).toNat = char.val.toNat := by
      rw [UInt8.toNat_ofNat']
      omega
    have narrow : UInt8.ofNat char.val.toNat < 0x80 := by
      rw [UInt8.lt_iff_toNat_lt, byte]
      exact Nat.lt_succ_of_le ascii
    rw [List.singleton_append, decodeChars, if_pos narrow, byte]
    exact congrArg (· :: decodeChars rest) (Char.ofNat_toNat char)
  · split
    · obtain ⟨lead, spells⟩ := spells_two char (by omega) (by omega)
      exact decodeChars_of_spells spells rest
    · split
      · obtain ⟨lead, spells⟩ := spells_three char (by omega) (by omega)
        exact decodeChars_of_spells spells rest
      · obtain ⟨lead, spells⟩ := spells_four char (by omega)
        exact decodeChars_of_spells spells rest

theorem decodeChars_utf8Chars (chars : List Char) : decodeChars (utf8Chars chars) = chars := by
  induction chars with
  | nil => exact decodeChars.eq_1
  | cons char rest ih => rw [utf8Chars_cons, decodeChars_encodeChar, ih]

/-- A text is what its bytes spell. -/
@[simp] theorem decode_utf8 (text : String) : decode (utf8 text) = text := by
  rw [decode, utf8, decodeChars_utf8Chars, String.ofList_toList]

/-- Well-formed bytes are those of the text that they spell. -/
theorem utf8_decode_of_valid {bytes : List UInt8} (valid : bytes.toByteArray.IsValidUTF8) :
    utf8 (decode bytes) = bytes := by
  obtain ⟨chars, same⟩ := valid
  have spelled : bytes = utf8Chars chars := List.toByteArray_inj.mp same
  rw [spelled, utf8, decode, String.toList_ofList, decodeChars_utf8Chars]

end ButtonGateway.Text
