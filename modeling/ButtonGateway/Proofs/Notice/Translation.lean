import ButtonGateway.Notice.OfEvent
import ButtonGateway.Reception

namespace ButtonGateway

private theorem Enumeration.code_ne_last {α : Type} [DecidableEq α] [Enumeration α]
    (few : (values : List α).length < 256) (value : α) : code value ≠ 255 := by
  intro last
  have place := List.idxOf_lt_length_of_mem (complete value)
  have number := toNat_code value
  rw [last] at number
  simp only [UInt8.reduceToNat] at number
  omega

namespace Notice

open Daemon Wire

private theorem isFatal_ofText (kind : NoticeKind) (status slot : UInt8) (text : String) :
    (ofText kind status slot text).isFatal = (status == fatalStatus) := rfl

theorem alive_ofText {α : Type} [DecidableEq α] [Enumeration α]
    (few : (Enumeration.values : List α).length < 256) (kind : NoticeKind) (value : α)
    (slot : UInt8) (text : String) :
    (ofText kind (Enumeration.code value) slot text).isFatal = false := by
  rw [isFatal_ofText, beq_eq_false_iff_ne]
  exact Enumeration.code_ne_last few value

/-- No event ends the connection. -/
theorem alive_of_ofEvent? {filter : ClickFilter} {event : Event} {notice : Notice}
    (told : ofEvent? filter event = some notice) : notice.isFatal = false := by
  cases event with
  | info daemon => cases told; exact alive_ofText (by decide) _ _ _ _
  | pong token => cases told; rfl
  | channelCreated channel error status => cases told; exact alive_ofText (by decide) _ _ _ _
  | statusChanged channel status reason => cases told; exact alive_ofText (by decide) _ _ _ _
  | channelRemoved channel reason => cases told; exact alive_ofText (by decide) _ _ _ _
  | button kind press =>
    simp only [ofEvent?] at told
    split at told
    · obtain ⟨slot, _, rfl⟩ := Option.map_eq_some_iff.mp told
      exact alive_ofText (by decide) _ _ _ _
    · cases told
  | _ => cases told

/-- A notice begins with the first character of its text, if that takes one byte. -/
theorem head_spelled_ofText {text : String} {first : Char} {rest : List Char}
    (spelled : text.toList = first :: rest) (narrow : first.utf8Size = 1) (kind : NoticeKind)
    (status slot : UInt8) :
    (ofText kind status slot text).spelled.val.head? = (String.utf8EncodeChar first).head? := by
  have clipped : (Text.clip textWidth text).toList = first :: Text.clipChars 27 rest := by
    rw [Text.clip, String.toList_ofList, spelled, Text.clipChars, narrow]
    rfl
  have octets : (String.utf8EncodeChar first).length = 1 := by
    rw [String.length_utf8EncodeChar, narrow]
  obtain ⟨byte, encoded⟩ := List.length_eq_one_iff.mp octets
  have bytes : Text.utf8 (Text.clip textWidth text) =
      byte :: Text.utf8Chars (Text.clipChars 27 rest) := by
    rw [Text.utf8, clipped, Text.utf8Chars, List.flatMap_cons, encoded]
    rfl
  rw [ofText, bytes, encoded]
  rfl

/-- No event passes for a sign of life: the answer to a ping has another text. -/
theorem ne_silence_of_ofEvent? {filter : ClickFilter} {event : Event} {notice : Notice}
    (told : ofEvent? filter event = some notice) : notice ≠ Reception.silence := by
  intro same
  have kind : notice.kind = .ping := same ▸ rfl
  cases event with
  | pong token =>
    cases told
    have pong : ("pong " ++ toString token.toNat).toList =
        'p' :: ("ong ".toList ++ (toString token.toNat).toList) := by simp
    have timeout : "receive timeout".toList = 'r' :: "eceive timeout".toList := by decide
    have answer := head_spelled_ofText pong (by decide) .ping 0 noSlot
    have silence := head_spelled_ofText timeout (by decide) .ping 0 noSlot
    rw [same] at answer
    have letters := answer.symm.trans silence
    revert letters
    decide
  | info | channelCreated | statusChanged | channelRemoved =>
    cases told
    cases kind
  | button _ press =>
    simp only [ofEvent?] at told
    split at told
    · obtain ⟨slot, _, rfl⟩ := Option.map_eq_some_iff.mp told
      cases kind
    · cases told
  | _ => cases told

end Notice

end ButtonGateway
