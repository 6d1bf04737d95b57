/-!
UTF-8 on byte lists: encoding, cutting at a character boundary, and lossy decoding, which puts one
replacement character in place of each maximal ill-formed piece.
-/
namespace ButtonGateway.Text

def utf8Chars (chars : List Char) : List UInt8 :=
  chars.flatMap String.utf8EncodeChar

def utf8 (text : String) : List UInt8 :=
  utf8Chars text.toList

def clipChars : Nat → List Char → List Char
  | _, [] => []
  | limit, char :: rest =>
    if char.utf8Size ≤ limit then char :: clipChars (limit - char.utf8Size) rest else []

/-- The longest beginning of a text that holds whole characters and at most `limit` bytes. -/
def clip (limit : Nat) (text : String) : String :=
  String.ofList (clipChars limit text.toList)

/-- What stands for an ill-formed piece. -/
def replacement : Char := '\ufffd'

/-- What the first byte of a longer character announces: how many bytes follow it, and the range
that the first of them must fall in. -/
structure Lead where
  following : Nat
  low : UInt8
  high : UInt8
  deriving DecidableEq, Repr

/-- The lead bytes of well-formed characters of two, three and four bytes. -/
def lead? (byte : UInt8) : Option Lead :=
  if byte < 0xC2 then none
  else if byte < 0xE0 then some ⟨1, 0x80, 0xBF⟩
  else if byte = 0xE0 then some ⟨2, 0xA0, 0xBF⟩
  else if byte = 0xED then some ⟨2, 0x80, 0x9F⟩
  else if byte < 0xF0 then some ⟨2, 0x80, 0xBF⟩
  else if byte = 0xF0 then some ⟨3, 0x90, 0xBF⟩
  else if byte < 0xF4 then some ⟨3, 0x80, 0xBF⟩
  else if byte = 0xF4 then some ⟨3, 0x80, 0x8F⟩
  else none

def isContinuation (byte : UInt8) : Bool :=
  0x80 ≤ byte && byte ≤ 0xBF

/-- The bytes behind a lead byte, as far as they fit what it announces. -/
def Lead.fitting (lead : Lead) : List UInt8 → List UInt8
  | [] => []
  | byte :: rest =>
    if lead.low ≤ byte ∧ byte ≤ lead.high then
      byte :: (rest.take (lead.following - 1)).takeWhile isContinuation
    else []

/-- The character spelled by a lead byte and all the bytes that it announces. -/
def Lead.char (lead : Lead) (first : UInt8) (rest : List UInt8) : Char :=
  Char.ofNat (rest.foldl (fun value byte => value * 64 + byte.toNat % 64)
    (first.toNat % (64 >>> lead.following)))

/-- Decoding that never fails: each maximal ill-formed piece becomes one replacement character. -/
def decodeChars : List UInt8 → List Char
  | [] => []
  | byte :: rest =>
    if byte < 0x80 then Char.ofNat byte.toNat :: decodeChars rest
    else match lead? byte with
      | none => replacement :: decodeChars rest
      | some lead =>
        let tail := lead.fitting rest
        (if tail.length = lead.following then lead.char byte tail else replacement) ::
          decodeChars (rest.drop tail.length)
  termination_by bytes => bytes.length
  decreasing_by all_goals simp only [List.length_cons, List.length_drop]; omega

/-- The text that bytes spell, with replacement characters where they spell none. -/
def decode (bytes : List UInt8) : String :=
  String.ofList (decodeChars bytes)

/-- The text that bytes spell, if they are well-formed throughout. -/
def decodeStrict? (bytes : List UInt8) : Option String :=
  String.fromUTF8? bytes.toByteArray

end ButtonGateway.Text
