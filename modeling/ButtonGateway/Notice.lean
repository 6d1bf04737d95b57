import ButtonGateway.Enumeration
import ButtonGateway.Text.Utf8
import ButtonGateway.Wire.Bytes
/-!
Notices: records of 32 bytes that the reading side hands to the session. A record holds a kind, a
status, a slot and a text of at most 28 bytes; its last byte is always zero.
-/
namespace ButtonGateway

namespace Text.Quoted

/-- The digits of a number in base sixteen, without leading zeros. -/
private def hexDigits (number : Nat) : List Char := Nat.toDigits 16 number

def escape (char : Char) : List Char :=
  match char with
  | '"' => ['\\', '"']
  | '\\' => ['\\', '\\']
  | '\t' => ['\\', 't']
  | '\n' => ['\\', 'n']
  | '\r' => ['\\', 'r']
  | '\x00' => ['\\', '0']
  | _ =>
    if char.toNat < 0x20 ∨ char.toNat = 0x7F then
      ['\\', 'u', '\x7b'] ++ hexDigits char.toNat ++ ['\x7d']
    else [char]

def quote (text : String) : String :=
  String.ofList ('"' :: text.toList.flatMap escape ++ ['"'])

end Text.Quoted

inductive NoticeKind where
  | ping
  | info
  | connect
  | status
  | upDown
  deriving DecidableEq, Repr

instance : Enumeration NoticeKind where
  title := "Operation"
  values := [.ping, .info, .connect, .status, .upDown]
  name
    | .ping => "Ping"
    | .info => "InfoGeneral"
    | .connect => "Connect"
    | .status => "Status"
    | .upDown => "UpDown"
  complete value := by cases value <;> decide
  distinct := by decide
  small := by decide

def Notice.textWidth : Nat := 28

/-- A notice. The slot is a plain byte, because it need not name a slot. -/
structure Notice where
  kind : NoticeKind
  status : UInt8
  slot : UInt8
  spelled : Wire.Octets Notice.textWidth
  deriving DecidableEq, Repr

namespace Notice

open Wire

/-- The slot of a notice that is not about one button. -/
def noSlot : UInt8 := 255

/-- The status that declares the connection dead. -/
def fatalStatus : UInt8 := 255

/-- How many notices can wait between the reading side and the session. -/
def capacity : Nat := 32

/-- A notice with a text, which is cut to the width at a character boundary. -/
def ofText (kind : NoticeKind) (status slot : UInt8) (text : String) : Notice :=
  ⟨kind, status, slot, Octets.padded textWidth (Text.utf8 (Text.clip textWidth text))⟩

def ping (text : String) : Notice := ofText .ping 0 noSlot text

def fatal (reason : String) : Notice := ofText .status fatalStatus noSlot reason

/-- Whether a notice declares the connection dead, whatever its kind. -/
def isFatal (notice : Notice) : Bool := notice.status == fatalStatus

/-- The text of a notice, which ends at the first zero byte. -/
def text (notice : Notice) : String :=
  Text.decode (notice.spelled.val.takeWhile (· != 0))

def record (notice : Notice) : Octets 32 :=
  ⟨Enumeration.code notice.kind :: notice.status :: notice.slot :: (notice.spelled.val ++ [0]), by
    simp [notice.spelled.property, textWidth]⟩

/-- The notice that a record holds. The last byte does not count. -/
def ofRecord (record : Octets 32) : Except Fault Notice :=
  have size := record.property
  match (Enumeration.ofCode record.val[0] : Except Fault NoticeKind) with
  | .ok kind =>
    .ok ⟨kind, record.val[1], record.val[2], ⟨(record.val.drop 3).take textWidth, by
      simp [size, textWidth]⟩⟩
  | .error fault => .error fault

def inspect (notice : Notice) : String :=
  "BridgeMessage \x7b operation: " ++ Enumeration.name notice.kind ++
    ", status: " ++ toString notice.status.toNat ++ ", slot: " ++ toString notice.slot.toNat ++
    ", text: " ++ Text.Quoted.quote notice.text ++ " \x7d"

end Notice

end ButtonGateway
