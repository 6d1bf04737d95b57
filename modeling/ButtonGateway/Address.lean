import ButtonGateway.Enumeration
import ButtonGateway.Text.Numeral
import ButtonGateway.Text.Split
import ButtonGateway.Wire.Bytes

namespace ButtonGateway

/-- A device address in the order of the wire, least significant octet first. -/
structure Address where
  octets : Wire.Octets 6
  deriving DecidableEq, Repr

namespace Address

/-- The hexadecimal pairs of an address, most significant first. -/
def groups (address : Address) : List (List Char) :=
  address.octets.val.reverse.map Text.Hex.pair

def text (address : Address) : String :=
  String.ofList (List.intercalate [':'] address.groups)

/-- The written form with the name of the type around it. -/
def inspect (address : Address) : String :=
  let shown := address.text
  s!"BdAddr({shown})"

/-- The address of six pairs of hexadecimal digits, most significant first. -/
def ofGroups? (groups : List (List Char)) : Option Address :=
  match groups.mapM Text.Hex.byte? with
  | some bytes =>
    if six : bytes.length = 6 then some ⟨bytes.reverse, by simpa using six⟩ else none
  | none => none

/-- Reads an address; white space around it does not count. -/
def parse (text : String) : Except Fault Address :=
  match ofGroups? (Text.pieces (· == ':') (Text.trim text.toList)) with
  | some address => .ok address
  | none => .error (.invalidAddress text)

/-- Addresses are ordered octet by octet as they stand on the wire. -/
instance : Ord Address where
  compare first second := compare first.octets.val second.octets.val

end Address

end ButtonGateway
