import ButtonGateway.Enumeration
import ButtonGateway.Wire.Bytes

namespace ButtonGateway.Wire.Frame

/-- Bodies of this length or more are not framed. -/
def limit : Nat := 4094

def framed (body : Bytes) : Bytes := toLittleEndian 2 body.length ++ body

def encode (body : Bytes) : Except Fault Bytes :=
  if body.length < limit then .ok (framed body) else .error (.frameTooLarge body.length)

/-- The first complete frame's body and the bytes behind it. -/
def next? : Bytes → Option (Bytes × Bytes)
  | low :: high :: rest =>
    let length := ofLittleEndian [low, high]
    if length ≤ rest.length then some (rest.take length, rest.drop length) else none
  | _ => none

theorem length_lt_of_next? {buffer body rest : Bytes} (found : next? buffer = some (body, rest)) :
    rest.length < buffer.length := by
  match buffer with
  | [] | [_] => simp [next?] at found
  | low :: high :: tail =>
    simp only [next?] at found
    split at found
    · obtain ⟨_, rfl⟩ := Prod.mk.inj (Option.some.inj found)
      simp only [List.length_drop, List.length_cons]
      omega
    · cases found

/-- The bodies of all complete frames, and the bytes of an incomplete one. -/
def split (buffer : Bytes) : List Bytes × Bytes :=
  match _found : next? buffer with
  | some (body, rest) =>
    let others := split rest
    (body :: others.1, others.2)
  | none => ([], buffer)
  termination_by buffer.length
  decreasing_by exact length_lt_of_next? _found

/-- The last frames of a stream that has ended: bytes of an incomplete one are a fault. -/
def nextAtEnd (buffer : Bytes) : Except Fault (Option (Bytes × Bytes)) :=
  match next? buffer with
  | some found => .ok (some found)
  | none => if buffer.isEmpty then .ok none else .error (.stream "bytes remaining on stream")

end ButtonGateway.Wire.Frame
