namespace ButtonGateway.Text

namespace Hex

/-- The digit of a value below sixteen, in lower case. -/
def digit (value : Nat) : Char :=
  if value < 10 then Char.ofNat ('0'.toNat + value) else Char.ofNat ('a'.toNat + (value - 10))

def value? (char : Char) : Option Nat :=
  if '0' ≤ char ∧ char ≤ '9' then some (char.toNat - '0'.toNat)
  else if 'a' ≤ char ∧ char ≤ 'f' then some (char.toNat - 'a'.toNat + 10)
  else if 'A' ≤ char ∧ char ≤ 'F' then some (char.toNat - 'A'.toNat + 10)
  else none

def pair (byte : UInt8) : List Char :=
  [digit (byte.toNat / 16), digit (byte.toNat % 16)]

/-- The byte that exactly two digits spell. -/
def byte? : List Char → Option UInt8
  | [high, low] =>
    match value? high, value? low with
    | some upper, some lower => some (UInt8.ofNat (upper * 16 + lower))
    | _, _ => none
  | _ => none

def text (bytes : List UInt8) : String :=
  String.ofList (bytes.flatMap pair)

end Hex

namespace Decimal

inductive Refusal where
  | empty
  | invalidDigit
  | tooLarge
  | tooSmall
  deriving DecidableEq, Repr

def Refusal.message : Refusal → String
  | .empty => "cannot parse integer from empty string"
  | .invalidDigit => "invalid digit found in string"
  | .tooLarge => "number too large to fit in target type"
  | .tooSmall => "number too small to fit in target type"

def digit? (char : Char) : Option Nat :=
  if '0' ≤ char ∧ char ≤ '9' then some (char.toNat - '0'.toNat) else none

/-- Reads digits onto `value`. The first character that is no digit, or that takes the value beyond
`limit`, decides the refusal. -/
def digits (limit : Nat) (beyond : Refusal) : Nat → List Char → Except Refusal Nat
  | value, [] => .ok value
  | value, char :: rest =>
    match digit? char with
    | none => .error .invalidDigit
    | some next =>
      if value * 10 + next ≤ limit then digits limit beyond (value * 10 + next) rest
      else .error beyond

def digits1 (limit : Nat) (beyond : Refusal) : List Char → Except Refusal Nat
  | [] => .error .invalidDigit
  | chars => digits limit beyond 0 chars

/-- Reads a natural number of at most `limit`; a plus sign may stand in front. -/
def nat (limit : Nat) : List Char → Except Refusal Nat
  | [] => .error .empty
  | '+' :: rest => digits1 limit .tooLarge rest
  | chars => digits1 limit .tooLarge chars

/-- Reads an integer from `-(limit + 1)` to `limit`; a sign may stand in front. -/
def int (limit : Nat) : List Char → Except Refusal Int
  | [] => .error .empty
  | '+' :: rest => (digits1 limit .tooLarge rest).map Int.ofNat
  | '-' :: rest => (digits1 (limit + 1) .tooSmall rest).map (fun value => -(value : Int))
  | chars => (digits1 limit .tooLarge chars).map Int.ofNat

def uint16 (chars : List Char) : Except Refusal UInt16 :=
  (nat 65535 chars).map UInt16.ofNat

def uint32 (chars : List Char) : Except Refusal UInt32 :=
  (nat 4294967295 chars).map UInt32.ofNat

def int16 (chars : List Char) : Except Refusal Int16 :=
  (int 32767 chars).map Int16.ofInt

end Decimal

end ButtonGateway.Text
