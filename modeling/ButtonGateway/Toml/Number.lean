import ButtonGateway.Text.Numeral
import ButtonGateway.Toml.Scan

namespace ButtonGateway.Toml

def isDigit (char : Char) : Bool := '0' ≤ char && char ≤ '9'

/-- Digits behind a first one, without the underscores between them. -/
def moreDigits (accepts : Char → Bool) : List Char → List Char × List Char
  | '_' :: char :: rest =>
    if accepts char then
      let others := moreDigits accepts rest
      (char :: others.1, others.2)
    else ([], '_' :: char :: rest)
  | char :: rest =>
    if accepts char then
      let others := moreDigits accepts rest
      (char :: others.1, others.2)
    else ([], char :: rest)
  | [] => ([], [])

def digits (accepts : Char → Bool) : Scan (List Char)
  | char :: rest =>
    if accepts char then
      let others := moreDigits accepts rest
      some (char :: others.1, others.2)
    else none
  | [] => none

/-- The digits of a decimal number: a zero stands alone. -/
def decimalDigits : Scan (List Char)
  | '0' :: rest => some (['0'], rest)
  | chars => digits isDigit chars

/-- A sign, and whether it is a minus. -/
def dropSign : List Char → Bool × List Char
  | '+' :: rest => (false, rest)
  | '-' :: rest => (true, rest)
  | chars => (false, chars)

/-- The value of digits in a base; letters count from ten. -/
def valueIn (base : Nat) (digits : List Char) : Nat :=
  digits.foldl (fun value digit => value * base + (Text.Hex.value? digit).getD 0) 0

/-- The integers have sixty-four bits. -/
def inRange (value : Int) : Option Int :=
  if -9223372036854775808 ≤ value ∧ value ≤ 9223372036854775807 then some value else none

/-- The digits of a number in another base than ten. -/
def based (base : Nat) (accepts : Char → Bool) : Scan Int := fun chars => do
  let (found, rest) ← digits accepts chars
  return (← inRange (valueIn base found), rest)

def integer : Scan Int
  | '0' :: 'x' :: rest => based 16 (fun char => (Text.Hex.value? char).isSome) rest
  | '0' :: 'o' :: rest => based 8 (fun char => '0' ≤ char && char ≤ '7') rest
  | '0' :: 'b' :: rest => based 2 (fun char => char == '0' || char == '1') rest
  | chars => do
    let (negative, unsigned) := dropSign chars
    let (found, rest) ← decimalDigits unsigned
    let value : Int := valueIn 10 found
    return (← inRange (if negative then -value else value), rest)

def fraction : Scan (List Char) := Scan.behind '.' (digits isDigit)

/-- The power of ten that a number is multiplied with. -/
def exponent : Scan Int
  | mark :: rest =>
    if mark = 'e' ∨ mark = 'E' then do
      let (negative, unsigned) := dropSign rest
      let (found, left) ← digits isDigit unsigned
      let value : Int := valueIn 10 found
      return (if negative then -value else value, left)
    else none
  | [] => none

/-- The smallest number that is rounded to infinity where there are fifty-three binary digits and
exponents up to 1023. -/
def infinityBound : Nat := 1 <<< 1024 - 1 <<< 970

/-- Whether the number with given decimal digits times a power of ten is rounded to infinity. The
exact comparison is made only near the bound. -/
def overflows (digits : List Char) (power : Int) : Bool :=
  let significant := digits.dropWhile (· == '0')
  let size : Int := significant.length + power
  let value := valueIn 10 significant
  if significant.isEmpty || decide (size < 300) then false
  else if decide (320 < size) then true
  else if 0 ≤ power then decide (infinityBound ≤ value * Nat.pow 10 power.toNat)
  else decide (infinityBound * Nat.pow 10 (-power).toNat ≤ value)

/-- A number with a decimal point or an exponent. Positive numbers must not be rounded to
infinity. -/
def decimalFloat : Scan Unit := fun chars => do
  let (negative, unsigned) := dropSign chars
  let (whole, rest) ← decimalDigits unsigned
  let ((behind, power), left) ←
    match fraction rest with
    | some (behind, afterwards) =>
      match exponent afterwards with
      | some (power, left) => some ((behind, power), left)
      | none => some ((behind, 0), afterwards)
    | none => (exponent rest).map fun found => (([], found.1), found.2)
  if !negative && overflows (whole ++ behind) (power - behind.length) then none
  else return ((), left)

/-- Infinity, or what is no number. -/
def specialFloat : Scan Unit := fun chars =>
  let unsigned := (dropSign chars).2
  Scan.word "inf" () unsigned <|> Scan.word "nan" () unsigned

def float : Scan Unit := fun chars => decimalFloat chars <|> specialFloat chars

/-- A number of exactly `count` digits within bounds. -/
def fixed (count low high : Nat) : Scan Nat := fun chars =>
  let found := chars.take count
  let value := valueIn 10 found
  if found.length = count ∧ found.all isDigit ∧ low ≤ value ∧ value ≤ high then
    some (value, chars.drop count)
  else none

def daysIn (year month : Nat) : Nat :=
  if month = 2 then
    if year % 4 = 0 ∧ (year % 100 ≠ 0 ∨ year % 400 = 0) then 29 else 28
  else if month ∈ [4, 6, 9, 11] then 30 else 31

def date : Scan Unit := fun chars => do
  let (year, rest) ← fixed 4 0 9999 chars
  let (month, rest) ← Scan.behind '-' (fixed 2 1 12) rest
  let (_, rest) ← Scan.behind '-' (fixed 2 1 (daysIn year month)) rest
  return ((), rest)

def hoursAndMinutes : Scan Unit := fun chars => do
  let (_, rest) ← fixed 2 0 23 chars
  let (_, rest) ← Scan.behind ':' (fixed 2 0 59) rest
  return ((), rest)

def dropFraction : List Char → List Char
  | '.' :: char :: rest =>
    if isDigit char then rest.dropWhile isDigit else '.' :: char :: rest
  | chars => chars

/-- A time of day; a minute may have a leap second. -/
def time : Scan Unit := fun chars => do
  let (_, rest) ← hoursAndMinutes chars
  let (_, rest) ← Scan.behind ':' (fixed 2 0 60) rest
  return ((), dropFraction rest)

/-- Drops the distance from universal time, if it is given. -/
def offset : Scan Unit
  | 'Z' :: rest => some ((), rest)
  | 'z' :: rest => some ((), rest)
  | '+' :: rest => hoursAndMinutes rest
  | '-' :: rest => hoursAndMinutes rest
  | chars => some ((), chars)

def timeOfDate : Scan Unit
  | mark :: rest =>
    if mark = 'T' ∨ mark = 't' ∨ mark = ' ' then
      match time rest with
      | some (_, left) => offset left
      | none => if mark = ' ' then some ((), mark :: rest) else none
    else some ((), mark :: rest)
  | [] => some ((), [])

/-- A date, a time of day, or both. -/
def instant : Scan Unit := fun chars =>
  match date chars with
  | some (_, rest) => timeOfDate rest
  | none => time chars

end ButtonGateway.Toml
