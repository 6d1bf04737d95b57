import ButtonGateway.Text.Numeral
import ButtonGateway.Toml.Scan

namespace ButtonGateway.Toml

def hexValue? (digits : List Char) : Option Nat :=
  digits.foldlM (fun value digit => (Text.Hex.value? digit).map (value * 16 + ·)) 0

def charOf? (number : Nat) : Option Char :=
  if number.isValidChar then some (Char.ofNat number) else none

/-- A character given by so many hexadecimal digits. -/
def numbered (count : Nat) : Scan (List Char) := fun chars =>
  let digits := chars.take count
  if digits.length = count then do
    let char ← charOf? (← hexValue? digits)
    return ([char], chars.drop count)
  else none

def escape : Scan (List Char)
  | 'b' :: rest => some (['\x08'], rest)
  | 't' :: rest => some (['\t'], rest)
  | 'n' :: rest => some (['\n'], rest)
  | 'f' :: rest => some (['\x0c'], rest)
  | 'r' :: rest => some (['\r'], rest)
  | '"' :: rest => some (['"'], rest)
  | '\\' :: rest => some (['\\'], rest)
  | 'u' :: rest => numbered 4 rest
  | 'U' :: rest => numbered 8 rest
  | _ => none

/-- A piece of a text in which a backslash escapes. -/
def escapable : Scan (List Char)
  | '\\' :: rest => escape rest
  | char :: rest => if isPlain char && char != '"' then some ([char], rest) else none
  | [] => none

/-- A piece of a text in which every character stands for itself. -/
def literal : Scan (List Char)
  | char :: rest => if isPlain char && char != '\'' then some ([char], rest) else none
  | [] => none

/-- A text on one line, behind its first quote. -/
def singleLine (quote : Char) (piece : Scan (List Char)) : Scan String := fun chars =>
  let pieces := Scan.many piece chars
  match pieces.2 with
  | char :: rest =>
    if char = quote then some (String.ofList pieces.1.flatten, rest) else none
  | [] => none

def gap : Scan Unit := fun chars =>
  match newline? chars, chars with
  | some rest, _ => some ((), rest)
  | none, char :: rest => if isSpace char then some ((), rest) else none
  | none, [] => none

/-- A backslash at the end of a line: all that is blank behind it does not count. -/
def joint : Scan (List Char)
  | '\\' :: chars => (newline? (dropSpaces chars)).map fun rest => ([], (Scan.many gap rest).2)
  | _ => none

def countQuotes (quote : Char) (chars : List Char) : Nat :=
  (chars.takeWhile (· == quote)).length

/-- A piece of a text on several lines. One or two quotes stand for themselves. -/
def multiPiece (quote : Char) (piece : Scan (List Char)) : Scan (List Char) := fun chars =>
  match newline? chars with
  | some rest => some (['\n'], rest)
  | none =>
    match countQuotes quote chars with
    | 0 => piece chars
    | count => if count < 3 then some (List.replicate count quote, chars.drop count) else none

/-- A text on several lines, behind its first three quotes. An end of line right there does not
count; of up to five quotes at the end the last three close the text. -/
def multiLine (quote : Char) (piece : Scan (List Char)) : Scan String := fun chars =>
  let pieces := Scan.many (multiPiece quote piece) ((newline? chars).getD chars)
  let count := countQuotes quote pieces.2
  if count < 3 then none
  else
    let extra := min (count - 3) 2
    some (String.ofList (pieces.1.flatten ++ List.replicate extra quote),
      pieces.2.drop (extra + 3))

def text : Scan String
  | '"' :: '"' :: '"' :: rest =>
    multiLine '"' (fun chars => joint chars <|> escapable chars) rest
  | '"' :: rest => singleLine '"' escapable rest
  | '\'' :: '\'' :: '\'' :: rest => multiLine '\'' literal rest
  | '\'' :: rest => singleLine '\'' literal rest
  | _ => none

/-- The characters of a key without quotes. -/
def isBare (char : Char) : Bool :=
  ('A' ≤ char && char ≤ 'Z') || ('a' ≤ char && char ≤ 'z') || ('0' ≤ char && char ≤ '9') ||
    char == '-' || char == '_'

def keyPart : Scan String
  | '"' :: rest => singleLine '"' escapable rest
  | '\'' :: rest => singleLine '\'' literal rest
  | chars =>
    match chars.takeWhile isBare with
    | [] => none
    | bare => some (String.ofList bare, chars.dropWhile isBare)

def spacedKeyPart : Scan String := fun chars =>
  (keyPart (dropSpaces chars)).map fun found => (found.1, dropSpaces found.2)

/-- How deep keys and values may be nested. -/
def depthLimit : Nat := 80

/-- A dotted key: the parts in front and the last one. -/
def key : Scan (List String × String) := fun chars =>
  match Scan.separated '.' spacedKeyPart chars with
  | some (parts, rest) =>
    if parts.length < depthLimit then
      parts.getLast?.map fun last => ((parts.dropLast, last), rest)
    else none
  | none => none

end ButtonGateway.Toml
