namespace ButtonGateway.Toml

abbrev Scan (α : Type) := List Char → Option (α × List Char)

namespace Scan

/-- Takes as many items as there are; it ends where the next one is refused or takes nothing. -/
def many {α : Type} (item : Scan α) (chars : List Char) : List α × List Char :=
  match item chars with
  | none => ([], chars)
  | some (value, rest) =>
    if rest.length < chars.length then
      let others := many item rest
      (value :: others.1, others.2)
    else ([], chars)
  termination_by chars.length

def behind {α : Type} (mark : Char) (item : Scan α) : Scan α
  | [] => none
  | char :: rest => if char = mark then item rest else none

/-- Takes items with a mark between them, at least one. -/
def separated {α : Type} (mark : Char) (item : Scan α) : Scan (List α) := fun chars =>
  match item chars with
  | none => none
  | some (first, rest) =>
    let others := many (behind mark item) rest
    some (first :: others.1, others.2)

def word {α : Type} (text : String) (value : α) : Scan α := fun chars =>
  let expected := text.toList
  if expected.isPrefixOf chars then some (value, chars.drop expected.length) else none

end Scan

def isSpace (char : Char) : Bool := char == ' ' || char == '\t'

/-- Tabs, and all characters that are no control characters. -/
def isPlain (char : Char) : Bool :=
  char == '\t' || (0x20 ≤ char.toNat && char.toNat ≠ 0x7F)

def dropSpaces (chars : List Char) : List Char := chars.dropWhile isSpace

/-- What follows the end of a line, if there is one here. -/
def newline? : List Char → Option (List Char)
  | '\n' :: rest => some rest
  | '\r' :: '\n' :: rest => some rest
  | _ => none

def dropComment : List Char → List Char
  | '#' :: rest => rest.dropWhile isPlain
  | chars => chars

/-- What follows the current line, of which only spaces and a comment may be left. -/
def endLine? (chars : List Char) : Option (List Char) :=
  match dropComment (dropSpaces chars) with
  | [] => some []
  | rest => newline? rest

/-- A line of which only spaces and a comment are left. -/
def blankLine : Scan Unit := fun chars =>
  (newline? (dropComment (dropSpaces chars))).map fun rest => ((), rest)

def dropFiller (chars : List Char) : List Char := dropSpaces (blankLine.many chars).2

end ButtonGateway.Toml
